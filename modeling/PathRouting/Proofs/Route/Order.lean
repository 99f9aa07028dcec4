import PathRouting.Proofs.Pattern.Specificity
import PathRouting.Proofs.Route.Cache

/-!
# The order of texts

A matcher compares any two texts, patterns or not, and what it has read before makes no difference.
Texts that are no patterns form one more class, after all the others, so that the order of texts is
a total preorder as that of patterns is.  Two different texts may be equally specific, hence being
sorted does not determine a list: the order given decides among equally specific texts.

## Main definitions

* `compareTexts` — the order of two texts when both are read anew.
* `SortsStably` — being sorted, with equals in the order given.

## Main results

* `compareResults` and `compareTexts` are lawful comparisons (`Std.TransCmp`).
* `sortsStably_mergeSort` — the sort keeps equals in the order given.
* `SortsStably.unique` — no other list does.
* `RouteMatcher.totalPreorder_compare` — **a matcher compares texts by a total preorder, and sorts
  them by it in the only stable way**.
-/

namespace PathRouting

/-! ### Stable sorting -/

section Sorting

variable {α : Type} {cmp : α → α → Ordering} {l sorted sorted' : List α}

/-- The members of a list in order, equal ones as in the list. -/
structure SortsStably (cmp : α → α → Ordering) (l sorted : List α) : Prop where
  /-- The members are those of the list. -/
  perm : sorted.Perm l
  /-- Nothing comes after what is greater. -/
  ordered : sorted.Pairwise fun a b => cmp b a ≠ .lt
  /-- Equal members come in the order given. -/
  stable : ∀ a, sorted.filter (cmp a · == .eq) = l.filter (cmp a · == .eq)

variable [Std.TransCmp cmp]

theorem isLE_iff_ne_lt {a b : α} : (cmp a b).isLE ↔ cmp b a ≠ .lt := by
  have hswap : cmp b a = (cmp a b).swap := Std.OrientedCmp.eq_swap
  rw [hswap]
  cases cmp a b <;> decide

theorem isLE_total (a b : α) : ((cmp a b).isLE || (cmp b a).isLE) = true := by
  have hswap : cmp b a = (cmp a b).swap := Std.OrientedCmp.eq_swap
  rw [hswap]
  cases cmp a b <;> rfl

/-- Two members of one class are equal. -/
theorem isLE_of_mem_class {a b c : α} (hb : b ∈ l.filter (cmp a · == .eq))
    (hc : c ∈ l.filter (cmp a · == .eq)) : (cmp b c).isLE := by
  have hab : cmp a b = .eq := by simpa using (List.mem_filter.mp hb).2
  have hac : cmp a c = .eq := by simpa using (List.mem_filter.mp hc).2
  rw [Std.TransCmp.eq_trans (Std.OrientedCmp.eq_symm hab) hac]
  rfl

/-- **Sorting keeps equals in the order given.**  The members of a class are in order already, so
the sort has them as they come. -/
theorem sortsStably_mergeSort (l : List α) :
    SortsStably cmp l (l.mergeSort fun a b => cmp a b != .gt) := by
  have hle : (fun a b => cmp a b != .gt) = fun a b => (cmp a b).isLE := by
    funext a b
    cases cmp a b <;> rfl
  rw [hle]
  have htrans (a b c : α) : (cmp a b).isLE → (cmp b c).isLE → (cmp a c).isLE :=
    Std.TransCmp.isLE_trans
  have hperm := List.mergeSort_perm l fun a b => (cmp a b).isLE
  refine ⟨hperm, ?ordered, ?stable⟩
  case ordered => exact (List.pairwise_mergeSort htrans isLE_total l).imp isLE_iff_ne_lt.mp
  case stable =>
    intro a
    have hclass : (l.filter (cmp a · == .eq)).Pairwise fun b c => (cmp b c).isLE := by
      apply List.pairwise_of_forall_mem_list
      intro b hb c hc
      exact isLE_of_mem_class hb hc
    have hsub := (List.sublist_mergeSort htrans isLE_total hclass List.filter_sublist).filter
      (cmp a · == .eq)
    rw [List.filter_filter] at hsub
    simp only [Bool.and_self] at hsub
    exact (hsub.eq_of_length (hperm.filter _).length_eq.symm).symm

theorem compare_self_beq (a : α) : (cmp a a == .eq) = true := by
  simp [Std.ReflCmp.compare_self]

/-- Where all classes have the same members, so have the lists. -/
theorem mem_of_filter_eq
    (hclass : ∀ a, sorted.filter (cmp a · == .eq) = sorted'.filter (cmp a · == .eq)) {a : α}
    (ha : a ∈ sorted) : a ∈ sorted' := by
  have hfilter : a ∈ sorted.filter (cmp a · == .eq) :=
    List.mem_filter.mpr ⟨ha, compare_self_beq a⟩
  rw [hclass] at hfilter
  exact (List.mem_filter.mp hfilter).1

/-- The first member of a list in order is not greater than any of its members. -/
theorem isLE_of_mem_cons {a b : α} (h : (a :: l).Pairwise fun a b => cmp b a ≠ .lt)
    (hb : b ∈ a :: l) : (cmp a b).isLE := by
  rcases List.mem_cons.mp hb with rfl | hb
  · simp [Std.ReflCmp.compare_self]
  · exact isLE_iff_ne_lt.mpr ((List.pairwise_cons.mp h).1 b hb)

/-- Two lists in order with the same members in each class are the same. -/
theorem eq_of_filter_eq (h : sorted.Pairwise fun a b => cmp b a ≠ .lt)
    (h' : sorted'.Pairwise fun a b => cmp b a ≠ .lt)
    (hclass : ∀ a, sorted.filter (cmp a · == .eq) = sorted'.filter (cmp a · == .eq)) :
    sorted = sorted' := by
  have hback (a : α) := (hclass a).symm
  induction sorted generalizing sorted' with
  | nil =>
    cases sorted' with
    | nil => rfl
    | cons b t => exact absurd (mem_of_filter_eq hback List.mem_cons_self) List.not_mem_nil
  | cons a s ih =>
    cases sorted' with
    | nil => exact absurd (mem_of_filter_eq hclass List.mem_cons_self) List.not_mem_nil
    | cons b t =>
      -- neither of the first members is greater than the other, so they are the first of one class
      have hab := isLE_of_mem_cons h (mem_of_filter_eq hback List.mem_cons_self)
      have hba := isLE_of_mem_cons h' (mem_of_filter_eq hclass List.mem_cons_self)
      have heq : (cmp a b == .eq) = true := by
        simpa using Std.OrientedCmp.isLE_antisymm hab hba
      have hfirst := hclass a
      rw [List.filter_cons, if_pos (compare_self_beq a), List.filter_cons, if_pos heq] at hfirst
      obtain rfl : a = b := (List.cons.inj hfirst).1
      have htail (c : α) : s.filter (cmp c · == .eq) = t.filter (cmp c · == .eq) := by
        have hc := hclass c
        rw [List.filter_cons, List.filter_cons] at hc
        split at hc
        · exact (List.cons.inj hc).2
        · exact hc
      have hrest : s = t := by
        apply ih (List.pairwise_cons.mp h).2 (List.pairwise_cons.mp h').2 htail
        exact fun c => (htail c).symm
      rw [hrest]

/-- **Only one list is in order and keeps equals as they come.** -/
theorem SortsStably.unique (h : SortsStably cmp l sorted) (h' : SortsStably cmp l sorted') :
    sorted = sorted' := by
  apply eq_of_filter_eq h.ordered h'.ordered
  intro a
  rw [h.stable, h'.stable]

end Sorting

/-! ### The order of what came of two texts -/

instance : Std.TransCmp compareResults where
  eq_swap := by
    intro a b
    cases a with
    | error => cases b <;> rfl
    | ok p =>
      cases b with
      | error => rfl
      | ok q =>
        show p.specificity q = (q.specificity p).swap
        exact Std.OrientedCmp.eq_swap
  isLE_trans := by
    intro a b c hab hbc
    cases a with
    | error =>
      -- what comes after no pattern is no pattern
      cases b with
      | error =>
        cases c with
        | error => rfl
        | ok => exact hbc
      | ok => cases hab
    | ok p =>
      cases c with
      | error => rfl
      | ok r =>
        cases b with
        | error => cases hbc
        | ok q => exact Pattern.noLess_trans p q r hab hbc

/-- The order of two texts when both are read anew. -/
def compareTexts (o : PatternOptions) (a b : List Char) : Ordering :=
  compareResults (Pattern.parse o a) (Pattern.parse o b)

instance (o : PatternOptions) : Std.TransCmp (compareTexts o) where
  eq_swap := by
    intro a b
    show compareResults _ _ = (compareResults _ _).swap
    exact Std.OrientedCmp.eq_swap
  isLE_trans := by
    intro a b c hab hbc
    rw [compareTexts] at hab hbc ⊢
    exact Std.TransCmp.isLE_trans hab hbc

/-- What matches whatever is left comes after all that does not. -/
theorem Pattern.specificity_of_isCatchAll {p q : Pattern} (hp : p.isCatchAll = false)
    (hq : q.isCatchAll = true) : p.specificity q = .lt := by
  rw [specificity, hp, hq]
  rfl

/-! ### Sorting the texts of a matcher -/

variable {o : PatternOptions} {texts : List (List Char)}

/-- The entries of several texts are those of the texts one by one. -/
theorem PatternCache.Holds.answer_getAll {c : PatternCache} (h : c.Holds o texts)
    (list : List (List Char)) : (c.getAll list).answer.map (·.text) = list ∧
      ∀ e ∈ (c.getAll list).answer, e.result = Pattern.parse o e.text := by
  induction list generalizing c texts with
  | nil => exact ⟨rfl, by simp [getAll]⟩
  | cons text list ih =>
    obtain ⟨htext, hresult⟩ := h.answer_get text
    obtain ⟨htexts, hresults⟩ := ih (h.get text)
    refine ⟨?_, List.forall_mem_cons.mpr ⟨?_, hresults⟩⟩
    · show (c.get text).answer.text :: _ = _
      rw [htext, htexts]
    · rw [hresult, htext]

namespace RouteMatcher

variable {m : RouteMatcher}

theorem answer_compare (h : m.cache.Holds o texts) (a b : List Char) :
    (m.compare a b).answer = compareTexts o a b :=
  (call_eq h (.compare a b)).1

/-- Texts are sorted by what comes of reading each of them. -/
theorem answer_sort (h : m.cache.Holds o texts) (list : List (List Char)) :
    (m.sort list).answer = list.mergeSort fun a b => compareTexts o a b != .gt := by
  rw [sort]
  split
  · next hshort =>
    cases list with
    | nil => exact List.mergeSort_nil.symm
    | cons text later =>
      obtain rfl : later = [] :=
        List.length_eq_zero_iff.mp (Nat.lt_one_iff.mp (Nat.lt_of_succ_lt_succ hshort))
      exact (List.mergeSort_singleton text).symm
  · obtain ⟨htexts, hresults⟩ := h.answer_getAll list
    conv_rhs => rw [← htexts]
    refine List.map_mergeSort fun a ha b hb => ?_
    rw [compareTexts, hresults a ha, hresults b hb]

/-- **A matcher compares texts by a total preorder**, whatever it has read or forgotten before each
comparison.  Texts that are no patterns come last, and before them the patterns that match whatever
is left.  Hence texts have one stable sort by it, and this is how the matcher sorts them. -/
theorem totalPreorder_compare (o : PatternOptions) :
    let after (calls : List CacheCall) : RouteMatcher := ⟨(PatternCache.empty o).after calls⟩
    let order (calls : List CacheCall) (a b : List Char) := ((after calls).compare a b).answer
    (∀ calls a, order calls a a = .eq) ∧
    (∀ calls calls' a b, order calls' b a = (order calls a b).swap) ∧
    (∀ calls calls' calls'' a b c,
      (order calls a b).isLE → (order calls' b c).isLE → (order calls'' a c).isLE) ∧
    (∀ calls a b p fault, Pattern.parse o a = .ok p → Pattern.parse o b = .error fault →
      order calls a b = .lt) ∧
    (∀ calls a b p q, Pattern.parse o a = .ok p → Pattern.parse o b = .ok q →
      p.isCatchAll = false → q.isCatchAll = true → order calls a b = .lt) ∧
    ∀ calls texts, SortsStably (order calls) texts ((after calls).sort texts).answer ∧
      ∀ sorted, SortsStably (order calls) texts sorted →
        sorted = ((after calls).sort texts).answer := by
  intro after order
  have hholds (calls : List CacheCall) := PatternCache.holds_after o calls
  have horder (calls : List CacheCall) : order calls = compareTexts o := by
    funext a b
    exact answer_compare (hholds calls) a b
  simp only [horder]
  refine ⟨fun _ a => Std.ReflCmp.compare_self, fun _ _ a b => Std.OrientedCmp.eq_swap,
    fun _ _ _ a b c => Std.TransCmp.isLE_trans, ?unparsable, ?catchAll, ?sort⟩
  case unparsable =>
    intro _ a b p fault ha hb
    rw [compareTexts, ha, hb]
    rfl
  case catchAll =>
    intro _ a b p q ha hb hp hq
    rw [compareTexts, ha, hb]
    exact Pattern.specificity_of_isCatchAll hp hq
  case sort =>
    intro calls texts
    have hsort : ((after calls).sort texts).answer
        = texts.mergeSort fun a b => compareTexts o a b != .gt := answer_sort (hholds calls) texts
    rw [hsort]
    exact ⟨sortsStably_mergeSort texts,
      fun sorted hsorted => hsorted.unique (sortsStably_mergeSort texts)⟩

/-- `a.{x}` comes before `a.**`, which matches whatever is left, and this before `a.{b`, which is no
pattern; so they are sorted. -/
theorem totalPreorder_compare_message :
    let m : RouteMatcher := ⟨(PatternCache.empty .message).after [.get ['a', '.', '*', '*']]⟩
    let capture := ['a', '.', '{', 'x', '}']
    let rest := ['a', '.', '*', '*']
    let malformed := ['a', '.', '{', 'b']
    (m.compare capture rest).answer = .lt ∧ (m.compare rest malformed).answer = .lt ∧
      (m.compare capture malformed).answer.isLE ∧
      SortsStably (fun a b => (m.compare a b).answer) [malformed, rest, capture]
        (m.sort [malformed, rest, capture]).answer := by
  intro m capture rest malformed
  let calls : List CacheCall := [.get ['a', '.', '*', '*']]
  obtain ⟨-, -, htrans, hmalformed, hcatchAll, hsort⟩ := totalPreorder_compare .message
  obtain ⟨p, hp, hpRest⟩ : ∃ p, Pattern.parse .message capture = .ok p ∧ p.isCatchAll = false :=
    ⟨_, rfl, rfl⟩
  obtain ⟨q, hq, hqRest⟩ : ∃ q, Pattern.parse .message rest = .ok q ∧ q.isCatchAll = true :=
    ⟨_, rfl, rfl⟩
  obtain ⟨fault, hfault⟩ : ∃ fault, Pattern.parse .message malformed = .error fault := ⟨_, rfl⟩
  have hfirst := hcatchAll calls capture rest p q hp hq hpRest hqRest
  have hsecond := hmalformed calls rest malformed q fault hq hfault
  refine ⟨hfirst, hsecond, ?_, (hsort calls [malformed, rest, capture]).1⟩
  apply htrans calls calls calls capture rest malformed
  · rw [hfirst]
    rfl
  · rw [hsecond]
    rfl

end RouteMatcher

end PathRouting
