import Mathlib.Data.List.Dedup
import Mathlib.Data.List.Induction
import PathRouting.Proofs.Fallible
import PathRouting.Route.Matcher

/-!
# Caches do not show

A cache answers as if it read every text anew.  It only shows in what is reported, in the number of
texts that it holds, and in that the same pattern is handed out until it is forgotten.

## Main definitions

* `CacheCall`, `PatternCache.after` — calls of a cache, and the cache after them.
* `requested` — the texts asked for since the cache was cleared.
* `PatternCache.Holds` — what the entries of a cache have in common.
* `MatcherCall`, `RouteMatcher.call` — questions to a matcher, and its replies.
* `MatcherCall.fresh` — the answer when every text is read anew.

## Main results

* `holds_after` — what the entries of a cache have in common, after any calls.
* `serial_get_eq_iff` — the same pattern is handed out until the cache is cleared.
* `RouteMatcher.cache_after` — the texts that a matcher has looked up.
* `cache_transparent` — **caches and matchers answer as if they read every text anew**.
-/

namespace PathRouting

/-! ### Calls of a cache -/

/-- A call of a cache. -/
inductive CacheCall
  /-- A text is looked up. -/
  | get (text : List Char)
  /-- Everything is forgotten. -/
  | clear
  deriving DecidableEq, Repr

/-- The text that is looked up. -/
def CacheCall.text? : CacheCall → Option (List Char)
  | get text => some text
  | clear => none

/-- The texts asked for since everything was forgotten, latest first. -/
def requested (calls : List CacheCall) : List (List Char) :=
  (calls.reverse.takeWhile (· ≠ .clear)).filterMap CacheCall.text?

@[simp] theorem requested_nil : requested [] = [] := rfl

@[simp] theorem requested_append_get (calls : List CacheCall) (text : List Char) :
    requested (calls ++ [.get text]) = text :: requested calls := by
  simp [requested, CacheCall.text?]

@[simp] theorem requested_append_clear (calls : List CacheCall) :
    requested (calls ++ [.clear]) = [] := by
  simp [requested]

/-- Where nothing is forgotten, all texts count. -/
theorem requested_map_get (texts : List (List Char)) :
    requested (texts.map .get) = texts.reverse := by
  induction texts using List.reverseRecOn with
  | nil => rfl
  | append_singleton texts text ih =>
    rw [List.map_append, List.map_singleton, requested_append_get, ih, List.reverse_concat]

namespace PatternCache

variable {o : PatternOptions} {texts : List (List Char)} {c : PatternCache} {text : List Char}
  {e : CacheEntry} {n : Nat}

/-- The cache after a call. -/
def call (c : PatternCache) : CacheCall → PatternCache
  | .get text => (c.get text).state
  | .clear => c.clear

/-- The cache after calls one after the other. -/
def after (c : PatternCache) (calls : List CacheCall) : PatternCache := calls.foldl call c

@[simp] theorem after_nil (c : PatternCache) : c.after [] = c := rfl

@[simp] theorem after_cons (c : PatternCache) (k : CacheCall) (calls : List CacheCall) :
    c.after (k :: calls) = (c.call k).after calls := rfl

theorem after_append (c : PatternCache) (calls calls' : List CacheCall) :
    c.after (calls ++ calls') = (c.after calls).after calls' := List.foldl_append

/-- What all calls keep holds after any calls. -/
theorem after_invariant (Inv : PatternCache → Prop) {calls : List CacheCall}
    (step : ∀ c, ∀ k ∈ calls, Inv c → Inv (c.call k)) (h : Inv c) : Inv (c.after calls) := by
  induction calls generalizing c with
  | nil => exact h
  | cons k calls ih =>
    exact ih (fun c k' hk' => step c k' (List.mem_cons_of_mem k hk'))
      (step c k List.mem_cons_self h)

/-- A text is found, or it is read and put first. -/
theorem get_cases (c : PatternCache) (text : List Char) :
    (∃ e, c.find? text = some e ∧ c.get text = ⟨e, c, []⟩) ∨
      c.find? text = none ∧ ∃ e : CacheEntry, e.text = text ∧
        e.result = Pattern.parse c.options text ∧ e.serial = c.readCount ∧
        c.get text = ⟨e, ⟨c.options, e :: c.entries, c.readCount + 1⟩, [.cacheMiss text]⟩ := by
  unfold get
  split
  · next e he => exact .inl ⟨e, he, rfl⟩
  · next he => exact .inr ⟨he, ⟨text, Pattern.parse c.options text, c.readCount⟩, rfl, rfl, rfl, rfl⟩

theorem of_find? (h : c.find? text = some e) : e ∈ c.entries ∧ e.text = text :=
  ⟨List.mem_of_find?_eq_some h, by simpa using List.find?_some h⟩

theorem find?_eq_none : c.find? text = none ↔ text ∉ c.entries.map (·.text) := by
  simp [find?]

/-- What is answered is found from then on. -/
theorem find?_get (c : PatternCache) (text : List Char) :
    (c.get text).state.find? text = some (c.get text).answer := by
  rcases c.get_cases text with ⟨e, he, hget⟩ | ⟨-, e, htext, -, -, hget⟩
  · rw [hget]
    exact he
  · rw [hget]
    simp [find?, htext]

/-- What is found is answered. -/
theorem get_of_find? (h : c.find? text = some e) : (c.get text).answer = e := by
  rcases c.get_cases text with ⟨e', he', hget⟩ | ⟨hnone, -⟩
  · rw [hget]
    exact Option.some.inj (he'.symm.trans h)
  · simp [hnone] at h

/-! ### What a cache holds -/

/-- What the entries of a cache have in common. -/
structure Holds (o : PatternOptions) (texts : List (List Char)) (c : PatternCache) : Prop where
  /-- Texts are read with these options. -/
  options : c.options = o
  /-- Each entry is what comes of reading its text. -/
  result : ∀ e ∈ c.entries, e.result = Pattern.parse o e.text
  /-- No text has two entries. -/
  nodup : (c.entries.map (·.text)).Nodup
  /-- These texts have one. -/
  mem_iff : ∀ t, t ∈ c.entries.map (·.text) ↔ t ∈ texts

theorem holds_empty (o : PatternOptions) : (empty o).Holds o [] where
  options := rfl
  result := by simp [empty]
  nodup := .nil
  mem_iff := by simp [empty]

theorem Holds.get (h : c.Holds o texts) (text : List Char) :
    (c.get text).state.Holds o (text :: texts) := by
  rcases c.get_cases text with ⟨e, he, hget⟩ | ⟨hnone, e, htext, hresult, -, hget⟩
  · -- the text has been asked for before
    obtain ⟨hmem, htext⟩ := of_find? he
    have hbefore : text ∈ texts := (h.mem_iff text).mp (List.mem_map.mpr ⟨e, hmem, htext⟩)
    rw [hget]
    exact ⟨h.options, h.result, h.nodup, fun t => by
      rw [h.mem_iff, List.mem_cons, or_iff_right_of_imp (fun ht => ht ▸ hbefore)]⟩
  · rw [hget]
    exact {
      options := h.options
      result := List.forall_mem_cons.mpr ⟨by rw [hresult, h.options, htext], h.result⟩
      nodup := by
        rw [List.map_cons, htext]
        exact List.nodup_cons.mpr ⟨find?_eq_none.mp hnone, h.nodup⟩
      mem_iff := fun t => by
        rw [List.map_cons, List.mem_cons, List.mem_cons, h.mem_iff, htext] }

theorem Holds.clear (h : c.Holds o texts) : c.clear.Holds o [] where
  options := h.options
  result := by simp [PatternCache.clear]
  nodup := .nil
  mem_iff := by simp [PatternCache.clear]

/-- **A cache holds the texts asked for since it was cleared**, each with what comes of reading
it. -/
theorem holds_after (o : PatternOptions) (calls : List CacheCall) :
    ((empty o).after calls).Holds o (requested calls) := by
  induction calls using List.reverseRecOn with
  | nil => exact holds_empty o
  | append_singleton calls k ih =>
    rw [after_append]
    cases k with
    | get text =>
      rw [requested_append_get]
      exact ih.get text
    | clear =>
      rw [requested_append_clear]
      exact ih.clear

theorem Holds.length_eq (h : c.Holds o texts) : c.length = texts.dedup.length := by
  have hperm : (c.entries.map (·.text)).Perm texts.dedup :=
    (List.perm_ext_iff_of_nodup h.nodup texts.nodup_dedup).mpr fun t => by
      rw [h.mem_iff, List.mem_dedup]
  rw [length, ← hperm.length_eq, List.length_map]

/-- The answer is what comes of reading the text. -/
theorem Holds.answer_get (h : c.Holds o texts) (text : List Char) :
    (c.get text).answer.text = text ∧ (c.get text).answer.result = Pattern.parse o text := by
  obtain ⟨hmem, htext⟩ := of_find? (c.find?_get text)
  exact ⟨htext, by rw [(h.get text).result _ hmem, htext]⟩

/-- A text that has not been asked for is reported. -/
theorem Holds.log_get (h : c.Holds o texts) (text : List Char) :
    (c.get text).log = if text ∈ texts then [] else [.cacheMiss text] := by
  rcases c.get_cases text with ⟨e, he, hget⟩ | ⟨hnone, e, -, -, -, hget⟩
  · obtain ⟨hmem, htext⟩ := of_find? he
    have hbefore : text ∈ texts := (h.mem_iff text).mp (List.mem_map.mpr ⟨e, hmem, htext⟩)
    rw [hget, if_pos hbefore]
  · rw [hget, if_neg (mt (h.mem_iff text).mpr (find?_eq_none.mp hnone))]

/-! ### The same pattern -/

/-- What was found is found until everything is forgotten. -/
theorem find?_after {calls : List CacheCall} (hcalls : .clear ∉ calls)
    (h : c.find? text = some e) : (c.after calls).find? text = some e := by
  refine after_invariant (fun c => c.find? text = some e) (fun c k hk hc => ?_) h
  cases k with
  | clear => exact absurd hk hcalls
  | get other =>
    rcases c.get_cases other with ⟨e', -, hget⟩ | ⟨hnone, e', htext, -, -, hget⟩
    · rw [call, hget]
      exact hc
    · have hne : other ≠ text := by
        rintro rfl
        simp [hnone] at hc
      rw [call, hget, find?, List.find?_cons_of_neg (by simpa [htext] using hne)]
      exact hc

/-- The entries were numbered from `n` on. -/
structure NumberedFrom (n : Nat) (c : PatternCache) : Prop where
  /-- The next number comes after `n`. -/
  start : n ≤ c.readCount
  /-- So do the numbers given, all before the next one. -/
  serial : ∀ e ∈ c.entries, n ≤ e.serial ∧ e.serial < c.readCount

theorem NumberedFrom.call (h : c.NumberedFrom n) (k : CacheCall) :
    (c.call k).NumberedFrom n := by
  cases k with
  | clear => exact ⟨h.start, by simp [PatternCache.call, PatternCache.clear]⟩
  | get text =>
    rcases c.get_cases text with ⟨e, -, hget⟩ | ⟨-, e, -, -, hserial, hget⟩
    · rw [PatternCache.call, hget]
      exact h
    · rw [PatternCache.call, hget]
      refine ⟨Nat.le_succ_of_le h.start, List.forall_mem_cons.mpr ⟨?_, fun e he => ?_⟩⟩
      · rw [hserial]
        exact ⟨h.start, Nat.lt_succ_self _⟩
      · exact ⟨(h.serial e he).1, Nat.lt_succ_of_lt (h.serial e he).2⟩

theorem NumberedFrom.after (h : c.NumberedFrom n) (calls : List CacheCall) :
    (c.after calls).NumberedFrom n :=
  after_invariant (NumberedFrom n) (fun _ k _ hc => hc.call k) h

theorem NumberedFrom.answer (h : c.NumberedFrom n) (text : List Char) :
    n ≤ (c.get text).answer.serial ∧
      (c.get text).answer.serial < (c.get text).state.readCount :=
  (h.call (.get text)).serial _ (of_find? (c.find?_get text)).1

theorem numberedFrom_after (o : PatternOptions) (calls : List CacheCall) :
    ((empty o).after calls).NumberedFrom 0 :=
  NumberedFrom.after ⟨Nat.zero_le _, by simp [empty]⟩ calls

/-- Numbers are not given again, not even after everything is forgotten. -/
theorem numberedFrom_clear (c : PatternCache) (calls : List CacheCall) :
    (c.after calls).clear.NumberedFrom c.readCount where
  start := by
    refine after_invariant (fun c' => c.readCount ≤ c'.readCount) (fun c' k _ hc' => ?_)
      (Nat.le_refl _)
    cases k with
    | clear => exact hc'
    | get text =>
      rcases c'.get_cases text with ⟨e, -, hget⟩ | ⟨-, e, -, -, -, hget⟩
      · rw [call, hget]
        exact hc'
      · rw [call, hget]
        exact Nat.le_succ_of_le hc'
  serial := by simp [PatternCache.clear]

/-- **The same pattern is handed out until the cache is cleared.** -/
theorem serial_get_eq_iff (hc : c.NumberedFrom 0) (text : List Char) (between : List CacheCall) :
    ((c.after (.get text :: between)).get text).answer.serial = (c.get text).answer.serial ↔
      .clear ∉ between := by
  constructor
  · intro hserial hclear
    obtain ⟨before, later, rfl⟩ := List.append_of_mem hclear
    have hfirst := (hc.answer text).2
    have hlater : (((c.get text).state.after before).clear.after later).NumberedFrom
        (c.get text).state.readCount :=
      (numberedFrom_clear _ before).after later
    have hsecond := (hlater.answer text).1
    rw [after_cons, after_append, after_cons] at hserial
    exact absurd (Nat.lt_of_lt_of_le hfirst hsecond) (by rw [← hserial]; exact Nat.lt_irrefl _)
  · intro hbetween
    rw [after_cons, call, get_of_find? (find?_after hbetween (c.find?_get text))]

end PatternCache

/-! ### Matchers -/

/-- A question to a matcher. -/
inductive MatcherCall
  /-- Is the text a pattern? -/
  | isPattern (text : List Char)
  /-- What do the two texts combine to? -/
  | combine (first second : List Char)
  /-- Does the pattern match the route? -/
  | isMatch (pattern : List Char) (route : Path)
  /-- What does the pattern record for the route? -/
  | match? (pattern : List Char) (route : Path)
  /-- Which text is more specific? -/
  | compare (first second : List Char)

namespace MatcherCall

/-- What answers a question. -/
def Answer : MatcherCall → Type
  | isPattern _ => Bool
  | combine _ _ => Except Error (List Char)
  | isMatch _ _ => Except Error Bool
  | match? _ _ => Except Error (Option MatchInfo)
  | compare _ _ => Ordering

/-- The answer when every text is read anew. -/
def fresh (o : PatternOptions) : (k : MatcherCall) → k.Answer
  | isPattern text =>
    match Pattern.parse o text with
    | .ok p => p.hasSyntax
    | .error _ => false
  | combine first second => do
    let p ← (Pattern.parse o first).mapError .pattern
    let q ← (Pattern.parse o second).mapError .pattern
    (p.combine q).map (·.text)
  | isMatch pattern route => ((Pattern.parse o pattern).mapError .pattern).map (·.isMatch route)
  | match? pattern route => ((Pattern.parse o pattern).mapError .pattern).map (·.match? route)
  | compare first second => compareResults (Pattern.parse o first) (Pattern.parse o second)

/-- The texts that are looked up: to combine two texts, the second one only if the first one is a
pattern. -/
def lookedUp (o : PatternOptions) : MatcherCall → List (List Char)
  | isPattern text => [text]
  | combine first second => if (Pattern.parse o first).isOk then [first, second] else [first]
  | isMatch pattern _ => [pattern]
  | match? pattern _ => [pattern]
  | compare first second => [first, second]

end MatcherCall

namespace RouteMatcher

variable {o : PatternOptions} {texts : List (List Char)} {m : RouteMatcher}

/-- The reply to a question. -/
def call (m : RouteMatcher) : (k : MatcherCall) → Reply RouteMatcher k.Answer
  | .isPattern text => m.isPattern text
  | .combine first second => m.combine first second
  | .isMatch pattern route => m.isMatch pattern route
  | .match? pattern route => m.match? pattern route
  | .compare first second => m.compare first second

/-- The matcher after questions one after the other. -/
def after (m : RouteMatcher) (calls : List MatcherCall) : RouteMatcher :=
  calls.foldl (fun m k => (m.call k).state) m

theorem answer_lookUp (h : m.cache.Holds o texts) (text : List Char) :
    (m.lookUp text).answer = (Pattern.parse o text).mapError .pattern := by
  rw [lookUp, (h.answer_get text).2]

/-- A matcher answers as if it read the texts anew, and looks them up in its cache. -/
theorem call_eq (h : m.cache.Holds o texts) (k : MatcherCall) :
    (m.call k).answer = k.fresh o ∧
      (m.call k).state.cache = m.cache.after ((k.lookedUp o).map .get) := by
  cases k with
  | isPattern text =>
    refine ⟨?_, rfl⟩
    have hlookUp := answer_lookUp h text
    show (m.isPattern text).answer = _
    rw [isPattern, MatcherCall.fresh]
    dsimp only
    rw [hlookUp]
    cases Pattern.parse o text <;> rfl
  | isMatch pattern route =>
    refine ⟨?_, rfl⟩
    show (m.lookUp pattern).answer.map _ = _
    rw [answer_lookUp h, MatcherCall.fresh]
  | match? pattern route =>
    refine ⟨?_, rfl⟩
    show (m.lookUp pattern).answer.map _ = _
    rw [answer_lookUp h, MatcherCall.fresh]
  | compare first second =>
    refine ⟨?_, rfl⟩
    show compareResults (m.cache.get first).answer.result
      ((m.cache.get first).state.get second).answer.result = _
    rw [(h.answer_get first).2, ((h.get first).answer_get second).2, MatcherCall.fresh]
  | combine first second =>
    have hfirst := answer_lookUp h first
    have hsecond : ((m.lookUp first).state.lookUp second).answer
        = (Pattern.parse o second).mapError .pattern := answer_lookUp (h.get first) second
    show (m.combine first second).answer = _ ∧ (m.combine first second).state.cache = _
    rw [MatcherCall.fresh, MatcherCall.lookedUp]
    rcases hparse : Pattern.parse o first with fault | p
    · have hfault : (m.lookUp first).answer = .error (.pattern fault) := by
        rw [hfirst, hparse]
        rfl
      rw [combine, hfault]
      exact ⟨rfl, rfl⟩
    · have hpattern : (m.lookUp first).answer = .ok p := by
        rw [hfirst, hparse]
        rfl
      rw [combine, hpattern]
      refine ⟨?_, rfl⟩
      show (((m.lookUp first).state.lookUp second).answer >>= fun q =>
        p.combine q >>= fun combined => pure combined.text) = _
      rw [hsecond]
      cases Pattern.parse o second with
      | error fault => rfl
      | ok q =>
        show (p.combine q >>= fun combined => pure combined.text) = (p.combine q).map (·.text)
        cases p.combine q <;> rfl

/-- **The cache of a matcher is that of the texts looked up.** -/
theorem cache_after (o : PatternOptions) (calls : List MatcherCall) :
    ((empty o).after calls).cache
      = (PatternCache.empty o).after ((calls.flatMap (·.lookedUp o)).map .get) := by
  induction calls using List.reverseRecOn with
  | nil => rfl
  | append_singleton calls k ih =>
    have hholds := PatternCache.holds_after o ((calls.flatMap (·.lookedUp o)).map .get)
    rw [← ih] at hholds
    have hstep : ((empty o).after (calls ++ [k])).cache
        = (((empty o).after calls).call k).state.cache := by
      rw [after, List.foldl_append]
      rfl
    rw [hstep, (call_eq hholds k).2, ih, ← PatternCache.after_append]
    simp

theorem holds_after (o : PatternOptions) (calls : List MatcherCall) :
    ((empty o).after calls).cache.Holds o (calls.flatMap (·.lookedUp o)).reverse := by
  rw [cache_after, ← requested_map_get]
  exact PatternCache.holds_after o _

end RouteMatcher

/-- **Caches and matchers answer as if they read every text anew.**  A cache holds the texts asked
for since it was cleared, reports those not asked for since then, and hands out the same pattern
until it is cleared; a matcher never clears its cache. -/
theorem cache_transparent (o : PatternOptions) :
    (∀ calls : List CacheCall, let c := (PatternCache.empty o).after calls
      c.length = (requested calls).dedup.length ∧
      ∀ text, (c.get text).answer.text = text ∧
        (c.get text).answer.result = Pattern.parse o text ∧
        (c.get text).log = (if text ∈ requested calls then [] else [.cacheMiss text]) ∧
        ∀ between : List CacheCall,
          ((c.after (.get text :: between)).get text).answer.serial
            = (c.get text).answer.serial ↔ .clear ∉ between) ∧
    ∀ calls : List MatcherCall, let m := (RouteMatcher.empty o).after calls
      m.cache.length = (calls.flatMap (·.lookedUp o)).dedup.length ∧
      ∀ k : MatcherCall, (m.call k).answer = k.fresh o := by
  refine ⟨fun calls => ?_, fun calls => ?_⟩
  · have hholds := PatternCache.holds_after o calls
    exact ⟨hholds.length_eq, fun text => ⟨(hholds.answer_get text).1, (hholds.answer_get text).2,
      hholds.log_get text,
      PatternCache.serial_get_eq_iff (PatternCache.numberedFrom_after o calls) text⟩⟩
  · have hholds := RouteMatcher.holds_after o calls
    refine ⟨?_, fun k => (RouteMatcher.call_eq hholds k).1⟩
    rw [hholds.length_eq, (List.reverse_perm _).dedup.length_eq]

end PathRouting
