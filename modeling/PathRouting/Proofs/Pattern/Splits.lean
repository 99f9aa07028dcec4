import PathRouting.Proofs.Pattern.Mixed
import PathRouting.Proofs.Regex.Ahead

/-!
# What a mixed segment matches

A mixed segment matches the texts that are made of one text for each of its parts, in their order:
any text for a `*` or a capture, one character for a `?`, and the character itself for one that
stands for itself, or one that differs from it only in case where case is disregarded.

## Main definitions

* `variants` — the characters that a character of a pattern stands for.
* `Part.Takes`, `Splits` — the texts that a part stands for, and a text made of them.

## Main results

* `matches_part`, `rowMatches_exprsOf` — what the expressions for parts match.
* `isMatch_mixedExpr` — which texts a mixed segment matches.
-/

namespace PathRouting

open Regex

variable {ignoreCase : Bool} {parts : List Part} {p q : Place} {v : List Char}

/-! ### Definitions -/

/-- The characters that a character of a pattern stands for. -/
def variants (ignoreCase : Bool) (c : Char) : CharSet :=
  if ignoreCase then (CharSet.exactly c).caseless else .exactly c

theorem contains_variants_self (ignoreCase : Bool) (c : Char) :
    (variants ignoreCase c).contains c = true := by
  have hself : (CharSet.exactly c).contains c = true := CharSet.contains_exactly.mpr rfl
  cases ignoreCase with
  | false => exact hself
  | true => exact CharSet.contains_caseless hself

/-- Whether a text is one that a part stands for. -/
def Part.Takes (ignoreCase : Bool) : Part → List Char → Prop
  | char c, v => ∃ d, v = [d] ∧ (variants ignoreCase c).contains d = true
  | question, v => ∃ d, v = [d]
  | star, _ => True
  | capture _, _ => True

/-- Whether a text is made of texts for the parts. -/
def Splits (ignoreCase : Bool) (parts : List Part) (v : List Char) : Prop :=
  ∃ vs, List.Forall₂ (Part.Takes ignoreCase) parts vs ∧ vs.flatten = v

theorem splits_nil : Splits ignoreCase [] v ↔ v = [] := by
  simp [Splits, @eq_comm _ _ v]

/-- What is made of texts for the parts starts with one for the first part. -/
theorem splits_cons {part : Part} : Splits ignoreCase (part :: parts) v ↔
    ∃ w v', part.Takes ignoreCase w ∧ Splits ignoreCase parts v' ∧ v = w ++ v' := by
  constructor
  · rintro ⟨_, hvs, rfl⟩
    obtain ⟨w, vs, hw, hvs', rfl⟩ := List.forall₂_cons_left_iff.mp hvs
    exact ⟨w, vs.flatten, hw, ⟨vs, hvs', rfl⟩, List.flatten_cons⟩
  · rintro ⟨w, _, hw, ⟨vs, hvs, rfl⟩, rfl⟩
    exact ⟨w :: vs, .cons hw hvs, List.flatten_cons⟩

/-- Literal text takes, one by one, what its characters stand for. -/
theorem splits_chars {text : List Char} : Splits ignoreCase (text.map .char ++ parts) v ↔
    ∃ front back, List.Forall₂ (fun a b => (variants ignoreCase a).contains b = true) text front ∧
      Splits ignoreCase parts back ∧ v = front ++ back := by
  induction text generalizing v with
  | nil => simp
  | cons a text ih =>
    simp only [List.map_cons, List.cons_append, splits_cons, ih, Part.Takes]
    constructor
    · rintro ⟨_, _, ⟨b, rfl, hab⟩, ⟨front, back, hfront, hback, rfl⟩, rfl⟩
      exact ⟨b :: front, back, .cons hab hfront, hback, rfl⟩
    · rintro ⟨_, back, hfront, hback, rfl⟩
      obtain ⟨b, front, hab, hrest, rfl⟩ := List.forall₂_cons_left_iff.mp hfront
      exact ⟨[b], front ++ back, ⟨b, rfl, hab⟩, ⟨front, back, hrest, hback, rfl⟩, rfl⟩

/-! ### Parts -/

/-- **A part matches the texts it stands for.** -/
theorem matches_part (part : Part) (groups : Nat) : (part.expr ignoreCase groups).Matches p q ↔
    ∃ v, part.Takes ignoreCase v ∧ p.skip? v = some q := by
  cases part with
  | char c =>
    have hstep : ((baseFlags ignoreCase).charExpr c).Matches p q ↔
        p.step? (variants ignoreCase c).contains = some q := by
      cases ignoreCase with
      | false =>
        simp only [variants, Place.step?_eq_some, CharSet.contains_exactly, exists_eq_left,
          Bool.false_eq_true, if_false]
        rfl
      | true => exact matches_ofSet (contains_variants_self true c)
    simp only [Part.expr, hstep, Place.step?_eq_some, Part.Takes]
    constructor
    · rintro ⟨d, hd, hq⟩
      exact ⟨[d], ⟨d, rfl, hd⟩, hq⟩
    · rintro ⟨_, ⟨d, rfl, hd⟩, hq⟩
      exact ⟨d, hd, hq⟩
  | star => simp only [Part.expr, matches_anyText, Part.Takes, true_and]
  | question =>
    simp only [Part.expr, Expr.Matches, Place.step?_eq_some, CharSet.contains_any, true_and,
      Part.Takes]
    constructor
    · rintro ⟨d, hq⟩
      exact ⟨[d], ⟨d, rfl⟩, hq⟩
    · rintro ⟨_, ⟨d, rfl⟩, hq⟩
      exact ⟨d, hq⟩
  | capture name => simp only [Part.expr, Expr.Matches, matches_anyText, Part.Takes, true_and]

/-- **Parts in a row match texts in a row.** -/
theorem rowMatches_exprsOf (groups : Nat) : RowMatches (exprsOf ignoreCase groups parts) p q ↔
    ∃ v, Splits ignoreCase parts v ∧ p.skip? v = some q := by
  induction parts generalizing groups p with
  | nil => simp [exprsOf, RowMatches, splits_nil, Place.skip?]
  | cons part parts ih =>
    simp only [exprsOf, RowMatches, matches_part, ih, splits_cons]
    constructor
    · rintro ⟨m, ⟨w, hw, hm⟩, v, hv, hq⟩
      refine ⟨w ++ v, ⟨w, v, hw, hv, rfl⟩, ?_⟩
      rw [Place.skip?_append, hm]
      exact hq
    · rintro ⟨_, ⟨w, v, hw, hv, rfl⟩, hq⟩
      rw [Place.skip?_append] at hq
      obtain ⟨m, hm, hq⟩ := Option.bind_eq_some_iff.mp hq
      exact ⟨m, ⟨w, hw, hm⟩, v, hv, hq⟩

/-- **A mixed segment matches the texts that are made of texts for its parts.** -/
theorem isMatch_mixedExpr {re : Regex} (hre : re.expr = mixedExpr ignoreCase parts) :
    re.isMatch v = true ↔ Splits ignoreCase parts v := by
  have hends : ∀ p q : Place, (mixedExpr ignoreCase parts).Matches p q ↔
      p.before = none ∧ (∃ w, Splits ignoreCase parts w ∧ p.skip? w = some q) ∧ q.rest = [] := by
    intro p q
    rw [mixedExpr, matches_sequence, List.cons_append]
    simp only [RowMatches, rowMatches_append, rowMatches_exprsOf, Expr.Matches, Look.holds,
      Option.isNone_iff_eq_none, Place.after, List.head?_eq_none_iff]
    constructor
    · rintro ⟨m, ⟨rfl, hbefore⟩, n, hrow, k, ⟨rfl, hrest⟩, rfl⟩
      exact ⟨hbefore, hrow, hrest⟩
    · rintro ⟨hbefore, hrow, hrest⟩
      exact ⟨p, ⟨rfl, hbefore⟩, q, hrow, q, ⟨rfl, hrest⟩, rfl⟩
  simp only [Regex.isMatch, Regex.match?, hre, search_isSome_iff, hends]
  constructor
  · rintro ⟨p, hp, q, hbefore, ⟨w, hw, hq⟩, hrest⟩
    obtain rfl := eq_start_of_before hp hbefore
    have hv : v = w ++ [] := Place.exists_skip?.mp ⟨q, hq, hrest⟩
    rwa [hv, List.append_nil]
  · intro hv
    obtain ⟨q, hq, hrest⟩ := (Place.exists_skip? (p := .start v) (v := v) (t := [])).mpr
      (List.append_nil v).symm
    exact ⟨_, start_mem_places v, q, rfl, ⟨v, hv, hq⟩, hrest⟩

end PathRouting
