import PathRouting.Proofs.Pattern.Plain
import PathRouting.Proofs.Route.Table

/-!
# Literal routes

A route whose pattern is literal text is found before all routes with captures and wildcards.  A
`?` is no wildcard in this: a segment with `?` counts as much as the same number of literal
characters, so among such routes the greater length decides and then the order of registration.

## Main results

* `specificity_of_hasSyntax` — a pattern compared with one that is literal text.
* `IsBest.precedes` — the best route of a path comes before all others that match it.
* `findIn_of_literal` — the route of a path that the pattern of some route spells out.
-/

namespace PathRouting

/-! ### Compared with literal text -/

namespace Pattern

variable {p q : Pattern}

/-- Literal text scores nothing and does not take all that is left. -/
theorem score_of_hasSyntax (h : q.hasSyntax = false) : q.score = 0 ∧ q.isCatchAll = false := by
  obtain ⟨hparts, -⟩ : (q.score = 0 ∧ q.isCatchAll = false) ∧ '?' ∉ q.text := by
    simpa [hasSyntax] using h
  exact hparts

/-- Literal text is more specific than what scores or takes all that is left; otherwise the length
decides. -/
theorem specificity_of_hasSyntax (h : q.hasSyntax = false) : p.specificity q
      = if 0 < p.score ∨ p.isCatchAll = true then .gt else compare q.weight p.weight := by
  obtain ⟨hscore, hrest⟩ := score_of_hasSyntax h
  rw [specificity, catchAllWeight, catchAllWeight, hscore, hrest]
  cases hcatchAll : p.isCatchAll with
  | true => simp [compare, Ordering.then]
  | false =>
    rcases Nat.eq_zero_or_pos p.score with hzero | hpos
    · simp [hzero]
    · simp [Nat.compare_eq_gt.mpr hpos, hpos]

end Pattern

namespace RouteTable

open Route (Precedes)

variable {α : Type}

/-! ### The best route -/

/-- The best route of a path comes before all others that match it. -/
theorem IsBest.precedes {regs : List (Route α)} {path : Path} {r s : Route α}
    (h : IsBest regs path r) (hs : s ∈ regs) (hmatch : s.pattern.isMatch path = true)
    (hne : s ≠ r) : Precedes regs r s := by
  obtain ⟨-, before, after, rfl, hbefore, hafter⟩ := h
  rcases List.mem_append.mp hs with hs | hs
  · exact .inl (hbefore s hs hmatch)
  have hs := (List.mem_cons.mp hs).resolve_left hne
  have hsub : [r, s].Sublist (before ++ r :: after) :=
    ((List.singleton_sublist.mpr hs).cons_cons r).trans (List.sublist_append_right ..)
  rcases hcompare : r.pattern.specificity s.pattern with _ | _ | _
  · exact .inl hcompare
  · exact .inr ⟨hcompare, hsub⟩
  · exact absurd hcompare (hafter s hs hmatch)

/-- The length of a route that comes before one with literal text. -/
theorem weight_of_precedes {regs : List (Route α)} {r s : Route α} (h : Precedes regs r s)
    (hliteral : s.pattern.hasSyntax = false) :
    (r.pattern.score = 0 ∧ r.pattern.isCatchAll = false) ∧
      (s.pattern.weight < r.pattern.weight ∨
        s.pattern.weight = r.pattern.weight ∧ [r, s].Sublist regs) := by
  have hcompare := Pattern.specificity_of_hasSyntax (p := r.pattern) hliteral
  by_cases hscores : 0 < r.pattern.score ∨ r.pattern.isCatchAll = true
  · rw [if_pos hscores] at hcompare
    rcases h with hlt | ⟨heq, -⟩
    · simp [hlt] at hcompare
    · simp [heq] at hcompare
  · rw [if_neg hscores] at hcompare
    refine ⟨by simpa using hscores, ?_⟩
    rcases h with hlt | ⟨heq, hsub⟩
    · exact .inl (Nat.compare_eq_lt.mp (hcompare.symm.trans hlt))
    · exact .inr ⟨Nat.compare_eq_eq.mp (hcompare.symm.trans heq), hsub⟩

/-! ### The route of a path that is spelled out -/

/-- **The route of a path that some pattern spells out** has no captures and no wildcards.  It is
literal text too, or separators, literal text and `?` make up its pattern.  In the latter case it is
longer than all literal patterns that match, or as long and registered earlier; it is as long
wherever case makes a difference and no separator may follow. -/
theorem findIn_of_literal (o : PatternOptions) (calls : List (List Char × α)) (path : Path) :
    let t := (empty o).addAll calls
    let regs := (empty o).registered calls
    ∀ s ∈ regs, s.pattern.hasSyntax = false → s.pattern.isMatch path = true →
      ∃ found, (t.findIn path).1 = some found ∧
        (found.route.pattern.hasSyntax = false ∨
          '?' ∈ found.route.pattern.text ∧ (∀ k ∈ found.route.pattern.kinds, k.isPlain = true) ∧
          ∀ s ∈ regs, s.pattern.hasSyntax = false → s.pattern.isMatch path = true →
            s.pattern.weight < found.route.pattern.weight ∧
                ¬(o.caseSensitive = true ∧ o.optionalTrailingSeparator = false) ∨
              s.pattern.weight = found.route.pattern.weight ∧
                [found.route, s].Sublist regs) := by
  intro t regs s hs hliteral hmatch
  have h : t.Holds o regs := (holds_empty o).addAll calls
  obtain ⟨found, hfound⟩ := Option.isSome_iff_exists.mp
    ((h.isSome_findIn path).mpr ⟨s, hs, hmatch⟩)
  refine ⟨found, hfound, Classical.or_iff_not_imp_left.mpr fun hsyntax => ?_⟩
  obtain ⟨hbest, -⟩ := h.isBest_of_findIn hfound
  have hmem : found.route ∈ regs := by
    obtain ⟨-, before, after, heq, -⟩ := hbest
    simp [heq]
  have hweights : ∀ s ∈ regs, s.pattern.hasSyntax = false → s.pattern.isMatch path = true → _ :=
    fun s hs hliteral hmatch => weight_of_precedes
      (hbest.precedes hs hmatch fun heq => hsyntax (heq ▸ hliteral)) hliteral
  obtain ⟨hscore, hrest⟩ := (hweights s hs hliteral hmatch).1
  have hplain := isPlain_of_score (h.parsed _ hmem) hscore hrest
  refine ⟨by simpa [Pattern.hasSyntax, hscore, hrest] using hsyntax, hplain, ?_⟩
  intro s hs hliteral hmatch
  rcases (hweights s hs hliteral hmatch).2 with hlt | heq
  · refine .inl ⟨hlt, fun ⟨hcase, htrailing⟩ => Nat.ne_of_lt hlt ?_⟩
    -- both have as many characters as the path
    obtain ⟨hscore, hrest⟩ := Pattern.score_of_hasSyntax hliteral
    have hspells := isPlain_of_score (h.parsed s hs) hscore hrest
    rw [weight_of_isMatch (h.parsed s hs) hcase htrailing hspells hmatch,
      weight_of_isMatch (h.parsed _ hmem) hcase htrailing hplain hbest.1]
  · exact .inr heq

/-- Of `/*`, `/a?` and `/ab`, registered in this order, `/a?` is the route of `/ab`: it is as long
as the literal text and was registered earlier. -/
theorem findIn_of_literal_tie :
    let calls := [(['/', '*'], 0), (['/', 'a', '?'], 1), (['/', 'a', 'b'], 2)]
    ∃ path s found, Path.parse ['/', 'a', 'b'] .http = .ok path ∧
      s ∈ (empty .default).registered calls ∧ s.pattern.hasSyntax = false ∧
      s.pattern.isMatch path = true ∧
      (((empty .default).addAll calls).findIn path).1 = some found ∧ found.route.handler = 1 ∧
      s.pattern.weight = found.route.pattern.weight ∧
      [found.route, s].Sublist ((empty .default).registered calls) := by
  intro calls
  let s : Route Nat := ⟨⟨['/', 'a', 'b'], .default,
    [⟨0, .separator⟩, ⟨1, .literal ['a', 'b'] true⟩]⟩, 2⟩
  let r : Route Nat := ⟨⟨['/', 'a', '?'], .default,
    [⟨0, .separator⟩, ⟨1, .singleChars ['a', '?'] true⟩]⟩, 1⟩
  let path : Path :=
    .whole ['/', 'a', 'b'] [.separator 0 '/', .segment ⟨1, ['a', 'b'], ['a', 'b'], []⟩] .http
  have hs : s ∈ (empty .default).registered calls :=
    List.mem_cons_of_mem _ (List.mem_cons_of_mem _ List.mem_cons_self)
  obtain ⟨found, hfound, hcases⟩ := findIn_of_literal .default calls path s hs rfl rfl
  obtain rfl : ⟨r, ⟨[], []⟩⟩ = found := Option.some.inj hfound
  obtain ⟨-, -, hweights⟩ := hcases.resolve_left (by decide)
  obtain ⟨hweight, hsub⟩ := (hweights s hs rfl rfl).resolve_left fun h => h.2 ⟨rfl, rfl⟩
  exact ⟨path, s, _, rfl, hs, rfl, rfl, hfound, rfl, hweight, hsub⟩

/-- `/a?` is the route of `/ab` when it is registered before `/ab`. -/
theorem findIn_singleChar_first :
    let t := (empty .default).addAll [(['/', 'a', '?'], 0), (['/', 'a', 'b'], 1)]
    ∃ path found s, Path.parse ['/', 'a', 'b'] .http = .ok path ∧
      (t.findIn path).1 = some found ∧ s ∈ t.routes ∧ s.pattern.hasSyntax = false ∧
      s.pattern.isMatch path = true ∧ found.route.pattern.hasSyntax = true := by
  intro t
  let p : Pattern := ⟨['/', 'a', 'b'], .default, [⟨0, .separator⟩, ⟨1, .literal ['a', 'b'] true⟩]⟩
  let path : Path :=
    .whole ['/', 'a', 'b'] [.separator 0 '/', .segment ⟨1, ['a', 'b'], ['a', 'b'], []⟩] .http
  exact ⟨path, _, ⟨p, 1⟩, rfl, rfl, List.mem_cons_of_mem _ List.mem_cons_self, rfl, rfl, rfl⟩

end RouteTable

end PathRouting
