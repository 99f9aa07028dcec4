import Mathlib.Data.List.Nodup
import PathRouting.Proofs.Pattern.Match
import PathRouting.Proofs.Pattern.Specificity
import PathRouting.Route.Table

/-!
# Tables built route by route

A table keeps the routes that were registered, sorted by how specific their patterns are, equally
specific ones in the order of registration.  Hence the first route that matches a path is the most
specific one, and of several the one that was registered first.

## Main definitions

* `RouteTable.after`, `RouteTable.addAll` — the table after a call of `add`, and after many.
* `RouteTable.registered` — the routes of the calls that succeed.
* `Route.Precedes` — the order of a table.
* `RouteTable.Holds` — the invariant of a table.

## Main results

* `insertRoute_eq` — where a route is put.
* `Holds.addAll` — the invariant holds after any calls.
* `addAll_spec` — what a table holds, when a call fails, and which route a path has.
-/

namespace PathRouting

open Pattern (noLess)

/-! ### Earlier and later in a list -/

section Sublists

variable {β : Type} {l : List β} {a b : β}

/-- In a list without duplicates nothing comes both before and after another. -/
theorem not_sublist_swap (h : l.Nodup) (hab : [a, b].Sublist l) (hba : [b, a].Sublist l) :
    False := by
  induction l with
  | nil => cases hab
  | cons x l ih =>
    obtain ⟨hx, hl⟩ := List.nodup_cons.mp h
    cases hab with
    | cons _ hab =>
      cases hba with
      | cons _ hba => exact ih hl hab hba
      | cons_cons _ _ => exact hx (hab.mem (by simp))
    | cons_cons _ hb =>
      cases hba with
      | cons _ hba => exact hx (hba.mem (by simp))
      | cons_cons _ _ => exact hx (hb.mem (by simp))

/-- Of two different members one comes first. -/
theorem pair_sublist_of_mem (ha : a ∈ l) (hb : b ∈ l) (hne : a ≠ b) :
    [a, b].Sublist l ∨ [b, a].Sublist l := by
  induction l with
  | nil => simp at ha
  | cons x l ih =>
    rcases List.mem_cons.mp ha with rfl | hal
    · have hbl : b ∈ l := (List.mem_cons.mp hb).resolve_left hne.symm
      exact .inl (.cons_cons a (List.singleton_sublist.mpr hbl))
    · rcases List.mem_cons.mp hb with rfl | hbl
      · exact .inr (.cons_cons b (List.singleton_sublist.mpr hal))
      · exact (ih hal hbl).imp (.cons x) (.cons x)

end Sublists

/-! ### The order of a table -/

variable {α : Type}

namespace Route

/-- The order of a table: the pattern is more specific, or as specific and was registered
earlier. -/
def Precedes (registered : List (Route α)) (r s : Route α) : Prop :=
  r.pattern.specificity s.pattern = .lt ∨
    r.pattern.specificity s.pattern = .eq ∧ [r, s].Sublist registered

variable {registered later : List (Route α)} {r s : Route α}

theorem Precedes.noLess (h : Precedes registered r s) : r.pattern.noLess s.pattern = true := by
  rcases h with h | ⟨h, -⟩ <;> rw [Pattern.noLess, h] <;> rfl

theorem Precedes.append (h : Precedes registered r s) (later : List (Route α)) :
    Precedes (registered ++ later) r s :=
  h.imp_right fun ⟨heq, hsub⟩ => ⟨heq, hsub.trans (List.sublist_append_left ..)⟩

/-- No two routes precede one another. -/
theorem Precedes.asymm (hnodup : registered.Nodup) (hrs : Precedes registered r s)
    (hsr : Precedes registered s r) : False := by
  have hswap : s.pattern.specificity r.pattern = (r.pattern.specificity s.pattern).swap :=
    Std.OrientedCmp.eq_swap
  rcases hrs with hlt | ⟨heq, hrs⟩
  · rcases hsr with h | ⟨h, -⟩ <;> simp [hswap, hlt] at h
  · rcases hsr with h | ⟨-, hsr⟩
    · simp [hswap, heq] at h
    · exact not_sublist_swap hnodup hrs hsr

/-- A stable sort puts routes in the order of a table. -/
theorem pairwise_precedes_mergeSort (hnodup : registered.Nodup) :
    (registered.mergeSort fun r s => r.pattern.noLess s.pattern).Pairwise
      (Precedes registered) := by
  have htrans : ∀ r s t : Route α, r.pattern.noLess s.pattern = true →
      s.pattern.noLess t.pattern = true → r.pattern.noLess t.pattern = true :=
    fun r s t => Pattern.noLess_trans r.pattern s.pattern t.pattern
  have htotal : ∀ r s : Route α,
      (r.pattern.noLess s.pattern || s.pattern.noLess r.pattern) = true :=
    fun r s => Pattern.noLess_total r.pattern s.pattern
  rw [List.pairwise_iff_forall_sublist]
  intro r s hsub
  have hsorted := List.pairwise_iff_forall_sublist.mp
    (List.pairwise_mergeSort htrans htotal registered) hsub
  have hnodup' : (registered.mergeSort fun r s => r.pattern.noLess s.pattern).Nodup :=
    (List.mergeSort_perm registered _).nodup_iff.mpr hnodup
  have hne : r ≠ s := List.pairwise_iff_forall_sublist.mp hnodup' hsub
  have hr : r ∈ registered := List.mem_mergeSort.mp (hsub.mem (by simp))
  have hs : s ∈ registered := List.mem_mergeSort.mp (hsub.mem (by simp))
  rcases h : r.pattern.specificity s.pattern with _ | _ | _
  · exact .inl h
  · refine .inr ⟨h, (pair_sublist_of_mem hr hs hne).resolve_right fun hswap => ?_⟩
    -- were `s` registered earlier, the sort would have left it there
    have hle : s.pattern.noLess r.pattern = true := by
      have heq : s.pattern.specificity r.pattern = .eq := Std.OrientedCmp.eq_symm h
      rw [Pattern.noLess, heq]
      rfl
    exact not_sublist_swap hnodup' hsub (List.pair_sublist_mergeSort htrans htotal hle hswap)
  · simp [Pattern.noLess, h] at hsorted

end Route

namespace RouteTable

open Route (Precedes)

/-! ### Inserting a route -/

/-- A route is put after all routes before the first less specific one. -/
theorem insertRoute_eq (r : Route α) (routes : List (Route α)) : ∃ before after,
    routes = before ++ after ∧ insertRoute r routes = (before ++ r :: after, before.length) ∧
      (∀ s ∈ before, s.pattern.noLess r.pattern = true) ∧
      ∀ s ∈ after.head?, s.pattern.specificity r.pattern = .gt := by
  induction routes with
  | nil => exact ⟨[], [], rfl, rfl, by simp, by simp⟩
  | cons first rest ih =>
    rw [insertRoute]
    split
    · next hgt => exact ⟨[], first :: rest, rfl, rfl, by simp, by simpa using hgt⟩
    · next hngt =>
      obtain ⟨before, after, rfl, hinsert, hbefore, hafter⟩ := ih
      rw [hinsert]
      refine ⟨first :: before, after, rfl, rfl, ?_, hafter⟩
      intro s hs
      rcases List.mem_cons.mp hs with rfl | hs
      · rw [noLess]
        cases h : s.pattern.specificity r.pattern <;> simp_all
      · exact hbefore s hs

/-- A route registered last is put at its place in the order. -/
theorem pairwise_insertRoute {registered routes : List (Route α)}
    (h : routes.Pairwise (Precedes registered)) (hperm : routes.Perm registered) (r : Route α) :
    (insertRoute r routes).1.Pairwise (Precedes (registered ++ [r])) := by
  obtain ⟨before, after, rfl, hinsert, hbefore, hafter⟩ := insertRoute_eq r routes
  obtain ⟨hb, ha, hba⟩ := List.pairwise_append.mp h
  -- what stands after the first less specific route is less specific as well
  have hgt : ∀ s ∈ after, s.pattern.specificity r.pattern = .gt := by
    intro s hs
    cases after with
    | nil => simp at hs
    | cons first rest =>
      have hfirst := hafter first rfl
      rcases List.mem_cons.mp hs with rfl | hs
      · exact hfirst
      · have hle := (List.rel_of_pairwise_cons ha hs).noLess
        rw [Std.OrientedCmp.gt_iff_lt] at hfirst ⊢
        exact Std.TransCmp.lt_of_lt_of_isLE hfirst hle
  rw [hinsert]
  refine List.pairwise_append.mpr ⟨hb.imp fun h => h.append [r], .cons ?_ (ha.imp fun h =>
    h.append [r]), ?_⟩
  · intro s hs
    exact .inl (Std.OrientedCmp.gt_iff_lt.mp (hgt s hs))
  · intro s hs u hu
    rcases List.mem_cons.mp hu with rfl | hu
    · have hle := hbefore s hs
      have hmem : s ∈ registered := hperm.mem_iff.mp (List.mem_append_left _ hs)
      have hsub : [s, u].Sublist (registered ++ [u]) :=
        (List.singleton_sublist.mpr hmem).append (List.Sublist.refl [u])
      rw [noLess] at hle
      rcases h : s.pattern.specificity u.pattern with _ | _ | _
      · exact .inl h
      · exact .inr ⟨h, hsub⟩
      · simp [h] at hle
    · exact (hba s hs u hu).append [r]

/-! ### Calls one after the other -/

/-- The table after a call of `add`; a call that fails leaves it as it is. -/
def after (t : RouteTable α) (text : List Char) (handler : α) : RouteTable α :=
  match (t.add text handler).1 with
  | .ok t' => t'
  | .error _ => t

/-- The table after calls of `add`, one after the other. -/
def addAll (t : RouteTable α) : List (List Char × α) → RouteTable α
  | [] => t
  | (text, handler) :: calls => (t.after text handler).addAll calls

/-- The routes of the calls that succeed, in the order of the calls. -/
def registered (t : RouteTable α) : List (List Char × α) → List (Route α)
  | [] => []
  | (text, handler) :: calls =>
    match Pattern.parse t.options text, (t.add text handler).1 with
    | .ok p, .ok t' => ⟨p, handler⟩ :: t'.registered calls
    | _, _ => t.registered calls

/-- The invariant of a table: it holds the routes that were registered, in its order. -/
structure Holds (t : RouteTable α) (o : PatternOptions) (registered : List (Route α)) : Prop where
  /-- Patterns are read with these options. -/
  options : t.options = o
  /-- The routes are those that were registered. -/
  perm : t.routes.Perm registered
  /-- They stand in the order of a table. -/
  ordered : t.routes.Pairwise (Precedes registered)
  /-- Every pattern is that of its text. -/
  parsed : ∀ r ∈ registered, Pattern.parse o r.pattern.text = .ok r.pattern
  /-- No two patterns have the same text. -/
  texts : (registered.map (·.pattern.text)).Nodup

variable {t t' : RouteTable α} {o : PatternOptions} {regs : List (Route α)} {text : List Char}
  {handler : α}

theorem holds_empty (o : PatternOptions) : (empty o : RouteTable α).Holds o [] :=
  ⟨rfl, .nil, .nil, by simp, .nil⟩

namespace Holds

theorem nodup (h : t.Holds o regs) : regs.Nodup := List.Nodup.of_map _ h.texts

theorem mem_patternTexts (h : t.Holds o regs) :
    text ∈ t.patternTexts ↔ text ∈ regs.map (·.pattern.text) :=
  (h.perm.map _).mem_iff

/-- A call registers a pattern that is well formed and new, and fails otherwise. -/
theorem add_eq (h : t.Holds o regs) (text : List Char) (handler : α) :
    (t.add text handler).1 = match Pattern.parse o text with
      | .error fault => .error (.pattern fault)
      | .ok p =>
        if text ∈ regs.map (·.pattern.text) then .error (.duplicateRoute text)
        else .ok { t with routes := (insertRoute ⟨p, handler⟩ t.routes).1 } := by
  rw [add, h.options]
  cases Pattern.parse o text with
  | error fault => rfl
  | ok p =>
    simp only [List.contains_iff_mem, h.mem_patternTexts]
    split <;> rfl

/-- A call that succeeds registers its route last. -/
theorem add (h : t.Holds o regs) (hadd : (t.add text handler).1 = .ok t') :
    ∃ p, Pattern.parse o text = .ok p ∧ t'.Holds o (regs ++ [⟨p, handler⟩]) := by
  rw [h.add_eq] at hadd
  cases hparse : Pattern.parse o text with
  | error fault => simp [hparse] at hadd
  | ok p =>
    simp only [hparse] at hadd
    split at hadd
    · simp at hadd
    next hnew =>
    obtain rfl := Except.ok.inj hadd
    obtain ⟨rfl, -⟩ := text_of_parse hparse
    refine ⟨p, rfl, h.options, ?_, pairwise_insertRoute h.ordered h.perm _, ?_, ?_⟩
    · obtain ⟨before, after, heq, hinsert, -, -⟩ := insertRoute_eq ⟨p, handler⟩ t.routes
      have hperm := heq ▸ h.perm
      rw [hinsert]
      exact List.perm_middle.trans ((hperm.cons _).trans (List.perm_append_singleton ..).symm)
    · intro r hr
      rcases List.mem_append.mp hr with hr | hr
      · exact h.parsed r hr
      · obtain rfl := List.mem_singleton.mp hr
        exact hparse
    · rw [List.map_append, List.nodup_append]
      refine ⟨h.texts, by simp, ?_⟩
      rintro a ha b hb rfl
      obtain rfl := List.mem_singleton.mp hb
      exact hnew ha

/-- **A table holds the routes of the calls that succeeded.** -/
theorem addAll (h : t.Holds o regs) (calls : List (List Char × α)) :
    (t.addAll calls).Holds o (regs ++ t.registered calls) := by
  induction calls generalizing t regs with
  | nil => simpa [RouteTable.addAll, RouteTable.registered] using h
  | cons call calls ih =>
    obtain ⟨text, handler⟩ := call
    rw [RouteTable.addAll, RouteTable.registered, after, h.options]
    cases hadd : (t.add text handler).1 with
    | error e =>
      have hregs : (match Pattern.parse o text, (.error e : Except Error (RouteTable α)) with
          | .ok p, .ok t' => ⟨p, handler⟩ :: t'.registered calls
          | _, _ => t.registered calls) = t.registered calls := by
        cases Pattern.parse o text <;> rfl
      rw [hregs]
      exact ih h
    | ok t' =>
      obtain ⟨p, hparse, h'⟩ := h.add hadd
      rw [hparse]
      simpa using ih h'

/-- The routes stand as a stable sort puts them. -/
theorem routes_eq (h : t.Holds o regs) :
    t.routes = regs.mergeSort fun r s => r.pattern.noLess s.pattern := by
  refine List.Perm.eq_of_pairwise (fun r s _ _ hrs hsr => ?_) h.ordered
    (Route.pairwise_precedes_mergeSort h.nodup)
    (h.perm.trans (List.mergeSort_perm regs _).symm)
  exact (hrs.asymm h.nodup hsr).elim

end Holds

/-! ### The route of a path -/

/-- The first match has no match before it. -/
theorem firstMatch_eq_some {path : Path} {routes later : List (Route α)} {found : Found α}
    (h : firstMatch path routes = some (found, later)) : ∃ before,
      routes = before ++ found.route :: later ∧ found.route.pattern.match? path = some found.info ∧
      ∀ r ∈ before, r.pattern.match? path = none := by
  induction routes with
  | nil => simp [firstMatch] at h
  | cons r rest ih =>
    rw [firstMatch] at h
    split at h
    · next info hinfo =>
      obtain ⟨rfl, rfl⟩ := Prod.mk.inj (Option.some.inj h)
      exact ⟨[], rfl, hinfo, by simp⟩
    · next hnone =>
      obtain ⟨before, rfl, hinfo, hbefore⟩ := ih h
      exact ⟨r :: before, rfl, hinfo, by simpa [hnone] using hbefore⟩

theorem firstMatch_eq_none {path : Path} {routes : List (Route α)} :
    firstMatch path routes = none ↔ ∀ r ∈ routes, r.pattern.match? path = none := by
  induction routes with
  | nil => simp [firstMatch]
  | cons r rest ih =>
    rw [firstMatch]
    cases hr : r.pattern.match? path <;> simp [hr, ih]

/-- The best of the routes that were registered for a path: it matches, those registered before it
that match are less specific, and those registered after it that match are not more specific. -/
def IsBest (regs : List (Route α)) (path : Path) (r : Route α) : Prop :=
  r.pattern.isMatch path = true ∧ ∃ before after, regs = before ++ r :: after ∧
    (∀ s ∈ before, s.pattern.isMatch path = true → r.pattern.specificity s.pattern = .lt) ∧
    (∀ s ∈ after, s.pattern.isMatch path = true → r.pattern.specificity s.pattern ≠ .gt)

namespace Holds

theorem isMatch_iff (h : t.Holds o regs) {r : Route α} (hr : r ∈ regs) (path : Path) :
    r.pattern.isMatch path = true ↔ ∃ info, r.pattern.match? path = some info := by
  rw [isMatch_eq (h.parsed r hr), Option.isSome_iff_exists]

/-- A path has a route when one of the routes matches. -/
theorem isSome_findIn (h : t.Holds o regs) (path : Path) :
    (t.findIn path).1.isSome = true ↔ ∃ r ∈ regs, r.pattern.isMatch path = true := by
  have hfind : (t.findIn path).1.isSome = (firstMatch path t.routes).isSome := by
    rw [findIn]
    cases firstMatch path t.routes <;> rfl
  rw [hfind, ← Option.ne_none_iff_isSome, Ne, firstMatch_eq_none]
  simp only [not_forall]
  constructor
  · rintro ⟨r, hr, hmatch⟩
    have hmem := h.perm.mem_iff.mp hr
    exact ⟨r, hmem, (h.isMatch_iff hmem path).mpr (Option.ne_none_iff_exists'.mp hmatch)⟩
  · rintro ⟨r, hr, hmatch⟩
    exact ⟨r, h.perm.mem_iff.mpr hr,
      Option.ne_none_iff_exists'.mpr ((h.isMatch_iff hr path).mp hmatch)⟩

/-- The route of a path is the best one. -/
theorem isBest_of_findIn (h : t.Holds o regs) {path : Path} {found : Found α}
    (hfound : (t.findIn path).1 = some found) :
    IsBest regs path found.route ∧ found.route.pattern.match? path = some found.info := by
  rw [findIn] at hfound
  split at hfound
  · simp at hfound
  next found' later hfirst =>
  obtain rfl : found' = found := Option.some.inj hfound
  obtain ⟨first, hroutes, hinfo, hfirst⟩ := firstMatch_eq_some hfirst
  have hmem : found'.route ∈ regs := h.perm.mem_iff.mp (by simp [hroutes])
  obtain ⟨before, after, hregs⟩ := List.append_of_mem hmem
  have hordered := (List.pairwise_append.mp (hroutes ▸ h.ordered)).2.1
  -- any other route that matches comes later in the table
  have hlater : ∀ s ∈ regs, s ≠ found'.route → s.pattern.isMatch path = true →
      Precedes regs found'.route s := by
    intro s hs hne hmatch
    obtain ⟨info, hs'⟩ := (h.isMatch_iff hs path).mp hmatch
    have hroute : s ∈ first ++ found'.route :: later := hroutes ▸ h.perm.mem_iff.mpr hs
    rcases List.mem_append.mp hroute with hbefore | hrest
    · simp [hfirst s hbefore] at hs'
    · exact List.rel_of_pairwise_cons hordered ((List.mem_cons.mp hrest).resolve_left hne)
  have hnodup := h.nodup
  rw [hregs, List.nodup_append] at hnodup
  obtain ⟨-, hafter, hdisjoint⟩ := hnodup
  refine ⟨⟨(h.isMatch_iff hmem path).mpr ⟨_, hinfo⟩, before, after, hregs, ?_, ?_⟩, hinfo⟩
  · intro s hs hmatch
    have hne : s ≠ found'.route := hdisjoint s hs _ List.mem_cons_self
    rcases hlater s (by simp [hregs, hs]) hne hmatch with hlt | ⟨-, hsub⟩
    · exact hlt
    · have hswap : [s, found'.route].Sublist regs := by
        rw [hregs]
        exact (List.singleton_sublist.mpr hs).append (List.singleton_sublist.mpr List.mem_cons_self)
      exact (not_sublist_swap h.nodup hsub hswap).elim
  · intro s hs hmatch
    have hne : s ≠ found'.route := fun heq =>
      (List.nodup_cons.mp hafter).1 (heq ▸ hs)
    rcases hlater s (by simp [hregs, hs]) hne hmatch with h | ⟨h, -⟩ <;> simp [h]

end Holds

/-- **What a table does after any calls of `add`.**  It holds the routes of the calls that
succeeded, no two with the same text, as a stable sort of them in the order of registration puts
them.  The next call fails if its text is malformed or has been registered, and then leaves the
table as it is.  A path has a route if one of the routes matches it, and then the best one. -/
theorem addAll_spec (o : PatternOptions) (calls : List (List Char × α)) :
    let t := (empty o).addAll calls
    let regs := (empty o).registered calls
    t.routes = (regs.mergeSort fun r s => (r.pattern.specificity s.pattern).isLE) ∧
    (regs.map (·.pattern.text)).Nodup ∧
    (∀ text handler,
      (t.add text handler).1.map (fun _ => ()) = (match Pattern.parse o text with
        | .error fault => .error (.pattern fault)
        | .ok _ =>
          if text ∈ regs.map (·.pattern.text) then .error (.duplicateRoute text) else .ok ()) ∧
      ∀ e, (t.add text handler).1 = .error e → t.after text handler = t) ∧
    ∀ path,
      ((t.findIn path).1.isSome = true ↔ ∃ r ∈ regs, r.pattern.isMatch path = true) ∧
      ∀ found, (t.findIn path).1 = some found →
        IsBest regs path found.route ∧ found.route.pattern.match? path = some found.info := by
  intro t regs
  have h : t.Holds o regs := (holds_empty o).addAll calls
  refine ⟨h.routes_eq, h.texts, fun text handler => ⟨?_, fun e he => ?_⟩, fun path =>
    ⟨h.isSome_findIn path, fun found => h.isBest_of_findIn⟩⟩
  · rw [h.add_eq]
    cases Pattern.parse o text with
    | error fault => rfl
    | ok p =>
      dsimp only
      split <;> rfl
  · rw [after, he]

end RouteTable

end PathRouting
