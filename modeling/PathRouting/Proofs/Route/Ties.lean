import PathRouting.Proofs.Route.Table

/-!
# Ties

Beside the route that it finds a table reports the routes that would have done as well.  It looks for
them just after the route, only as far as routes are equally specific.  That is far enough, since
equally specific routes stand side by side, in the order of registration, and one before the route
that matched the path would have been found.

## Main definitions

* `RouteTable.rivals` — the other routes that match a path and are as specific as a given one.

## Main results

* `Precedes.eq_of_between` — what stands between equally specific routes is as specific as they are.
* `Holds.ties_eq` — the ties of a table are the rivals in the order of registration.
* `log_findIn` — what a table reports when it has found a route.
-/

namespace PathRouting

open Route (Precedes)

variable {α : Type}

/-- Where a property holds up to some member of a list, the members that have it come first. -/
theorem takeWhile_eq_filter {l : List α} {p : α → Bool}
    (h : l.Pairwise fun a b => p b = true → p a = true) : l.takeWhile p = l.filter p := by
  induction l with
  | nil => rfl
  | cons a l ih =>
    obtain ⟨ha, hl⟩ := List.pairwise_cons.mp h
    cases hp : p a with
    | true => rw [List.takeWhile_cons_of_pos hp, List.filter_cons_of_pos hp, ih hl]
    | false =>
      have hnone : l.filter p = [] := List.filter_eq_nil_iff.mpr fun b hb hpb => by
        simp [ha b hb hpb] at hp
      rw [List.takeWhile_cons_of_neg (by simp [hp]), List.filter_cons_of_neg (by simp [hp]), hnone]

/-- What stands between two equally specific routes is as specific as the first of them. -/
theorem Route.Precedes.eq_of_between {registered : List (Route α)} {r s u : Route α}
    (hrs : Precedes registered r s) (hsu : Precedes registered s u)
    (heq : r.pattern.specificity u.pattern = .eq) : r.pattern.specificity s.pattern = .eq := by
  rcases hrs with hlt | ⟨hrs, -⟩
  · have hru : r.pattern.specificity u.pattern = .lt :=
      Std.TransCmp.lt_of_lt_of_isLE hlt hsu.noLess
    simp [heq] at hru
  · exact hrs

namespace RouteTable

/-- The routes other than `r` that match a path and are as specific as `r`. -/
def rivals (registered : List (Route α)) (path : Path) (r : Route α) : List (Route α) :=
  registered.filter fun s => s.pattern.text != r.pattern.text && s.pattern.isMatch path
    && r.pattern.specificity s.pattern == .eq

variable {t : RouteTable α} {o : PatternOptions} {regs later : List (Route α)} {path : Path}
  {found : Found α}

theorem mem_rivals {r s : Route α} : s ∈ rivals regs path r ↔ s ∈ regs ∧
    s.pattern.text ≠ r.pattern.text ∧ s.pattern.isMatch path = true ∧
      r.pattern.specificity s.pattern = .eq := by
  simp [rivals, and_assoc]

namespace Holds

/-- The ties are the rivals in the order of the table. -/
theorem ties_eq_rivals (h : t.Holds o regs) (hfirst : firstMatch path t.routes = some (found, later)) :
    ties path found.route.pattern later = rivals t.routes path found.route := by
  obtain ⟨before, hroutes, -, hbefore⟩ := firstMatch_eq_some hfirst
  obtain ⟨-, hordered, -⟩ := List.pairwise_append.mp (hroutes ▸ h.ordered)
  obtain ⟨hchosen, hlater⟩ := List.pairwise_cons.mp hordered
  have htake : (later.takeWhile fun r => found.route.pattern.specificity r.pattern = .eq)
      = later.filter fun r => found.route.pattern.specificity r.pattern = .eq := by
    refine takeWhile_eq_filter (hlater.imp_of_mem fun {a b} ha _ hab hb => ?_)
    simp only [decide_eq_true_eq] at hb ⊢
    exact (hchosen a ha).eq_of_between hab hb
  -- none of those before the route matches, and those after it have other texts
  have hnone : rivals before path found.route = [] := by
    refine List.filter_eq_nil_iff.mpr fun r hr hrival => ?_
    have hmem : r ∈ regs := h.perm.mem_iff.mp (hroutes ▸ List.mem_append_left _ hr)
    have hmatch : r.pattern.isMatch path = true :=
      (mem_rivals.mp (List.mem_filter.mpr ⟨hr, hrival⟩)).2.2.1
    obtain ⟨info, hinfo⟩ := (h.isMatch_iff hmem path).mp hmatch
    simp [hbefore r hr] at hinfo
  have htexts : ∀ r ∈ later, r.pattern.text ≠ found.route.pattern.text := by
    have hnodup : (t.routes.map (·.pattern.text)).Nodup := (h.perm.map _).nodup_iff.mpr h.texts
    rw [hroutes, List.map_append, List.map_cons] at hnodup
    have hnotMem := (List.nodup_cons.mp (List.nodup_append.mp hnodup).2.1).1
    intro r hr heq
    exact hnotMem (heq ▸ List.mem_map_of_mem hr)
  have hsplit : rivals t.routes path found.route
      = rivals before path found.route ++ rivals later path found.route := by
    rw [hroutes, rivals, List.filter_append, List.filter_cons_of_neg (by simp)]
    rfl
  rw [hsplit, hnone, List.nil_append, ties, htake, List.filter_filter]
  refine List.filter_congr fun r hr => ?_
  have htext : (r.pattern.text != found.route.pattern.text) = true := by simpa using htexts r hr
  rw [htext, Bool.true_and]
  rfl

/-- **The ties are the rivals in the order of registration.** -/
theorem ties_eq (h : t.Holds o regs) (hfirst : firstMatch path t.routes = some (found, later)) :
    ties path found.route.pattern later = rivals regs path found.route := by
  rw [h.ties_eq_rivals hfirst]
  have hswap (r s : Route α) (hrs : [r, s].Sublist regs) (hsr : [s, r].Sublist regs) : r = s :=
    (not_sublist_swap h.nodup hrs hsr).elim
  refine List.Perm.eq_of_pairwise (fun r s _ _ => hswap r s) ?_ ?_ (h.perm.filter _)
  · refine (h.ordered.filter _).imp_of_mem fun {r s} hr hs hprecedes => ?_
    obtain ⟨-, -, -, hr⟩ := mem_rivals.mp hr
    obtain ⟨-, -, -, hs⟩ := mem_rivals.mp hs
    have heq : r.pattern.specificity s.pattern = .eq :=
      Std.TransCmp.eq_trans (Std.OrientedCmp.eq_symm hr) hs
    rcases hprecedes with hlt | ⟨-, hsub⟩
    · simp [heq] at hlt
    · exact hsub
  · exact List.pairwise_iff_forall_sublist.mpr fun hsub => hsub.trans List.filter_sublist

end Holds

/-- **What a table reports when it has found a route**: one tie for each other route that was
registered, matches the path and is as specific as the one found, in the order of registration, and
nothing else.  No two of the reports are the same. -/
theorem log_findIn (o : PatternOptions) (calls : List (List Char × α)) (path : Path) :
    let t := (empty o).addAll calls
    let regs := (empty o).registered calls
    ∀ found, (t.findIn path).1 = some found →
      (t.findIn path).2 = ((regs.filter fun r =>
          r.pattern.text != found.route.pattern.text && r.pattern.isMatch path
            && found.route.pattern.specificity r.pattern == .eq).map fun r =>
        .tie path.text found.route.pattern.text r.pattern.text) ∧
      (t.findIn path).2.Nodup := by
  intro t regs found hfound
  have h : t.Holds o regs := (holds_empty o).addAll calls
  have hlog : (t.findIn path).2 = (rivals regs path found.route).map fun r =>
      .tie path.text found.route.pattern.text r.pattern.text := by
    rw [findIn] at hfound ⊢
    split at hfound
    · simp at hfound
    · next found' later hfirst =>
      obtain rfl : found' = found := Option.some.inj hfound
      rw [← h.ties_eq hfirst]
  refine ⟨hlog, hlog ▸ ?_⟩
  -- the texts of the patterns tell the reports apart
  have htexts : ((rivals regs path found.route).map (·.pattern.text)).Nodup :=
    h.texts.sublist (List.filter_sublist.map _)
  have hmap : ((rivals regs path found.route).map fun r =>
      LogRecord.tie path.text found.route.pattern.text r.pattern.text)
      = ((rivals regs path found.route).map (·.pattern.text)).map
          (LogRecord.tie path.text found.route.pattern.text) := by
    rw [List.map_map]
    rfl
  rw [hmap]
  exact htexts.map fun a b heq => (LogRecord.tie.inj heq).2.2

/-- Of `/*/b`, `/{x}/b`, `/c/{y}` and `/a/{z}` the second one is the route of `/a/b`, and the only tie
is the last one: the first one is less specific, and the third one does not match. -/
theorem log_findIn_captures :
    let calls := [(['/', '*', '/', 'b'], 0), (['/', '{', 'x', '}', '/', 'b'], 1),
      (['/', 'c', '/', '{', 'y', '}'], 2), (['/', 'a', '/', '{', 'z', '}'], 3)]
    let t := (empty .default).addAll calls
    ∃ path found, Path.parse ['/', 'a', '/', 'b'] .http = .ok path ∧
      (t.findIn path).1 = some found ∧ found.route.handler = 1 ∧
      (t.findIn path).2 =
        [.tie ['/', 'a', '/', 'b'] ['/', '{', 'x', '}', '/', 'b'] ['/', 'a', '/', '{', 'z', '}']] := by
  intro calls t
  let path : Path := .whole ['/', 'a', '/', 'b'] [.separator 0 '/', .segment ⟨1, ['a'], ['a'], []⟩,
    .separator 2 '/', .segment ⟨3, ['b'], ['b'], []⟩] .http
  obtain ⟨found, hfound⟩ : ∃ found, (t.findIn path).1 = some found := ⟨_, rfl⟩
  obtain ⟨hlog, -⟩ := log_findIn .default calls path found hfound
  obtain rfl := Option.some.inj hfound
  exact ⟨path, _, rfl, rfl, rfl, hlog⟩

end RouteTable

end PathRouting
