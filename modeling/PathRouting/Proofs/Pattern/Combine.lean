import PathRouting.Pattern.Combine
import PathRouting.Proofs.Config
import PathRouting.Proofs.Pattern.Append
import PathRouting.Proofs.Pattern.Join

/-!
# Nested mappings

A group of routes has a pattern of its own, which may end with a `*`, and a route in it has a
pattern that starts with the separator.  Combined they match as the two do one after the other.

## Main results

* `combine_eq` — patterns of a group and of a route in it are combined by putting texts together.
* `combine_nested` — matching with the combined pattern.
-/

namespace PathRouting

/-! ### Texts -/

theorem extensionAfterStar?_eq_none {s : List Char} (h : '*' ∉ s) :
    extensionAfterStar? s = none := by
  induction s with
  | nil => rfl
  | cons c s ih =>
    obtain ⟨hc, hs⟩ := not_or.mp (mt List.mem_cons.mpr h)
    unfold extensionAfterStar?
    split
    · next heq =>
      obtain ⟨rfl, -⟩ := List.cons.inj heq
      exact absurd rfl hc
    · next heq =>
      obtain ⟨-, rfl⟩ := List.cons.inj heq
      exact ih hs
    · rfl

/-- Where one text brings the separator, they are put together as they are. -/
theorem joinTexts_eq_append {separator : Char} {first second : List Char}
    (hlast : first.getLast? ≠ some separator) (hhead : second.head? = some separator) :
    joinTexts separator first second = first ++ second := by
  have h₁ : (first.getLast? == some separator) = false := beq_false_of_ne hlast
  have h₂ : (second.head? == some separator) = true := by simp [hhead]
  rw [joinTexts, h₁, h₂]

/-- The text of the separator and a `*` is a pattern that records nothing. -/
theorem exists_parse_wildcard {o : PatternOptions} (ho : o.validate = .ok o) :
    ∃ p, Pattern.parse o [o.separator, '*'] = .ok p ∧ p.names = [] := by
  obtain ⟨hopen, hclose, hstar⟩ := separator_ne ho
  have hcontents : contentsFrom o.separator .outside ['*'] = some [some ['*']] := by
    rw [contentsFrom, Braces.step_outside (by decide) (by decide)]
    simp [contentsFrom, Braces.cutsAt, Braces.outside, consContent, Ne.symm hstar]
  have hread : Outline.read o [o.separator, '*'] = some ⟨[.wildcard, .separator], []⟩ := by
    rw [Outline.read, contentsFrom_separator hopen hclose, hcontents]
    rfl
  obtain ⟨p, hp, -, hnames⟩ := parse_of_read hread
  exact ⟨p, hp, hnames⟩

/-! ### Combining -/

section Combine

variable {o : PatternOptions} {text later : List Char} {p a b : Pattern}

/-- The pattern of a group is a pattern with and without the `*` at its end. -/
theorem exists_parse_group (ho : o.validate = .ok o) (h : Pattern.parse o text = .ok p)
    (hstar : '*' ∉ text) {group : List Char}
    (hgroup : group = text ∨ group = text ++ [o.separator, '*']) :
    ∃ a, Pattern.parse o group = .ok a := by
  rcases hgroup with rfl | rfl
  · exact ⟨p, h⟩
  · obtain ⟨hopen, hclose, -⟩ := separator_ne ho
    obtain ⟨w, hw, hnames⟩ := exists_parse_wildcard ho
    refine (parse_append hopen hclose h hstar hw rfl).1.mpr ?_
    rw [hnames]
    exact List.disjoint_nil_right _

/-- The patterns of a group and of a route in it are combined by putting their texts together. -/
theorem combine_eq (hne : text ≠ []) (hstar : '*' ∉ text)
    (hlast : text.getLast? ≠ some o.separator) (hoptions : a.options = o)
    (hgroup : a.text = text ∨ a.text = text ++ [o.separator, '*'])
    (hhead : b.text.head? = some o.separator)
    (hguard : ¬(a.text ≠ b.text ∧ a.captureCount = 0 ∧ a.matchesText b.text = true)) :
    a.combine b = (Pattern.parse o (text ++ b.text)).mapError .pattern := by
  have hb : b.text ≠ [] := by
    intro hnil
    simp [hnil] at hhead
  have hseparator : a.separator = o.separator := congrArg PatternOptions.separator hoptions
  have hjoin := joinTexts_eq_append hlast hhead
  rcases hgroup with htext | htext
  -- the whole text of the group is kept
  · have hends : a.endsWithWildcard = false := by
      rw [Pattern.endsWithWildcard, htext, hseparator, beq_eq_false_iff_ne]
      intro heq
      exact hstar (List.mem_of_mem_drop (by rw [heq]; simp))
    rw [htext] at hguard
    rw [Pattern.combine, htext, if_neg hne, if_neg hb, if_neg hguard, hends,
      extensionAfterStar?_eq_none hstar, ite_self]
    dsimp only
    rw [if_neg (by simp), hseparator, hjoin, Pattern.reparse, hoptions]
  -- the last two characters of the group give way
  · have hlength : a.text.length - 2 = text.length := by simp [htext]
    have hends : a.endsWithWildcard = true := by
      rw [Pattern.endsWithWildcard, hlength, htext, hseparator]
      simp
    rw [Pattern.combine, if_neg (by simp [htext]), if_neg hb, if_neg hguard, if_pos hends, hlength,
      htext, List.take_left, hseparator, hjoin, Pattern.reparse, hoptions]

/-- **Nested mappings compose.**  A group has the text of `p`, which has no `*`, or that text with
the separator and a `*` after it, and a route in it has a pattern `b` that starts with the
separator.  Unless the group takes the route for one of its own and makes way for it, the two can be
combined just when `p` and `b` give no name twice.  The combined pattern matches a path when `p`
matches the start of it and `b` matches the rest, and it records what these two record, which is
apart. -/
theorem combine_nested (ho : o.validate = .ok o) (h : Pattern.parse o text = .ok p)
    (hne : text ≠ []) (hstar : '*' ∉ text) (hlast : text.getLast? ≠ some o.separator)
    {group : List Char} (hgroup : group = text ∨ group = text ++ [o.separator, '*'])
    (hb : Pattern.parse o later = .ok b) (hhead : later.head? = some o.separator) :
    ∃ a, Pattern.parse o group = .ok a ∧
      (¬(a.text ≠ b.text ∧ a.captureCount = 0 ∧ a.matchesText b.text = true) →
        ((∃ c, a.combine b = .ok c) ↔ p.names.Disjoint b.names) ∧
        ∀ c, a.combine b = .ok c → ∀ path,
          ((c.match? path).isSome = true ↔
            ∃ r, p.matchStart? path = some r ∧ (b.match? r.remaining).isSome = true) ∧
          ∀ r info, p.matchStart? path = some r → b.match? r.remaining = some info →
            r.info.Disjoint info ∧ c.match? path = some (r.info.union info)) := by
  obtain ⟨hopen, hclose, -⟩ := separator_ne ho
  obtain ⟨a, ha⟩ := exists_parse_group ho h hstar hgroup
  obtain ⟨hatext, hoptions⟩ := text_of_parse ha
  obtain ⟨hbtext, -⟩ := text_of_parse hb
  obtain ⟨hptext, -⟩ := text_of_parse h
  refine ⟨a, ha, fun hguard => ?_⟩
  have hcombine := combine_eq hne hstar hlast hoptions (hatext ▸ hgroup) (hbtext ▸ hhead) hguard
  obtain ⟨hparses, hkinds⟩ := parse_append hopen hclose h hstar hb hhead
  simp only [hcombine, mapError_eq_ok, hbtext]
  refine ⟨hparses, fun c hc path => ?_⟩
  obtain ⟨hctext, -⟩ := text_of_parse hc
  have hlater : later ≠ [] := by
    intro hnil
    simp [hnil] at hhead
  have hjoins : Joins o p b c := {
    first := hptext ▸ h
    second := hbtext ▸ hb
    whole := hctext ▸ hc
    kinds := hkinds c hc
    ne := elements_ne_nil_of_parse h hne
    fixed := fixed_of_parse h hstar
    ne' := elements_ne_nil_of_parse hb hlater
    starts := startsAtSeparator_of_parse hb hopen hclose hhead }
  constructor
  · rw [hjoins.match?_eq]
    rcases p.matchStart? path with _ | r <;> simp
  · intro r info hr hinfo
    refine ⟨hjoins.disjoint hr hinfo, ?_⟩
    rw [hjoins.match?_eq, hr, Option.bind_some, hinfo, Option.map_some]

end Combine

/-- `/{a}/*` and `/{b}`, which are combined into `/{a}/{b}`, and what that records of `/x/y`. -/
theorem combine_nested_captures : ∃ a b c path,
    Pattern.parse .default ['/', '{', 'a', '}', '/', '*'] = .ok a ∧
    Pattern.parse .default ['/', '{', 'b', '}'] = .ok b ∧ a.combine b = .ok c ∧
    Path.parse ['/', 'x', '/', 'y'] .http = .ok path ∧
    c.match? path = some ⟨[(['a'], ['x']), (['b'], ['y'])], []⟩ := by
  let p : Pattern :=
    ⟨['/', '{', 'a', '}'], .default, [⟨0, .separator⟩, ⟨1, .capture ['a'] none⟩]⟩
  let b : Pattern :=
    ⟨['/', '{', 'b', '}'], .default, [⟨0, .separator⟩, ⟨1, .capture ['b'] none⟩]⟩
  let path : Path := .whole ['/', 'x', '/', 'y'] [.separator 0 '/', .segment ⟨1, ['x'], ['x'], []⟩,
    .separator 2 '/', .segment ⟨3, ['y'], ['y'], []⟩] .http
  let r : StartMatch := ⟨path.cut 0 2, path.cut 2 4, ⟨[(['a'], ['x'])], []⟩⟩
  have hp : Pattern.parse .default ['/', '{', 'a', '}'] = .ok p := rfl
  have hb : Pattern.parse .default ['/', '{', 'b', '}'] = .ok b := rfl
  have hr : p.matchStart? path = some r := rfl
  have hrest : b.match? r.remaining = some ⟨[(['b'], ['y'])], []⟩ := rfl
  obtain ⟨a, ha, hcombine⟩ := combine_nested rfl hp (List.cons_ne_nil _ _) (by decide) (by decide)
    (.inr rfl) hb rfl
  have hcount : a.captureCount = 1 := by
    obtain rfl := Except.ok.inj (ha.symm.trans rfl)
    rfl
  obtain ⟨hok, hmatch⟩ := hcombine fun hguard => by simp [hcount] at hguard
  have hnames : List.Disjoint [['a']] [['b']] := by simp
  obtain ⟨c, hc⟩ := hok.mpr hnames
  obtain ⟨-, hunion⟩ := hmatch c hc path
  exact ⟨a, b, c, path, ha, hb, hc, rfl, (hunion r _ hr hrest).2⟩

end PathRouting
