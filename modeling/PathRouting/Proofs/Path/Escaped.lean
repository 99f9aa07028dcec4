import Mathlib.Data.List.TakeWhile
import PathRouting.Proofs.Path.Views
import PathRouting.Proofs.Percent

/-!
# A character and its escapes

A path is cut at its separators and at semicolons before escapes are replaced, so writing a character
of a value as its escapes changes the text of the path but nothing that patterns see of it.

## Main definitions

* `Percent.EndsInEscape` — whether a text is cut in the middle of an escape.
* `Path.EscapesOne` — the text of a path with one of its characters escaped.

## Main results

* `Percent.toOption_octets_append` — the bytes of a text that is not cut in an escape.
* `Percent.toOption_decode_escaped` — a character and its escapes stand for the same.
* `Segment.alike_escaped` — so they do in a segment.
* `exists_parse_of_alike` — a path with one of its segments replaced by one that is seen the same.
* `exists_parse_of_escapesOne` — a path with one of its characters escaped.
-/

namespace PathRouting

open Text

/-! ### Texts -/

namespace Percent

variable {s t u v e : List Char} {c : Char}

/-- Whether the next character of a text would be one of the two digits of an escape. -/
def EndsInEscape (s : List Char) : Prop := '%' ∈ s.drop (s.length - 2)

instance (s : List Char) : Decidable (EndsInEscape s) :=
  inferInstanceAs (Decidable ('%' ∈ s.drop (s.length - 2)))

theorem EndsInEscape.of_suffix (hsuffix : t <:+ s) (h : EndsInEscape t) : EndsInEscape s := by
  refine (List.suffix_of_suffix_length_le ((List.drop_suffix _ t).trans hsuffix)
    (List.drop_suffix _ s) ?_).subset h
  have hlength := hsuffix.length_le
  rw [List.length_drop, List.length_drop]
  omega

/-- **The bytes of a text are those of its parts**, if it is not cut in an escape. -/
theorem toOption_octets_append (h : ¬EndsInEscape s) (t : List Char) (position : Nat) :
    (octets (s ++ t) position).toOption
      = (octets s position).toOption.bind fun bytes => (octets t 0).toOption.map (bytes ++ ·) := by
  -- bytes at the front stay at the front
  have hput : ∀ (bytes : List UInt8) (found : Option (List UInt8)),
      (found.bind fun front => (octets t 0).toOption.map (front ++ ·)).map (bytes ++ ·)
        = (found.map (bytes ++ ·)).bind fun front => (octets t 0).toOption.map (front ++ ·) := by
    intro bytes found
    cases found with
    | none => rfl
    | some front => simp [Function.comp_def]
  fun_induction octets s position with
  | case1 position =>
    rw [List.nil_append, toOption_octets t position 0]
    simp
  | case2 position high low rest b hb ih =>
    have hrest := ih (mt (EndsInEscape.of_suffix ⟨['%', high, low], rfl⟩) h)
    simp only [List.cons_append, octets, if_true, hb, toOption_map, hrest]
    exact hput [b] _
  | case3 position high low rest hb => simp [octets, hb]
  | case4 s position hshort =>
    -- the `%` is one of the last two characters
    refine absurd ?_ h
    rcases s with _ | ⟨high, _ | ⟨low, rest⟩⟩
    · simp [EndsInEscape]
    · simp [EndsInEscape]
    · exact absurd rfl (hshort high low rest)
  | case5 c s position hc ih =>
    have hrest := ih (mt (EndsInEscape.of_suffix (List.suffix_cons c s)) h)
    rw [List.cons_append, octets_cons hc, toOption_map, toOption_map, hrest]
    exact hput (String.utf8EncodeChar c) _

/-- The bytes of escapes come before those of the text after them. -/
theorem toOption_octets_escapes {bytes : List UInt8} (h : Escapes bytes e) (t : List Char)
    (position : Nat) :
    (octets (e ++ t) position).toOption = (octets t 0).toOption.map (bytes ++ ·) := by
  induction h generalizing position with
  | nil =>
    rw [List.nil_append, toOption_octets t position 0]
    simp
  | cons byte _ ih =>
    simp only [List.cons_append, octets, if_true, byte, toOption_map, ih, Option.map_map]
    rfl

/-- **A character and its escapes stand for the same**, unless they are digits of an escape. -/
theorem toOption_decode_escaped (hu : ¬EndsInEscape u) (hc : c ≠ '%')
    (he : Escapes (String.utf8EncodeChar c) e) (v : List Char) (position position' : Nat) :
    (decode (u ++ c :: v) position).toOption = (decode (u ++ (e ++ v)) position').toOption := by
  rw [toOption_decode_eq, toOption_decode_eq, toOption_octets_append hu,
    toOption_octets_append hu, toOption_octets_escapes he, octets_cons hc, toOption_map,
    toOption_octets v _ 0, toOption_octets u position position']

end Percent

/-! ### Segments -/

namespace Segment

variable {options : PathOptions} {u v w e : List Char} {c : Char}

/-- A text without semicolons belongs to the part to match. -/
theorem parts_append (hw : options.parseMatrixVariables = true → ';' ∉ w) (v : List Char) :
    matchPart options (w ++ v) = w ++ matchPart options v ∧
      matrixPart options (w ++ v) = matrixPart options v := by
  unfold matchPart matrixPart
  cases hmatrix : options.parseMatrixVariables with
  | false => exact ⟨rfl, rfl⟩
  | true =>
    have hpos : ∀ d ∈ w, decide (d ≠ ';') = true := by
      intro d hd
      simpa using fun heq : d = ';' => hw hmatrix (heq ▸ hd)
    exact ⟨List.takeWhile_append_of_pos hpos, List.dropWhile_append_of_pos hpos⟩

/-- No semicolon stands before the end of the part to match. -/
theorem semicolon_notMem (h : u.length < (matchPart options (u ++ c :: v)).length)
    (hmatrix : options.parseMatrixVariables = true) : ';' ∉ u ++ [c] := by
  rw [matchPart, if_pos hmatrix] at h
  have hlength : (u ++ [c]).length ≤ ((u ++ c :: v).takeWhile (· ≠ ';')).length := by
    rw [List.length_append]
    exact h
  have hstart : u ++ [c] <+: (u ++ c :: v).takeWhile (· ≠ ';') :=
    List.prefix_of_prefix_length_le ⟨v, by simp⟩ (List.takeWhile_prefix _) hlength
  intro hmem
  simpa using List.mem_takeWhile_imp (hstart.subset hmem)

/-- **A character of the part to match may be escaped.** -/
theorem alike_escaped (hdecode : options.decodeSegments = true)
    (hmatch : u.length < (matchPart options (u ++ c :: v)).length) (hc : c ≠ '%')
    (hu : ¬Percent.EndsInEscape u) (he : Percent.Escapes (String.utf8EncodeChar c) e) :
    Run.Alike options PathElement.seen (.text (u ++ c :: v)) (.text (u ++ (e ++ v))) := by
  have hplain : options.parseMatrixVariables = true → ';' ∉ u ++ [c] := semicolon_notMem hmatch
  have hescaped : options.parseMatrixVariables = true → ';' ∉ u ++ e := by
    intro hmatrix hmem
    rcases List.mem_append.mp hmem with hmem | hmem
    · exact hplain hmatrix (List.mem_append_left _ hmem)
    · rcases Percent.mem_of_escapes he hmem with heq | hdigit
      · exact absurd heq (by decide)
      · exact absurd hdigit (by decide)
  obtain ⟨hpart, hmatrix⟩ := parts_append hplain v
  obtain ⟨hpart', hmatrix'⟩ := parts_append hescaped v
  rw [List.append_assoc] at hpart hmatrix hpart' hmatrix'
  have hvalue : (valueOf options 0 (u ++ c :: v)).toOption
      = (valueOf options 0 (u ++ (e ++ v))).toOption := by
    rw [valueOf, valueOf, if_pos hdecode, if_pos hdecode, hpart', List.append_assoc]
    rw [show u ++ c :: v = u ++ ([c] ++ v) from rfl, hpart, List.append_assoc]
    exact Percent.toOption_decode_escaped hu hc he _ _ _
  exact Run.alike_text (fun _ _ _ _ => rfl) (hmatrix.trans hmatrix'.symm) hvalue

end Segment

/-! ### Paths -/

section Paths

variable {options : PathOptions} {text raw' : List Char} {p : Path} {s : Segment}
  {before after : List PathElement}

/-- A run of text may be replaced by another one. -/
theorem runs_replace {separator : Char} {rs rs' : List Run} {raw : List Char}
    (h : runs separator text = rs ++ .text raw :: rs') (hne : raw' ≠ [])
    (hsep : separator ∉ raw') :
    runs separator ((rs ++ .text raw' :: rs').flatMap (Run.raw separator))
      = rs ++ .text raw' :: rs' := by
  refine runs_flatMap_raw (fun t ht => ?_) ?_
  · have hold : ∀ t, .text t ∈ rs ++ .text raw :: rs' → t ≠ [] ∧ separator ∉ t := fun t ht =>
      text_of_mem_runs (h ▸ ht)
    rcases List.mem_append.mp ht with ht | ht
    · exact hold t (List.mem_append_left _ ht)
    rcases List.mem_cons.mp ht with heq | ht
    · obtain rfl := Run.text.inj heq
      exact ⟨hne, hsep⟩
    · exact hold t (List.mem_append_right _ (List.mem_cons_of_mem _ ht))
  · -- separators stand where they stood
    have hchain := h ▸ isChain_runs separator text
    have hflags : ∀ rs : List Run, (rs.IsChain fun r r' => r = .separator ∨ r' = .separator) ↔
        (rs.map fun r => decide (r = .separator)).IsChain fun b b' => b = true ∨ b' = true :=
      fun rs => by simp [List.isChain_map]
    rw [hflags] at hchain ⊢
    simpa using hchain

/-- **A path keeps what is seen of it** when one of its segments is written in a way that is seen
the same. -/
theorem exists_parse_of_alike (h : Path.parse text options = .ok p)
    (helements : p.elements = before ++ .segment s :: after) (hne : raw' ≠ [])
    (hsep : options.separator ∉ raw')
    (halike : (Run.text s.raw).Alike options PathElement.seen (.text raw')) : ∃ p',
      Path.parse (before.flatMap PathElement.raw ++ raw' ++ after.flatMap PathElement.raw) options
        = .ok p' ∧ p.elements.map PathElement.seen = p'.elements.map PathElement.seen := by
  obtain ⟨es, hes, rfl⟩ := map_eq_ok.mp h
  rw [Path.elements_whole] at helements ⊢
  subst helements
  obtain ⟨hread, -⟩ := readRuns_ok hes
  -- the segment was read from a run between those of the elements before and after it
  have hbefore := List.forall₂_take_append _ _ _ hread
  obtain ⟨r, rs', hr, hafter, hdrop⟩ :=
    List.forall₂_cons_right_iff.mp (List.forall₂_drop_append _ _ _ hread)
  have hruns := List.take_append_drop before.length (runs options.separator text)
  rw [hdrop] at hruns
  generalize (runs options.separator text).take before.length = rs at hbefore hruns
  cases hr
  have hsame : ∀ rs : List Run, List.Forall₂ (Run.Alike options PathElement.seen) rs rs :=
    fun rs => List.forall₂_same.mpr fun r _ => r.alike_seen options
  have hall : List.Forall₂ (Run.Alike options PathElement.seen) (rs ++ .text s.raw :: rs')
      (rs ++ .text raw' :: rs') := List.rel_append (hsame rs) (.cons halike (hsame rs'))
  have hseen := PathElement.toOption_readRuns_of_alike hall 0 0
  rw [hruns, ← PathElement.readAll, hes, ← runs_replace hruns.symm hne hsep,
    ← PathElement.readAll, List.flatMap_append, List.flatMap_cons,
    ← flatMap_raw_of_readAs hbefore, ← flatMap_raw_of_readAs hafter] at hseen
  obtain ⟨es, hes', hmap⟩ := Option.map_eq_some_iff.mp hseen.symm
  refine ⟨.whole _ es options, map_eq_ok.mpr ⟨es, ?_, rfl⟩, ?_⟩
  · rw [List.append_assoc]
    exact toOption_eq_some.mp hes'
  · rw [Path.elements_whole, hmap]

/-- Whether a text is that of a path with one of its characters written as the escapes of its bytes.
The character stands in the part to match of a segment, and is neither a `%` nor a digit of an
escape. -/
inductive Path.EscapesOne (p : Path) : List Char → Prop
  /-- The character `c` after `u` in the segment `s`. -/
  | intro {before after : List PathElement} {s : Segment} {u v e rest : List Char} {c : Char}
      (elements : p.elements = before ++ .segment s :: after) (raw : s.raw = u ++ c :: v)
      (inside : u.length < (Segment.matchPart p.options s.raw).length) (noPercent : c ≠ '%')
      (noDigit : ¬Percent.EndsInEscape u)
      (text : p.text = before.flatMap PathElement.raw ++ u ++ c :: rest)
      (escapes : Percent.Escapes (String.utf8EncodeChar c) e) :
      EscapesOne p (before.flatMap PathElement.raw ++ u ++ (e ++ rest))

/-- **Escaping a character keeps what is seen of a path**, if the separator is neither `%` nor a
digit. -/
theorem exists_parse_of_escapesOne (hpercent : options.separator ≠ '%')
    (hdigit : isHexDigit options.separator = false) (hdecode : options.decodeSegments = true)
    (h : Path.parse text options = .ok p) (hescaped : p.EscapesOne raw') : ∃ p',
      Path.parse raw' options = .ok p' ∧
        p.elements.map PathElement.seen = p'.elements.map PathElement.seen := by
  have htext := Path.text_of_parse h
  have hsplit := Path.isSplit_of_parse h
  obtain ⟨rfl, -⟩ := parse_path_ok h
  cases hescaped with
  | @intro before after s u v e rest c helements hraw hinside hc hu hrest he =>
    -- what comes after the character is the rest of the segment and the elements after it
    obtain rfl : rest = v ++ after.flatMap PathElement.raw := by
      have hflat := hsplit.raw
      rw [← htext, hrest, helements, List.flatMap_append, List.flatMap_cons,
        PathElement.raw_segment, hraw] at hflat
      simpa using hflat.symm
    have halike := Segment.alike_escaped hdecode (hraw ▸ hinside) hc hu he
    have hne : u ++ (e ++ v) ≠ [] := List.append_ne_nil_of_right_ne_nil _
      (List.append_ne_nil_of_left_ne_nil (Percent.ne_nil_of_escapes he) _)
    have hsep : p.options.separator ∉ u ++ (e ++ v) := by
      obtain ⟨-, hsegment⟩ := hsplit.segment s (by simp [helements])
      simp only [hraw, List.mem_append, List.mem_cons, not_or] at hsegment ⊢
      refine ⟨hsegment.1, fun hmem => ?_, hsegment.2.2⟩
      rcases Percent.mem_of_escapes he hmem with heq | hdigit'
      · exact hpercent heq
      · simp [hdigit] at hdigit'
    have hparse := exists_parse_of_alike h helements hne hsep (hraw ▸ halike)
    simpa only [List.append_assoc] using hparse

end Paths

end PathRouting
