import Mathlib.Data.List.Chain
import PathRouting.Path.Basic
import PathRouting.Proofs.Fallible
import PathRouting.Proofs.Tiling

/-!
# Cutting a text loses nothing

The text of a path is cut at the separator first, and what lies between two separators is read as a
segment afterwards.  So the elements hold all of the text, in their order.

## Main definitions

* `Segment.matchPart` — the part of a segment that its value is made from.
* `Run.ReadAs` — the element that a stretch of text is read as.
* `Path.Split` — what the elements of a path have to do with its text.

## Main results

* `runs_cons_of_ne`, `runs_append` — how characters become part of a run.
* `readRuns_ok` — what the elements are read from, and where they stand.
* `split_of_parse` — the elements of a path and its text.
-/

namespace PathRouting

open Text

/-! ### Runs -/

section Runs

variable {separator c : Char} {s : List Char}

/-- A character that is no separator extends the run that the rest starts with, or is one of its
own. -/
theorem runs_cons_of_ne (h : c ≠ separator) (s : List Char) :
    (∃ t rest, runs separator s = .text t :: rest ∧
        runs separator (c :: s) = .text (c :: t) :: rest) ∨
      ((∀ r ∈ (runs separator s).head?, r = .separator) ∧
        runs separator (c :: s) = .text [c] :: runs separator s) := by
  rw [runs, if_neg h]
  rcases runs separator s with _ | ⟨_ | t, rest⟩
  · exact .inr ⟨by simp, rfl⟩
  · exact .inr ⟨by simp, rfl⟩
  · exact .inl ⟨t, rest, rfl, rfl⟩

theorem runs_separator (separator : Char) (s : List Char) :
    runs separator (separator :: s) = .separator :: runs separator s := by
  rw [runs, if_pos rfl]

/-- A text without the separator is a run, if a separator or nothing comes after it. -/
theorem runs_append {e t : List Char} (he : e ≠ []) (hsep : separator ∉ e)
    (ht : ∀ r ∈ (runs separator t).head?, r = .separator) :
    runs separator (e ++ t) = .text e :: runs separator t := by
  induction e with
  | nil => exact absurd rfl he
  | cons c e ih =>
    obtain ⟨hc, hsep⟩ := not_or.mp (mt List.mem_cons.mpr hsep)
    rcases e with _ | ⟨d, e⟩
    · rcases runs_cons_of_ne (Ne.symm hc) t with ⟨u, rest, hruns, -⟩ | ⟨-, hcons⟩
      · simp [hruns] at ht
      · exact hcons
    · have hrest := ih (List.cons_ne_nil d e) hsep
      rcases runs_cons_of_ne (Ne.symm hc) (d :: e ++ t) with ⟨u, rest, hruns, hcons⟩ | ⟨hhead, -⟩
      · obtain ⟨rfl, rfl⟩ : u = d :: e ∧ rest = runs separator t := by
          simpa using hruns.symm.trans hrest
        exact hcons
      · have htext := hhead (.text (d :: e)) (by rw [hrest]; rfl)
        simp at htext

/-- A run of text is not empty and has no separator. -/
theorem text_of_mem_runs {t : List Char} (h : .text t ∈ runs separator s) :
    t ≠ [] ∧ separator ∉ t := by
  induction s generalizing t with
  | nil => simp [runs] at h
  | cons c s ih =>
    by_cases hc : c = separator
    · subst hc
      rw [runs_separator, List.mem_cons] at h
      exact ih (h.resolve_left (by simp))
    · rcases runs_cons_of_ne hc s with ⟨u, rest, hs, hcons⟩ | ⟨-, hcons⟩
      · rw [hcons, List.mem_cons] at h
        rw [hs] at ih
        rcases h with heq | h
        · obtain rfl := Run.text.inj heq
          obtain ⟨-, hu⟩ := ih List.mem_cons_self
          exact ⟨List.cons_ne_nil c u, by simp [hu, Ne.symm hc]⟩
        · exact ih (List.mem_cons_of_mem _ h)
      · rw [hcons, List.mem_cons] at h
        rcases h with heq | h
        · obtain rfl := Run.text.inj heq
          exact ⟨List.cons_ne_nil c [], by simp [Ne.symm hc]⟩
        · exact ih h

/-- Of two runs side by side one is a separator. -/
theorem isChain_runs (separator : Char) (s : List Char) :
    (runs separator s).IsChain fun r r' => r = .separator ∨ r' = .separator := by
  induction s with
  | nil => exact .nil
  | cons c s ih =>
    by_cases hc : c = separator
    · subst hc
      rw [runs_separator]
      exact ih.cons fun _ _ => .inl rfl
    · rcases runs_cons_of_ne hc s with ⟨t, rest, hs, hcons⟩ | ⟨hsep, hcons⟩
      · -- the run that was first keeps its neighbour
        rw [hcons]
        rw [hs] at ih
        refine ih.tail.cons fun r hr => .inr ?_
        exact (ih.rel_head? hr).resolve_left (by simp)
      · rw [hcons]
        exact ih.cons fun r hr => .inr (hsep r hr)

end Runs

/-! ### Segments -/

namespace Segment

/-- The part of a segment text that the value is made from: it ends before the first `;` where
matrix variables are read. -/
def matchPart (options : PathOptions) (raw : List Char) : List Char :=
  if options.parseMatrixVariables then raw.takeWhile (· ≠ ';') else raw

/-- The part of a segment text that holds matrix variables. -/
def matrixPart (options : PathOptions) (raw : List Char) : List Char :=
  if options.parseMatrixVariables then raw.dropWhile (· ≠ ';') else []

/-- The value of a segment with the given text: its part to match, escapes replaced on demand. -/
def valueOf (options : PathOptions) (offset : Nat) (raw : List Char) :
    Except Percent.Fault (List Char) :=
  if options.decodeSegments then Percent.decode (matchPart options raw) offset
  else .ok (matchPart options raw)

variable {options : PathOptions} {offset : Nat} {raw : List Char}

/-- A segment is read in two parts, the matrix variables first. -/
theorem read_eq (options : PathOptions) (offset : Nat) (raw : List Char) : read options offset raw
      = (if matrixPart options raw = [] then .ok []
          else Matrix.read (matrixPart options raw) (offset + byteLength (matchPart options raw)))
        >>= fun matrix => (valueOf options offset raw).map (⟨offset, raw, ·, matrix⟩) := by
  -- both ways the value comes last
  have hvalue : ∀ (part : List Char) (matrix : Matrix),
      (if options.decodeSegments then Percent.decode part offset >>= fun value =>
          pure (Segment.mk offset raw value matrix)
        else pure part >>= fun value => pure (Segment.mk offset raw value matrix))
        = (if options.decodeSegments then Percent.decode part offset else .ok part).map
            (⟨offset, raw, ·, matrix⟩) := by
    intro part matrix
    split
    · cases Percent.decode part offset <;> rfl
    · rfl
  unfold read valueOf matchPart matrixPart
  cases options.parseMatrixVariables with
  | false => exact hvalue raw []
  | true =>
    rcases hcut : cutAt ';' raw with _ | ⟨before, after⟩
    · obtain ⟨htake, hdrop⟩ := span_of_notMem (cutAt_eq_none.mp hcut)
      simp only [htake, hdrop, if_true]
      exact hvalue raw []
    · obtain ⟨htake, hdrop⟩ := span_of_cutAt hcut
      simp only [htake, hdrop, if_true, reduceCtorEq, if_false]
      rcases Matrix.read (';' :: after) (offset + byteLength before) with e | matrix
      · rfl
      · exact hvalue before matrix

/-- A segment that is read keeps its place and its text, and has the value of its text. -/
theorem read_ok {s : Segment} (h : read options offset raw = .ok s) :
    s.offset = offset ∧ s.raw = raw ∧ valueOf options offset raw = .ok s.value := by
  rw [read_eq] at h
  obtain ⟨matrix, -, h⟩ := bind_eq_ok.mp h
  obtain ⟨value, hvalue, rfl⟩ := map_eq_ok.mp h
  exact ⟨rfl, rfl, hvalue⟩

end Segment

/-! ### Elements -/

section Elements

variable {options : PathOptions} {offset : Nat} {text : List Char} {p : Path}

/-- Whether a run is read as an element. -/
inductive Run.ReadAs (options : PathOptions) : Run → PathElement → Prop
  /-- A separator is read as the separator of the options. -/
  | separator (offset : Nat) : ReadAs options .separator (.separator offset options.separator)
  /-- A text is read as a segment with that text. -/
  | text (s : Segment) (value : Segment.valueOf options s.offset s.raw = .ok s.value) :
      ReadAs options (.text s.raw) (.segment s)

/-- An element has the text of the run it is read from. -/
theorem Run.ReadAs.raw_eq {r : Run} {e : PathElement} (h : r.ReadAs options e) :
    r.raw options.separator = e.raw := by
  cases h <;> rfl

/-- **Runs are read one by one**, and the elements stand where the runs do. -/
theorem readRuns_ok {rs : List Run} {es : List PathElement}
    (h : PathElement.readRuns options offset rs = .ok es) :
    List.Forall₂ (Run.ReadAs options) rs es ∧
      Tiles PathElement.offset (fun e => byteLength e.raw) offset es
        (offset + byteLength (rs.flatMap (Run.raw options.separator))) := by
  induction rs generalizing offset es with
  | nil =>
    obtain rfl := Except.ok.inj h
    exact ⟨.nil, rfl⟩
  | cons r rs ih =>
    cases r with
    | separator =>
      obtain ⟨rest, hrest, h⟩ := bind_eq_ok.mp h
      obtain rfl := pure_eq_ok.mp h
      obtain ⟨hread, htiles⟩ := ih hrest
      refine ⟨.cons (.separator offset) hread, rfl, ?_⟩
      simpa [Run.raw, Nat.add_assoc] using htiles
    | text raw =>
      obtain ⟨s, hs, h⟩ := bind_eq_ok.mp h
      obtain ⟨rest, hrest, h⟩ := bind_eq_ok.mp h
      obtain rfl := pure_eq_ok.mp h
      obtain ⟨rfl, rfl, hvalue⟩ := Segment.read_ok hs
      obtain ⟨hread, htiles⟩ := ih hrest
      refine ⟨.cons (.text s hvalue) hread, rfl, ?_⟩
      simpa [Run.raw, Nat.add_assoc] using htiles

/-- Every segment is read from its text at its place. -/
theorem read_of_mem_readRuns {rs : List Run} {es : List PathElement} {s : Segment}
    (h : PathElement.readRuns options offset rs = .ok es) (hs : .segment s ∈ es) :
    Segment.read options s.offset s.raw = .ok s := by
  induction rs generalizing offset es with
  | nil =>
    obtain rfl := Except.ok.inj h
    simp at hs
  | cons r rs ih =>
    cases r with
    | separator =>
      obtain ⟨rest, hrest, h⟩ := bind_eq_ok.mp h
      obtain rfl := pure_eq_ok.mp h
      exact ih hrest (by simpa using hs)
    | text raw =>
      obtain ⟨first, hfirst, h⟩ := bind_eq_ok.mp h
      obtain ⟨rest, hrest, h⟩ := bind_eq_ok.mp h
      obtain rfl := pure_eq_ok.mp h
      rcases List.mem_cons.mp hs with heq | hs
      · obtain rfl := PathElement.segment.inj heq
        obtain ⟨hoffset, hraw, -⟩ := Segment.read_ok hfirst
        rw [hoffset, hraw, hfirst]
      · exact ih hrest hs

/-- The path that a text holds looks at all of the text. -/
theorem Path.text_of_parse (h : Path.parse text options = .ok p) : p.text = text := by
  obtain ⟨es, -, rfl⟩ := map_eq_ok.mp h
  exact Path.text_whole text es options

/-- The elements of a path are what the runs of its text are read as. -/
theorem parse_path_ok (h : Path.parse text options = .ok p) : p.options = options ∧
    List.Forall₂ (Run.ReadAs options) (runs options.separator text) p.elements ∧
      Tiles PathElement.offset (fun e => byteLength e.raw) 0 p.elements (byteLength text) := by
  obtain ⟨es, hes, rfl⟩ := map_eq_ok.mp h
  obtain ⟨hread, htiles⟩ := readRuns_ok hes
  rw [flatMap_raw_runs, Nat.zero_add] at htiles
  rw [Path.elements_whole]
  exact ⟨rfl, hread, htiles⟩

/-- Put together, the elements are the text that the runs are. -/
theorem flatMap_raw_of_readAs {rs : List Run} {es : List PathElement}
    (h : List.Forall₂ (Run.ReadAs options) rs es) :
    es.flatMap PathElement.raw = rs.flatMap (Run.raw options.separator) := by
  induction h with
  | nil => rfl
  | cons hr _ ih => rw [List.flatMap_cons, List.flatMap_cons, ih, hr.raw_eq]

/-- Separators stand where the runs have them. -/
theorem map_isSeparator_of_readAs {rs : List Run} {es : List PathElement}
    (h : List.Forall₂ (Run.ReadAs options) rs es) :
    es.map PathElement.isSeparator = rs.map fun r => decide (r = .separator) := by
  induction h with
  | nil => rfl
  | cons hr _ ih =>
    rw [List.map_cons, List.map_cons, ih]
    cases hr <;> rfl

/-- An element is read from one of the runs. -/
theorem exists_run_of_mem {rs : List Run} {es : List PathElement} {e : PathElement}
    (h : List.Forall₂ (Run.ReadAs options) rs es) (he : e ∈ es) :
    ∃ r ∈ rs, r.ReadAs options e := by
  induction h with
  | nil => simp at he
  | cons hr _ ih =>
    rcases List.mem_cons.mp he with rfl | he
    · exact ⟨_, List.mem_cons_self, hr⟩
    · obtain ⟨r, hmem, hr⟩ := ih he
      exact ⟨r, List.mem_cons_of_mem _ hmem, hr⟩

/-- What the elements of a path have to do with its text. -/
structure Path.Split (options : PathOptions) (text : List Char) (es : List PathElement) : Prop where
  /-- Put together, the elements are the text. -/
  raw : es.flatMap PathElement.raw = text
  /-- Every separator is the one of the options. -/
  separator : ∀ offset c, .separator offset c ∈ es → c = options.separator
  /-- No segment is empty or has the separator in it. -/
  segment : ∀ s, .segment s ∈ es → s.raw ≠ [] ∧ options.separator ∉ s.raw
  /-- No two segments stand side by side. -/
  apart : es.IsChain fun e e' => e.isSeparator = true ∨ e'.isSeparator = true
  /-- The bytes of the elements follow one another from the first byte of the text to the last. -/
  bytes : Tiles PathElement.offset (fun e => byteLength e.raw) 0 es (byteLength text)
  /-- The value of a segment is its part to match, decoded just when the options say so. -/
  value : ∀ s, .segment s ∈ es → Segment.valueOf options s.offset s.raw = .ok s.value

/-- The elements of a path are its text cut at every separator. -/
theorem Path.isSplit_of_parse (h : Path.parse text options = .ok p) :
    Path.Split options text p.elements := by
  obtain ⟨-, hread, htiles⟩ := parse_path_ok h
  have hraw := flatMap_raw_of_readAs hread
  rw [flatMap_raw_runs] at hraw
  have hseparator : ∀ offset c, .separator offset c ∈ p.elements → c = options.separator := by
    intro offset c hmem
    obtain ⟨r, -, hr⟩ := exists_run_of_mem hread hmem
    cases hr
    rfl
  have hsegment : ∀ s, .segment s ∈ p.elements → .text s.raw ∈ runs options.separator text ∧
      Segment.valueOf options s.offset s.raw = .ok s.value := by
    intro s hmem
    obtain ⟨r, hr, hread⟩ := exists_run_of_mem hread hmem
    cases hread with
    | text _ hvalue => exact ⟨hr, hvalue⟩
  refine ⟨hraw, hseparator, fun s hs => text_of_mem_runs (hsegment s hs).1, ?_, htiles,
    fun s hs => (hsegment s hs).2⟩
  -- whether two elements may be neighbours is seen from which of them are separators
  have hflags : (p.elements.map PathElement.isSeparator).IsChain
      fun b b' => b = true ∨ b' = true := by
    rw [map_isSeparator_of_readAs hread, List.isChain_map]
    simpa using isChain_runs options.separator text
  exact (List.isChain_map PathElement.isSeparator).mp hflags

/-- **Cutting a text loses nothing.**  The path that a text holds has that text, and its elements
are the text cut at every separator. -/
theorem split_of_parse (h : Path.parse text options = .ok p) :
    p.text = text ∧ p.options = options ∧ Path.Split options text p.elements := by
  obtain ⟨hoptions, -⟩ := parse_path_ok h
  exact ⟨Path.text_of_parse h, hoptions, Path.isSplit_of_parse h⟩

/-- A path with an escape, a matrix variable and two separators side by side. -/
theorem split_of_parse_escape :
    let text := ['a', '%', '2', 'F', ';', 'k', '/', '/', 'b']
    ∃ p, Path.parse text .http = .ok p ∧ p.elements.map PathElement.value =
        [['a', '/'], ['/'], ['/'], ['b']] ∧ Path.Split .http text p.elements := by
  intro text
  let p : Path := .whole text [.segment ⟨0, ['a', '%', '2', 'F', ';', 'k'], ['a', '/'],
    [(['k'], [[]])]⟩, .separator 6 '/', .separator 7 '/', .segment ⟨8, ['b'], ['b'], []⟩] .http
  have h : Path.parse text .http = .ok p := rfl
  exact ⟨p, h, rfl, (split_of_parse h).2.2⟩

end Elements

end PathRouting
