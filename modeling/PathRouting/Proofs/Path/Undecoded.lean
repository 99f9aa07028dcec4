import PathRouting.Proofs.Path.Fragments
import PathRouting.Proofs.Path.Place

/-!
# Paths whose segments are not decoded

Whether segments are decoded and whether they have matrix variables are two options of their own.
Where segments are not decoded their values are what stands in the path, but names and values of
matrix variables are decoded all the same, and may fail to be.

## Main definitions

* `Path.Undecoded` — what is read from a text whose segments are not decoded.

## Main results

* `Matrix.readWith_of_plain` — matrix variables without `%` are read as they stand.
* `parse_undecoded` — what is read where segments are not decoded.
-/

namespace PathRouting

open Text

variable {options : PathOptions} {text before raw : List Char} {f : Fragment}

/-! ### Fragments without escapes -/

namespace Percent

theorem decode?_of_plain {piece : List Char} (h : '%' ∉ piece) : decode? piece = some piece :=
  decode?_eq_some.mpr (decode_eq_self h)

/-- A piece stands for itself just when it has no `%`. -/
theorem decode?_eq_self_iff {piece : List Char} : decode? piece = some piece ↔ '%' ∉ piece := by
  constructor
  · intro h
    exact decode_eq_self_iff.mp (decode?_eq_some.mp h 0)
  · exact decode?_of_plain

end Percent

namespace Matrix

/-- Every value in a list is one of its fragments, unless it is empty. -/
theorem exists_mem_valueFragments {values : List (List Char)} {value : List Char}
    (h : value ∈ values) (hne : value ≠ []) (skipped : List Char) :
    ∃ f ∈ valueFragments before skipped values, f.piece = value := by
  induction values generalizing skipped with
  | nil => simp at h
  | cons first rest ih =>
    rw [valueFragments]
    rcases List.mem_cons.mp h with rfl | h
    · rw [if_neg hne]
      exact ⟨_, List.mem_cons_self, rfl⟩
    · obtain ⟨f, hf, hpiece⟩ := ih h (skipped ++ first ++ [','])
      split
      · exact ⟨f, hf, hpiece⟩
      · exact ⟨f, List.mem_cons_of_mem _ hf, hpiece⟩

/-- Values without `%` stand for themselves. -/
theorem mapM_decode?_of_plain {values : List (List Char)} (h : ∀ value ∈ values, '%' ∉ value) :
    values.mapM Percent.decode? = values.mapM some := by
  induction values with
  | nil => rfl
  | cons value rest ih =>
    rw [List.mapM_cons, List.mapM_cons, Percent.decode?_of_plain (h value List.mem_cons_self),
      ih fun v hv => h v (List.mem_cons_of_mem _ hv)]

/-- A part without `%` in its name and its values makes the entry that stands there. -/
theorem entryWith_of_plain {part : List Char} (h : ∀ f ∈ partFragments before part, '%' ∉ f.piece) :
    entryWith Percent.decode? part = entryWith some part := by
  unfold partFragments at h
  unfold entryWith
  split at h
  · next hnil =>
    subst hnil
    show Option.map _ (Percent.decode? []) = _
    rw [Percent.decode?_of_plain (by simp)]
    rfl
  · rcases hcut : cutAt '=' part with _ | ⟨name, list⟩
    · rw [hcut] at h
      have hpart := h _ List.mem_cons_self
      simp only [Percent.decode?_of_plain hpart]
    · rw [hcut] at h
      obtain ⟨hname, hrest⟩ := List.forall_mem_cons.mp h
      have hdecode := Percent.decode?_of_plain hname
      have hblank : isBlankName name = isBlank name := by
        rw [isBlankName, hdecode]
        rfl
      simp only [hdecode, Option.bind_some]
      split
      · rfl
      · next hnot =>
        rw [hblank, if_neg hnot] at hrest
        rw [mapM_decode?_of_plain]
        intro value hvalue
        obtain ⟨hmem, hne⟩ := List.mem_filter.mp hvalue
        obtain ⟨f, hf, rfl⟩ := exists_mem_valueFragments hmem (by simpa using hne) []
        exact hrest f hf

/-- Parts without `%` make the entries that stand there. -/
theorem mapM_entryWith_of_plain {parts : List (List Char)}
    (h : ∀ f ∈ fragments before parts, '%' ∉ f.piece) :
    parts.mapM (entryWith Percent.decode?) = parts.mapM (entryWith some) := by
  induction parts generalizing before with
  | nil => rfl
  | cons part rest ih =>
    obtain ⟨hpart, hrest⟩ := List.forall_mem_append.mp h
    rw [List.mapM_cons, List.mapM_cons, entryWith_of_plain hpart, ih hrest]

/-- **Matrix variables without `%` are read as they stand.** -/
theorem readWith_of_plain
    (h : ∀ f ∈ fragments before (pieces ';' text), '%' ∉ f.piece) :
    readWith Percent.decode? text = readWith some text := by
  rw [readWith, readWith, mapM_entryWith_of_plain h]

end Matrix

/-! ### Fragments of segments -/

/-- The fragments of a segment are fragments of the path. -/
theorem Run.subset_fragments {rs : List Run} (h : .text raw ∈ rs) (before : List Char) :
    ∃ before', Segment.fragments options before' raw ⊆ Run.fragments options before rs := by
  induction rs generalizing before with
  | nil => simp at h
  | cons r rs ih =>
    cases r with
    | separator =>
      exact ih (by simpa using h) _
    | text raw' =>
      rcases List.mem_cons.mp h with heq | h
      · obtain rfl := Run.text.inj heq
        exact ⟨before, List.subset_append_left _ _⟩
      · obtain ⟨before', hsubset⟩ := ih h (before ++ raw')
        exact ⟨before', List.Subset.trans hsubset (List.subset_append_right _ _)⟩

/-- The names and values of the matrix variables of a segment are fragments of the path. -/
theorem exists_fragments_subset {p : Path} {s : Segment} (h : Path.parse text options = .ok p)
    (hs : .segment s ∈ p.elements) :
    ∃ before, Matrix.fragments before (pieces ';' (Segment.matrixPart options s.raw))
      ⊆ Path.fragments options text := by
  obtain ⟨-, hread, -⟩ := parse_path_ok h
  obtain ⟨r, hr, hreadAs⟩ := exists_run_of_mem hread hs
  cases hreadAs
  obtain ⟨before, hsubset⟩ : ∃ before, Segment.fragments options before s.raw
      ⊆ Path.fragments options text := Run.subset_fragments hr []
  exact ⟨_, List.Subset.trans (List.subset_append_left _ _) hsubset⟩

section NoFragments

variable (hdecode : options.decodeSegments = false)
  (hmatrix : options.parseMatrixVariables = false)
include hdecode hmatrix

/-- Segments that are neither decoded nor have matrix variables have no fragments. -/
theorem Segment.fragments_eq_nil (before raw : List Char) : fragments options before raw = [] := by
  simp [fragments, matrixPart, hdecode, hmatrix, pieces, Matrix.fragments, Matrix.partFragments]

theorem Run.fragments_eq_nil (before : List Char) (rs : List Run) :
    fragments options before rs = [] := by
  induction rs generalizing before with
  | nil => rfl
  | cons r rs ih =>
    cases r with
    | separator => exact ih _
    | text raw => rw [fragments, Segment.fragments_eq_nil hdecode hmatrix, ih, List.append_nil]

theorem Path.fragments_eq_nil (text : List Char) : fragments options text = [] :=
  Run.fragments_eq_nil hdecode hmatrix [] _

end NoFragments

/-! ### Segments that are not decoded -/

/-- What is read from a text whose segments are not decoded. -/
structure Path.Undecoded (options : PathOptions) (text : List Char) : Prop where
  /-- The text is read just when all names and values of matrix variables are decoded. -/
  read_iff : (∃ p, parse text options = .ok p) ↔ ∀ f ∈ fragments options text, f.Decodes
  /-- There are no such names and values where matrix variables are not read. -/
  noMatrix : options.parseMatrixVariables = false → fragments options text = []
  /-- The value of a segment is what stands there. -/
  value : ∀ p, parse text options = .ok p → ∀ s, .segment s ∈ p.elements →
    s.value = Segment.matchPart options s.raw
  /-- The names and values of its matrix variables are decoded. -/
  matrix : ∀ p, parse text options = .ok p → ∀ s, .segment s ∈ p.elements →
    Matrix.readWith Percent.decode? (Segment.matrixPart options s.raw) = some s.matrix
  /-- So the text is read as it stands if there is no `%` in them. -/
  plain : (∀ f ∈ fragments options text, '%' ∉ f.piece) → ∃ p, parse text options = .ok p ∧
    ∀ s, .segment s ∈ p.elements →
      Matrix.readWith some (Segment.matrixPart options s.raw) = some s.matrix
  /-- A name or a value with a `%` is not read as it stands. -/
  escaped : ∀ f ∈ fragments options text, '%' ∈ f.piece →
    Percent.decode? f.piece ≠ some f.piece

/-- **Where segments are not decoded, their matrix variables are decoded all the same.**  A text is
read just when their names and values can be decoded, and as it stands if there is no `%` in them. -/
theorem parse_undecoded (hdecode : options.decodeSegments = false) (text : List Char) :
    Path.Undecoded options text := by
  have hmatrix : ∀ p, Path.parse text options = .ok p → ∀ s, .segment s ∈ p.elements →
      Matrix.readWith Percent.decode? (Segment.matrixPart options s.raw) = some s.matrix := by
    intro p hp s hs
    obtain ⟨es, hes, rfl⟩ := map_eq_ok.mp hp
    rw [Path.elements_whole] at hs
    exact Segment.readWith_of_read (read_of_mem_readRuns hes hs)
  refine ⟨Path.exists_parse_iff, fun h => Path.fragments_eq_nil hdecode h text, ?_, hmatrix, ?_,
    fun f _ hf hself => Percent.decode?_eq_self_iff.mp hself hf⟩
  · intro p hp s hs
    have hvalue := (Path.isSplit_of_parse hp).value s hs
    rw [Segment.valueOf, hdecode] at hvalue
    exact (Except.ok.inj hvalue).symm
  · intro hplain
    obtain ⟨p, hp⟩ := Path.exists_parse_iff.mpr fun f hf =>
      ⟨f.piece, Percent.decode?_of_plain (hplain f hf)⟩
    refine ⟨p, hp, ?_⟩
    intro s hs
    obtain ⟨before, hsubset⟩ := exists_fragments_subset hp hs
    rw [← Matrix.readWith_of_plain fun f hf => hplain f (hsubset hf)]
    exact hmatrix p hp s hs

/-- The value of a segment stays as it is, and the value of its matrix variable is decoded. -/
theorem parse_undecoded_value : ∃ p s, Path.Undecoded ⟨'/', false, true⟩ "a%zz;k=%41".toList ∧
    Path.parse "a%zz;k=%41".toList ⟨'/', false, true⟩ = .ok p ∧ .segment s ∈ p.elements ∧
      s.value = "a%zz".toList ∧ s.matrix = [(['k'], [['A']])] := by
  let s : Segment := ⟨0, "a%zz;k=%41".toList, "a%zz".toList, [(['k'], [['A']])]⟩
  let p : Path := .whole "a%zz;k=%41".toList [.segment s] ⟨'/', false, true⟩
  have hp : Path.parse "a%zz;k=%41".toList ⟨'/', false, true⟩ = .ok p :=
    map_eq_ok.mpr ⟨_, by decide +kernel, rfl⟩
  have hs : .segment s ∈ p.elements := List.mem_singleton.mpr rfl
  exact ⟨p, s, parse_undecoded rfl _, hp, hs, rfl, rfl⟩

/-- A path that is malformed only because the name of a matrix variable is decoded. -/
theorem parse_undecoded_malformed : ∃ fault,
    Path.parse "/a;b%zz=1".toList ⟨'/', false, true⟩ = .error fault := by
  have hread : PathElement.readAll ⟨'/', false, true⟩ "/a;b%zz=1".toList
      = .error ⟨"b%zz".toList, 4, .malformedEscape⟩ := by decide +kernel
  exact ⟨_, by rw [Path.parse, hread]; rfl⟩

end PathRouting
