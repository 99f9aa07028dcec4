import PathRouting.Proofs.Path.Place
import PathRouting.Proofs.Path.SubPath

/-!
# Parts of parts

A path looks at elements between two indices and at text between two bytes.  Both are moved when a
part is cut out, in ways of their own: the indices are counted from those of the path, and the bytes
are read off the elements.  They stay in step, so a part has the text that its elements have, and
reading that text again gives the elements again.

## Main definitions

* `PathElement.Readable` — whether elements can stand in a path side by side.
* `Path.InStep` — whether indices and bytes of a path belong together.
* `Path.IsPart` — whether a path was cut out of another one, in any number of steps.

## Main results

* `Readable.exists_parse` — elements that can stand side by side are found again in their text.
* `InStep.subPath`, `IsPart.inStep` — indices and bytes stay in step.
* `InStep.text_eq` — a path has the text of its elements.
* `InStep.reread` — the text of a path holds its elements.
* `IsPart.elements_eq` — a part of parts has the elements between two indices of the first path.
-/

namespace PathRouting

open Text

/-! ### Reading a stretch of runs -/

section Runs

variable {options : PathOptions} {offset : Nat} {rs : List Run} {es : List PathElement}

/-- **Runs written one after the other are found again**, if no two texts among them would flow into
each other. -/
theorem runs_flatMap_raw {separator : Char}
    (htext : ∀ t, .text t ∈ rs → t ≠ [] ∧ separator ∉ t)
    (hchain : rs.IsChain fun r r' => r = .separator ∨ r' = .separator) :
    runs separator (rs.flatMap (Run.raw separator)) = rs := by
  induction rs with
  | nil => rfl
  | cons r rs ih =>
    have hrest := ih (fun t ht => htext t (List.mem_cons_of_mem _ ht)) hchain.tail
    rw [List.flatMap_cons]
    cases r with
    | separator => rw [Run.raw, List.singleton_append, runs_separator, hrest]
    | text t =>
      obtain ⟨hne, hsep⟩ := htext t List.mem_cons_self
      rw [Run.raw, runs_append hne hsep, hrest]
      rw [hrest]
      exact fun r hr => (hchain.rel_head? hr).resolve_left (by simp)

/-- The run that an element is read from. -/
def PathElement.run : PathElement → Run
  | separator .. => .separator
  | segment s => .text s.raw

/-- A segment is read from its text wherever that stands, but for its place. -/
theorem Segment.exists_read {raw : List Char} {s : Segment}
    (h : Segment.read options offset raw = .ok s) (offset' : Nat) :
    ∃ s', Segment.read options offset' raw = .ok s' ∧ s'.unplaced = s.unplaced := by
  have halike := Run.alike_unplaced options (.text raw) offset offset'
  rw [h] at halike
  obtain ⟨s', hs', hunplaced⟩ := Option.map_eq_some_iff.mp halike.symm
  exact ⟨s', toOption_eq_some.mp hs', PathElement.segment.inj hunplaced⟩

/-- Elements are read from their runs wherever those stand, but for their places. -/
theorem PathElement.exists_readRuns
    (h : ∀ s, .segment s ∈ es → Segment.read options s.offset s.raw = .ok s)
    (hsep : ∀ offset c, .separator offset c ∈ es → c = options.separator) (offset : Nat) :
    ∃ es', readRuns options offset (es.map run) = .ok es' ∧ es'.map unplaced = es.map unplaced := by
  induction es generalizing offset with
  | nil => exact ⟨[], rfl, rfl⟩
  | cons e es ih =>
    have htail := ih (fun s hs => h s (List.mem_cons_of_mem _ hs))
      fun offset c hc => hsep offset c (List.mem_cons_of_mem _ hc)
    cases e with
    | separator place c =>
      obtain rfl := hsep place c List.mem_cons_self
      obtain ⟨es', hes', hunplaced⟩ := htail (offset + options.separator.utf8Size)
      refine ⟨.separator offset options.separator :: es', bind_eq_ok.mpr ⟨es', hes', rfl⟩, ?_⟩
      rw [List.map_cons, List.map_cons, hunplaced]
      rfl
    | segment s =>
      obtain ⟨s', hs', hplace⟩ := Segment.exists_read (h s List.mem_cons_self) offset
      obtain ⟨es', hes', hunplaced⟩ := htail (offset + byteLength s.raw)
      refine ⟨.segment s' :: es',
        bind_eq_ok.mpr ⟨s', hs', bind_eq_ok.mpr ⟨es', hes', rfl⟩⟩, ?_⟩
      rw [List.map_cons, List.map_cons, hunplaced]
      exact congrArg (· :: _) (congrArg PathElement.segment hplace)

/-- Whether elements can stand in a path side by side: they are read from texts of their own, and no
two segments would flow into each other. -/
structure PathElement.Readable (options : PathOptions) (es : List PathElement) : Prop where
  /-- Every separator is the one of the options. -/
  separator : ∀ offset c, .separator offset c ∈ es → c = options.separator
  /-- No segment is empty or has the separator in it. -/
  text : ∀ s, .segment s ∈ es → s.raw ≠ [] ∧ options.separator ∉ s.raw
  /-- Every segment is read from its text. -/
  read : ∀ s, .segment s ∈ es → Segment.read options s.offset s.raw = .ok s
  /-- No two segments stand side by side. -/
  apart : es.IsChain fun e e' => e.isSeparator = true ∨ e'.isSeparator = true

/-- **Elements that can stand side by side are found again in their text**, but for their places. -/
theorem PathElement.Readable.exists_parse (h : Readable options es) :
    ∃ made, Path.parse (es.flatMap raw) options = .ok made ∧
      made.elements.map unplaced = es.map unplaced := by
  have htext : es.flatMap raw = (es.map run).flatMap (Run.raw options.separator) := by
    rw [List.flatMap_map]
    refine List.flatMap_congr fun e he => ?_
    cases e with
    | separator place c => rw [h.separator place c he]; rfl
    | segment s => rfl
  have hruns : runs options.separator (es.flatMap raw) = es.map run := by
    rw [htext]
    refine runs_flatMap_raw (fun t ht => ?_) ?_
    · obtain ⟨e, he, heq⟩ := List.mem_map.mp ht
      cases e with
      | separator place c => simp [run] at heq
      | segment s =>
        obtain rfl := Run.text.inj heq
        exact h.text s he
    · rw [List.isChain_map]
      refine h.apart.imp fun e e' hor => ?_
      cases e <;> cases e' <;> simp_all [run]
  obtain ⟨made, hmade, hunplaced⟩ := exists_readRuns h.read h.separator 0
  refine ⟨.whole _ made options, map_eq_ok.mpr ⟨made, ?_, rfl⟩, by rwa [Path.elements_whole]⟩
  rw [readAll, hruns, hmade]

/-- Elements that were read from a text can stand side by side. -/
theorem PathElement.readable_of_readAll {text : List Char} (h : readAll options text = .ok es) :
    Readable options es := by
  have hsplit := Path.isSplit_of_parse (map_eq_ok.mpr ⟨es, h, rfl⟩ :
    Path.parse text options = .ok (.whole text es options))
  rw [Path.elements_whole] at hsplit
  exact ⟨hsplit.separator, hsplit.segment, fun s hs => read_of_mem_readRuns h hs, hsplit.apart⟩

/-- So can those of a stretch of them. -/
theorem PathElement.Readable.slice (h : Readable options es) (start stop : Nat) :
    Readable options ((es.take stop).drop start) := by
  have hmem : ∀ e ∈ (es.take stop).drop start, e ∈ es := by
    intro e he
    exact List.mem_of_mem_take (List.mem_of_mem_drop he)
  exact ⟨fun offset c hc => h.separator offset c (hmem _ hc), fun s hs => h.text s (hmem _ hs),
    fun s hs => h.read s (hmem _ hs), (h.apart.take stop).drop start⟩

/-- Elements side by side end as many bytes after they start as their text has. -/
theorem stop_of_tiles {stop : Nat}
    (h : Tiles PathElement.offset (fun e => byteLength e.raw) offset es stop) :
    stop = offset + byteLength (es.flatMap PathElement.raw) := by
  induction es generalizing offset with
  | nil => exact h.symm
  | cons e es ih =>
    rw [ih h.2, List.flatMap_cons, byteLength_append, Nat.add_assoc]

/-- An element stands where the text of the elements before it ends. -/
theorem offset_of_tiles {stop i : Nat} {e : PathElement}
    (h : Tiles PathElement.offset (fun e => byteLength e.raw) 0 es stop) (he : es[i]? = some e) :
    e.offset = byteLength ((es.take i).flatMap PathElement.raw) := by
  obtain ⟨hi, rfl⟩ := List.getElem?_eq_some_iff.mp he
  rw [← List.take_append_drop i es, List.drop_eq_getElem_cons hi, tiles_append] at h
  obtain ⟨mid, hbefore, hplace, -⟩ := h
  rw [hplace, stop_of_tiles hbefore, Nat.zero_add]

end Runs

namespace Path

/-! ### Indices and bytes in step -/

/-- The bytes that elements between two indices take, when all elements stand side by side from the
first byte on. -/
def bytesOf (es : List PathElement) (r : Indices) : Bytes :=
  ⟨byteLength ((es.take r.start).flatMap PathElement.raw),
    byteLength ((es.take r.stop).flatMap PathElement.raw)⟩

/-- Whether the indices and the bytes of a path belong together: there are elements for the indices,
they were read from the text, and the bytes are those of the elements. -/
structure InStep (p : Path) : Prop where
  /-- The first index is not after the last one. -/
  order : p.range.start ≤ p.range.stop
  /-- There are elements up to the last index. -/
  inside : p.range.stop ≤ p.stored.length
  /-- The elements are those of the text. -/
  read : PathElement.readAll p.options p.source = .ok p.stored
  /-- The bytes are those of the elements. -/
  span : p.span = bytesOf p.stored p.range

variable {p part : Path} {start stop : Nat}

/-- A path that is read looks at everything. -/
theorem inStep_of_parse {text : List Char} {options : PathOptions}
    (h : parse text options = .ok p) : p.InStep := by
  have htext := text_of_parse h
  obtain ⟨es, hes, rfl⟩ := map_eq_ok.mp h
  obtain ⟨-, -, htiles⟩ := parse_path_ok h
  rw [elements_whole] at htiles
  refine ⟨Nat.zero_le _, Nat.le_refl _, hes, ?_⟩
  have hstop := stop_of_tiles htiles
  rw [Nat.zero_add] at hstop
  simp [whole, bytesOf, hstop]

theorem inStep_empty (options : PathOptions) (generation : Nat) :
    (empty options generation).InStep := ⟨Nat.le_refl _, Nat.le_refl _, rfl, rfl⟩

namespace InStep

/-- There are as many elements as the indices say. -/
theorem length_eq (h : p.InStep) : p.length = p.range.stop - p.range.start := by
  rw [length, elements, length_slice _ h.inside]

/-- The elements stand side by side in the text. -/
theorem tiles (h : p.InStep) : Tiles PathElement.offset (fun e => byteLength e.raw) 0 p.stored
    (byteLength p.source) := by
  obtain ⟨-, htiles⟩ := readRuns_ok h.read
  rwa [flatMap_raw_runs, Nat.zero_add] at htiles

/-- An element starts where the elements before it end. -/
theorem start_eq (h : p.InStep) {i : Nat} (hi : i < p.stored.length) :
    p.stored[i]?.elim 0 (·.bytes.start)
      = byteLength ((p.stored.take i).flatMap PathElement.raw) := by
  rw [List.getElem?_eq_getElem hi]
  exact offset_of_tiles h.tiles (List.getElem?_eq_getElem hi)

/-- An element ends where the elements up to it end. -/
theorem stop_eq (h : p.InStep) {i : Nat} (hi : i < p.stored.length) :
    p.stored[i]?.elim 0 (·.bytes.stop)
      = byteLength ((p.stored.take (i + 1)).flatMap PathElement.raw) := by
  have hstart := offset_of_tiles h.tiles (List.getElem?_eq_getElem hi)
  rw [List.take_add_one, List.getElem?_eq_getElem hi, List.flatMap_append, byteLength_append,
    ← hstart]
  simp [PathElement.bytes]

/-- **Cutting out a part keeps indices and bytes in step.** -/
theorem cut (h : p.InStep) (hlt : start < stop) (hstop : stop ≤ p.length) :
    (p.cut start stop).InStep := by
  have hlength := h.length_eq
  have hinside : p.range.start + stop ≤ p.stored.length := by
    have := h.inside
    omega
  have hfirst := h.start_eq (i := p.range.start + start) (by omega)
  have hlast := h.stop_eq (i := p.range.start + stop - 1) (by omega)
  rw [Nat.sub_add_cancel (by omega)] at hlast
  exact ⟨Nat.add_le_add_left (Nat.le_of_lt hlt) _, hinside, h.read, congrArg₂ Bytes.mk hfirst hlast⟩

/-- Every part is in step. -/
theorem subPath (h : p.InStep) (hpart : p.subPath start stop = .ok part) : part.InStep := by
  unfold Path.subPath at hpart
  split at hpart
  · obtain rfl := Except.ok.inj hpart
    exact h
  · split at hpart
    · simp at hpart
    · split at hpart
      · obtain rfl := Except.ok.inj hpart
        exact inStep_empty ..
      · obtain rfl := Except.ok.inj hpart
        exact h.cut (by omega) (by omega)

/-- **A path has the text of its elements.** -/
theorem text_eq (h : p.InStep) : p.text = p.elements.flatMap PathElement.raw := by
  obtain ⟨hread, -⟩ := readRuns_ok h.read
  have hsource := flatMap_raw_of_readAs hread
  rw [flatMap_raw_runs] at hsource
  have hfirst : p.stored.take p.range.stop = p.stored.take p.range.start ++ p.elements := by
    have htake := List.take_append_drop p.range.start (p.stored.take p.range.stop)
    rwa [List.take_take, Nat.min_eq_left h.order, eq_comm] at htake
  have hall : p.stored =
      p.stored.take p.range.start ++ (p.elements ++ p.stored.drop p.range.stop) := by
    rw [← List.append_assoc, ← hfirst, List.take_append_drop]
  rw [text, h.span, bytesOf, hfirst, ← hsource]
  conv => lhs; arg 2; rw [hall]
  simp only [List.flatMap_append, byteLength_append, Bytes.cut_append]

/-- The elements of a path can stand side by side. -/
theorem readable (h : p.InStep) : PathElement.Readable p.options p.elements :=
  (PathElement.readable_of_readAll h.read).slice _ _

/-- **The text of a path holds its elements**, but for their places. -/
theorem reread (h : p.InStep) : ∃ again, parse p.text p.options = .ok again ∧
    again.elements.map PathElement.unplaced = p.elements.map PathElement.unplaced := by
  rw [h.text_eq]
  exact h.readable.exists_parse

/-- The text of a part, or what is wrong with the indices. -/
theorem map_text_subPath (h : p.InStep) (start stop : Nat) : (p.subPath start stop).map text
      = if stop < start ∨ p.length < stop then .error ⟨start, stop, p.length⟩
        else .ok (((p.elements.take stop).drop start).flatMap PathElement.raw) := by
  split
  · next hrange =>
    rw [(subPath_error p start stop).mpr hrange]
    rfl
  · next hrange =>
    obtain ⟨hle, hstop⟩ := not_or.mp hrange
    obtain ⟨part, hpart⟩ := exists_subPath (p := p) (Nat.not_lt.mp hle) (Nat.not_lt.mp hstop)
    obtain ⟨-, -, helements, -⟩ := subPath_ok hpart
    rw [hpart, ← helements, ← (h.subPath hpart).text_eq]
    rfl

/-- **Paths of one text have the same elements**, but for their places. -/
theorem unplaced_eq {p' : Path} (h : p.InStep) (h' : p'.InStep) (hoptions : p.options = p'.options)
    (htext : p.text = p'.text) :
    p.elements.map PathElement.unplaced = p'.elements.map PathElement.unplaced := by
  obtain ⟨again, hagain, helements⟩ := h.reread
  obtain ⟨again', hagain', helements'⟩ := h'.reread
  rw [hoptions, htext] at hagain
  obtain rfl := Except.ok.inj (hagain.symm.trans hagain')
  rw [← helements, helements']

end InStep

/-! ### Parts of parts -/

/-- A part of a part is a part. -/
theorem subPath_subPath {inner : Path} {first last : Nat} (h : p.InStep)
    (hpart : p.subPath start stop = .ok part) (hinner : part.subPath first last = .ok inner) :
    ∃ direct, p.subPath (start + first) (start + last) = .ok direct ∧ direct.text = inner.text ∧
      direct.elements = inner.elements := by
  obtain ⟨hle, hstop, helements, -⟩ := subPath_ok hpart
  obtain ⟨hle', hlast, helements', -⟩ := subPath_ok hinner
  have hlength := length_subPath hpart
  obtain ⟨direct, hdirect⟩ := exists_subPath (p := p) (Nat.add_le_add_left hle' start) (by omega)
  obtain ⟨-, -, helements'', -⟩ := subPath_ok hdirect
  have heq : direct.elements = inner.elements := by
    rw [helements'', helements', helements, slice_slice (by omega)]
  refine ⟨direct, hdirect, ?_, heq⟩
  rw [(h.subPath hdirect).text_eq, ((h.subPath hpart).subPath hinner).text_eq, heq]

/-- Whether a path was cut out of `root`, in any number of steps, and between which of its
indices. -/
inductive IsPart (root : Path) : Indices → Path → Prop
  /-- The path itself. -/
  | whole : IsPart root ⟨0, root.length⟩ root
  /-- The part of a part between two indices. -/
  | subPath {r : Indices} {p part : Path} {start stop : Nat} (hp : IsPart root r p)
      (h : p.subPath start stop = .ok part) :
      IsPart root ⟨r.start + start, r.start + stop⟩ part
  /-- The part of a part from an index on. -/
  | subPathFrom {r : Indices} {p part : Path} {start : Nat} (hp : IsPart root r p)
      (h : p.subPathFrom start = .ok part) : IsPart root ⟨r.start + start, r.stop⟩ part

namespace IsPart

variable {root : Path} {r : Indices}

/-- Parts of parts are in step. -/
theorem inStep (hp : root.IsPart r p) (hroot : root.InStep) : p.InStep := by
  induction hp with
  | whole => exact hroot
  | subPath _ h ih => exact ih.subPath h
  | subPathFrom _ h ih => exact ih.subPath h

theorem options_eq (hp : root.IsPart r p) : p.options = root.options := by
  induction hp with
  | whole => rfl
  | subPath _ h ih => exact (subPath_ok h).2.2.2.trans ih
  | subPathFrom _ h ih => exact (subPath_ok h).2.2.2.trans ih

/-- **A part of parts has the elements between its indices.** -/
theorem elements_eq (hp : root.IsPart r p) : r.start ≤ r.stop ∧ r.stop ≤ root.length ∧
    p.elements = (root.elements.take r.stop).drop r.start := by
  -- cutting once more counts the indices on from the first one
  have hstep : ∀ {r : Indices} {p part : Path} {start stop : Nat}, r.start ≤ r.stop →
      r.stop ≤ root.length → p.elements = (root.elements.take r.stop).drop r.start →
      p.subPath start stop = .ok part → start ≤ stop ∧ r.start + stop ≤ r.stop ∧
        r.start + p.length = r.stop ∧
        part.elements = (root.elements.take (r.start + stop)).drop (r.start + start) := by
    intro r p part start stop hle hstop helements h
    obtain ⟨horder, hinside, hpart, -⟩ := subPath_ok h
    have hlength : p.length = r.stop - r.start := by rw [length, helements, length_slice _ hstop]
    refine ⟨horder, by omega, by omega, ?_⟩
    rw [hpart, helements, slice_slice (by omega)]
  induction hp with
  | whole => exact ⟨Nat.zero_le _, Nat.le_refl _, by simp [length]⟩
  | subPath _ h ih =>
    obtain ⟨hle, hstop, helements⟩ := ih
    obtain ⟨horder, hinside, -, hpart⟩ := hstep hle hstop helements h
    exact ⟨Nat.add_le_add_left horder _, Nat.le_trans hinside hstop, hpart⟩
  | subPathFrom _ h ih =>
    obtain ⟨hle, hstop, helements⟩ := ih
    obtain ⟨horder, -, hend, hpart⟩ := hstep hle hstop helements h
    rw [hend] at hpart
    exact ⟨hend ▸ Nat.add_le_add_left horder _, hstop, hpart⟩

end IsPart

end Path

end PathRouting
