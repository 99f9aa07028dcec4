import Mathlib.Data.List.Forall2
import PathRouting.Proofs.Path.Entries
import PathRouting.Proofs.Path.Merge
import PathRouting.Proofs.Percent

/-!
# Matrix variables written and read back

A row of names with values can be written in many ways: which characters stand as escapes is up to
the writer, values of one name may share a part, and parts that say nothing may stand
anywhere.  Each of these texts is read as the row.

Three cuts have to be undone, at `;`, at `=` and at `,`.  None of these characters is in a name or a
value as it is written, so each cut comes to what was put together.

## Main definitions

* `Matrix.WrittenPart` — one part between semicolons, and what it is written for.
* `Matrix.Written` — a text of such parts.
* `Matrix.ofPairs` — names with one value each, as entries.

## Main results

* `entryWith_of_writtenPart` — a part makes an entry that adds what it is written for.
* `writtenPart_renderPair` — the plainest way to write a pair.
* `read_of_written` — a text is read as the row that it is written for.
-/

namespace PathRouting.Matrix

open Text Percent

/-! ### Ways to write -/

/-- Whether a part between semicolons is written for a row of names with values. -/
inductive WrittenPart : List (List Char × List Char) → List Char → Prop
  /-- Nothing. -/
  | empty : WrittenPart [] []
  /-- A name, blank or not, and a list of values that has none. -/
  | noValues {name rawName : List Char} (encodes : Encodes isReserved name rawName) :
      WrittenPart [] (rawName ++ ['='])
  /-- A name, blank or not, and a list of two values that are empty. -/
  | emptyValues {name rawName : List Char} (encodes : Encodes isReserved name rawName) :
      WrittenPart [] (rawName ++ ['=', ','])
  /-- Anything after an `=` that no name precedes. -/
  | noName {list : List Char} (within : ';' ∉ list) : WrittenPart [] ('=' :: list)
  /-- A name alone, for one empty value. -/
  | name {name rawName : List Char} (encodes : Encodes isReserved name rawName) :
      WrittenPart [(name, [])] rawName
  /-- A name and a list of values, none of which is empty. -/
  | values {name rawName : List Char} {values rawValues : List (List Char)}
      (encodes : Encodes isReserved name rawName) (some : values ≠ []) (nonempty : [] ∉ values)
      (encodesAll : List.Forall₂ (Encodes isReserved) values rawValues) :
      WrittenPart (values.map (name, ·)) (rawName ++ '=' :: join ',' rawValues)

/-- Whether a text is written for a row of names with values, part by part. -/
inductive Written : List (List Char × List Char) → List Char → Prop
  /-- No part. -/
  | nil : Written [] []
  /-- One part before others. -/
  | cons {pairs pairs' : List (List Char × List Char)} {part text : List Char}
      (first : WrittenPart pairs part) (rest : Written pairs' text) :
      Written (pairs ++ pairs') (';' :: part ++ text)

/-- Names with one value each, as entries. -/
def ofPairs (pairs : List (List Char × List Char)) : Matrix :=
  pairs.map fun (name, value) => (name, [value])

/-! ### Adding values one by one -/

section Adding

variable (m : Matrix) (name : List Char)

/-- Values may be added to a name in two steps. -/
theorem addAll_addAll (new new' : List (List Char)) :
    (m.addAll name new).addAll name new' = m.addAll name (new ++ new') := by
  induction m with
  | nil => simp [addAll]
  | cons e rest ih =>
    obtain ⟨n, old⟩ := e
    by_cases hn : n = name
    · simp [addAll, hn]
    · simp only [addAll, if_neg hn, ih]

/-- One entry with several values adds what an entry for each of them does. -/
theorem merge_ofPairs_map {values : List (List Char)} (hne : values ≠ []) :
    m.merge (ofPairs (values.map (name, ·))) = m.addAll name values := by
  induction values generalizing m with
  | nil => exact absurd rfl hne
  | cons value values ih =>
    show (m.addAll name [value]).merge (ofPairs (values.map (name, ·))) = _
    by_cases hrest : values = []
    · subst hrest
      rfl
    · rw [ih _ hrest, addAll_addAll]
      rfl

end Adding

theorem map_fst_ofPairs (pairs : List (List Char × List Char)) :
    (ofPairs pairs).map Prod.fst = pairs.map Prod.fst := by
  rw [ofPairs, List.map_map]
  rfl

/-- What entries for pairs give a name are the values that the pairs have for it. -/
theorem collected_ofPairs (pairs : List (List Char × List Char)) (name : List Char) :
    collected (ofPairs pairs) name = (pairs.filter (·.1 = name)).map Prod.snd := by
  induction pairs with
  | nil => rfl
  | cons pair pairs ih =>
    obtain ⟨n, value⟩ := pair
    show collected ((n, [value]) :: ofPairs pairs) name = _
    by_cases hn : n = name
    · subst hn
      rw [collected_cons_self, ih, List.filter_cons_of_pos (by simp)]
      rfl
    · rw [collected_cons_of_ne hn, ih, List.filter_cons_of_neg (by simpa using hn)]

/-! ### Characters of what is written -/

/-- Names and values are written without the characters at which they are cut. -/
theorem notMem_of_encodes {s raw : List Char} (h : Encodes isReserved s raw) {c : Char}
    (hc : c ∈ [';', '=', ',']) : c ∉ raw := by
  intro hmem
  simp only [List.mem_cons, List.not_mem_nil, or_false] at hc
  rcases mem_of_encodes h hmem with rfl | hdigit | hreserved
  · revert hc
    decide
  · rcases hc with rfl | rfl | rfl <;> exact Bool.noConfusion hdigit
  · rcases hc with rfl | rfl | rfl <;> exact Bool.noConfusion hreserved

theorem notMem_of_encodesAll {values raws : List (List Char)}
    (h : List.Forall₂ (Encodes isReserved) values raws) {c : Char} (hc : c ∈ [';', '=', ',']) :
    ∀ raw ∈ raws, c ∉ raw := by
  induction h with
  | nil => simp
  | cons hvalue _ ih => exact List.forall_mem_cons.mpr ⟨notMem_of_encodes hvalue hc, ih⟩

/-- No part holds a `;`. -/
theorem notMem_of_writtenPart {pairs : List (List Char × List Char)} {part : List Char}
    (h : WrittenPart pairs part) : ';' ∉ part := by
  cases h with
  | empty => simp
  | noValues encodes => simp [notMem_of_encodes encodes]
  | emptyValues encodes => simp [notMem_of_encodes encodes]
  | noName within => simpa using within
  | name encodes => exact notMem_of_encodes encodes (by simp)
  | values encodes some nonempty encodesAll =>
    intro hmem
    rcases List.mem_append.mp hmem with hname | hlist
    · exact notMem_of_encodes encodes (by simp) hname
    · have hjoin := (List.mem_cons.mp hlist).resolve_left (by decide)
      rcases mem_join hjoin with heq | ⟨raw, hraw, hsemicolon⟩
      · exact absurd heq (by decide)
      · exact notMem_of_encodesAll encodesAll (by simp) raw hraw hsemicolon

/-! ### Reading -/

/-- What is written is read as what it was written for, wherever it is. -/
theorem decode?_of_encodes {s raw : List Char} (h : Encodes isReserved s raw) :
    decode? raw = some s := by
  apply decode?_eq_some.mpr
  intro position
  exact decode_of_encodes rfl h position

/-- Values that are not empty are cut, kept and read one by one. -/
theorem mapM_decode?_of_encodesAll {values raws : List (List Char)}
    (h : List.Forall₂ (Encodes isReserved) values raws) (hsome : values ≠ [])
    (hnonempty : [] ∉ values) :
    ((pieces ',' (join ',' raws)).filter (· ≠ [])).mapM decode? = some values := by
  have hraws : raws ≠ [] := by
    rintro rfl
    exact hsome (List.forall₂_nil_right_iff.mp h)
  rw [pieces_join hraws (notMem_of_encodesAll h (by simp))]
  clear hsome hraws
  induction h with
  | nil => rfl
  | @cons value raw values raws hvalue _ ih =>
    obtain ⟨hne, hnonempty⟩ := not_or.mp (mt List.mem_cons.mpr hnonempty)
    have hraw : raw ≠ [] := ne_nil_of_encodes hvalue (Ne.symm hne)
    rw [List.filter_cons_of_pos (by simpa using hraw), List.mapM_cons, decode?_of_encodes hvalue,
      ih hnonempty]
    rfl

/-- **A part makes an entry that adds what it is written for**, or none if that is nothing. -/
theorem entryWith_of_writtenPart {pairs : List (List Char × List Char)} {part : List Char}
    (h : WrittenPart pairs part) (hnames : ∀ pair ∈ pairs, isBlank pair.1 = false) :
    ∃ entries, entryWith decode? part = some entries ∧
      ∀ m : Matrix, m.merge entries = m.merge (ofPairs pairs) := by
  cases h with
  | empty => exact ⟨[], rfl, fun _ => rfl⟩
  | noValues encodes =>
    refine ⟨[], ?_, fun _ => rfl⟩
    rw [entryWith, cutAt_append (notMem_of_encodes encodes (by simp))]
    simp only [decode?_of_encodes encodes, Option.bind_some]
    split <;> rfl
  | emptyValues encodes =>
    refine ⟨[], ?_, fun _ => rfl⟩
    rw [entryWith, cutAt_append (notMem_of_encodes encodes (by simp))]
    simp only [decode?_of_encodes encodes, Option.bind_some]
    split <;> rfl
  | noName _ => exact ⟨[], rfl, fun _ => rfl⟩
  | @name name rawName encodes =>
    have hblank : isBlank name = false := hnames (name, []) (List.mem_singleton_self _)
    refine ⟨[(name, [[]])], ?_, fun _ => rfl⟩
    rw [entryWith, cutAt_eq_none.mpr (notMem_of_encodes encodes (by simp))]
    simp only [decode?_of_encodes encodes, Option.map_some, hblank, Bool.false_eq_true, if_false]
  | @values name rawName values rawValues encodes some nonempty encodesAll =>
    have hblank : isBlank name = false := by
      obtain ⟨value, hvalue⟩ := List.exists_mem_of_ne_nil values some
      exact hnames (name, value) (List.mem_map_of_mem hvalue)
    refine ⟨[(name, values)], ?_, fun m => (merge_ofPairs_map m name some).symm⟩
    rw [entryWith, cutAt_append (notMem_of_encodes encodes (by simp))]
    simp only [decode?_of_encodes encodes, Option.bind_some, hblank, Bool.false_eq_true, if_false,
      mapM_decode?_of_encodesAll encodesAll some nonempty, Option.map_some, if_neg some]

/-- The parts of a text make entries that add what the text is written for. -/
theorem mapM_entryWith_of_written {pairs : List (List Char × List Char)} {text : List Char}
    (h : Written pairs text) (hnames : ∀ pair ∈ pairs, isBlank pair.1 = false) :
    ∃ parts entries, pieces ';' text = [] :: parts ∧
      parts.mapM (entryWith decode?) = some entries ∧
      ∀ m : Matrix, m.merge entries.flatten = m.merge (ofPairs pairs) := by
  induction h with
  | nil => exact ⟨[], [], rfl, rfl, fun _ => rfl⟩
  | @cons pairs pairs' part text hpart _ ih =>
    obtain ⟨hfirst, hrest⟩ := List.forall_mem_append.mp hnames
    obtain ⟨entry, hentry, hadds⟩ := entryWith_of_writtenPart hpart hfirst
    obtain ⟨parts, entries, hpieces, hentries, haddsAll⟩ := ih hrest
    have hcut := pieces_append (notMem_of_writtenPart hpart) hpieces
    refine ⟨part :: parts, entry :: entries, ?_, ?_, ?_⟩
    · rw [List.cons_append, pieces_cons_self, hcut, List.append_nil]
    · rw [List.mapM_cons, hentry, hentries]
      rfl
    · intro m
      calc m.merge (entry :: entries).flatten
          = (m.merge entry).merge entries.flatten := (merge_merge m entry _).symm
        _ = (m.merge (ofPairs pairs)).merge (ofPairs pairs') := by rw [hadds, haddsAll]
        _ = m.merge (ofPairs (pairs ++ pairs')) := by
          rw [merge_merge, ofPairs, ofPairs, ofPairs, List.map_append]

/-! ### The plainest way to write -/

/-- A pair is written as a part of its own. -/
theorem writtenPart_renderPair (name value : List Char) :
    ∃ part, renderPair name value = ';' :: part ∧ WrittenPart [(name, value)] part := by
  by_cases hvalue : value = []
  · subst hvalue
    refine ⟨encode isReserved name, ?_, .name (encodes_encode isReserved name)⟩
    simp [renderPair]
  · have hnonempty : [] ∉ [value] := by simpa using Ne.symm hvalue
    have hpart : WrittenPart ([value].map (name, ·))
        (encode isReserved name ++ '=' :: join ',' [encode isReserved value]) :=
      .values (encodes_encode isReserved name) (List.cons_ne_nil value []) hnonempty
        (.cons (encodes_encode isReserved value) .nil)
    refine ⟨_, ?_, hpart⟩
    simp [renderPair, hvalue, join]

/-- Every row can be written, one part for each pair. -/
theorem written_flatMap_renderPair (pairs : List (List Char × List Char)) :
    Written pairs (pairs.flatMap fun pair => renderPair pair.1 pair.2) := by
  induction pairs with
  | nil => exact .nil
  | cons pair pairs ih =>
    obtain ⟨part, hpart, hwritten⟩ := writtenPart_renderPair pair.1 pair.2
    have hcons := Written.cons hwritten ih
    rw [List.flatMap_cons, hpart]
    exact hcons

/-- **Matrix variables are read back.**  A row of names with values, no name being blank, can be
written, and every text that is written for it is read at any place: the names are those of the row,
each once, and a name has its values in the order of the row. -/
theorem read_of_written {pairs : List (List Char × List Char)}
    (hnames : ∀ pair ∈ pairs, isBlank pair.1 = false) :
    Written pairs (pairs.flatMap fun pair => renderPair pair.1 pair.2) ∧
      ∀ text, Written pairs text → ∀ position, ∃ m, Matrix.read text position = .ok m ∧
        (m.map Prod.fst).Nodup ∧ ∀ name, m.values? name =
          if name ∈ pairs.map Prod.fst then some ((pairs.filter (·.1 = name)).map Prod.snd)
          else none := by
  refine ⟨written_flatMap_renderPair pairs, fun text h position => ?_⟩
  obtain ⟨parts, entries, hpieces, hentries, hadds⟩ := mapM_entryWith_of_written h hnames
  have hread : readWith decode? text = some (merge [] (ofPairs pairs)) := by
    rw [readWith, hpieces, List.mapM_cons, hentries, ← hadds]
    rfl
  rw [← toOption_read text position, toOption_eq_some] at hread
  have hgathers := gathers_merge (ofPairs pairs)
  refine ⟨_, hread, hgathers.nodup, fun name => ?_⟩
  rw [hgathers.values, map_fst_ofPairs, collected_ofPairs]

/-- Two values of `n` in one part and a third one later, an empty value of `x`, and parts without a
name, without values and without anything. -/
theorem read_of_written_joined :
    let pairs := [(['n'], ['a']), (['n'], [';']), (['x'], []), (['n'], ['b'])]
    let text := ";n=a,%3b;;=%zz;x;y=,;n=b".toList
    (∀ pair ∈ pairs, isBlank pair.1 = false) ∧ Written pairs text ∧
      ∃ m, Matrix.read text 7 = .ok m ∧
        m.values? ['n'] = some [['a'], [';'], ['b']] ∧ m.values? ['x'] = some [[]] ∧
        m.values? ['y'] = none := by
  intro pairs text
  have hnames : ∀ pair ∈ pairs, isBlank pair.1 = false := by decide
  have hplain : ∀ c, isReserved c = false → Encodes isReserved [c] [c] := fun c hc =>
    .plain c hc .nil
  have hsemicolon : Encodes isReserved [';'] ['%', '3', 'b'] :=
    .escaped ';' (.cons rfl .nil) .nil
  have hlist : WrittenPart ([['a'], [';']].map (['n'], ·)) "n=a,%3b".toList :=
    .values (hplain 'n' rfl) (by simp) (by simp)
      (.cons (hplain 'a' rfl) (.cons hsemicolon .nil))
  have hnoName : WrittenPart [] "=%zz".toList := .noName (by decide)
  have hlast : WrittenPart ([['b']].map (['n'], ·)) "n=b".toList :=
    .values (hplain 'n' rfl) (by simp) (by simp) (.cons (hplain 'b' rfl) .nil)
  have hwritten : Written pairs text :=
    .cons hlist <| .cons .empty <| .cons hnoName <| .cons (.name (hplain 'x' rfl)) <|
      .cons (.emptyValues (hplain 'y' rfl)) <| .cons hlast .nil
  obtain ⟨m, hm, -, hvalues⟩ := (read_of_written hnames).2 text hwritten 7
  exact ⟨hnames, hwritten, m, hm, hvalues ['n'], hvalues ['x'], hvalues ['y']⟩

end PathRouting.Matrix
