import PathRouting.Proofs.Path.Entries
import PathRouting.Proofs.Path.Split
import PathRouting.Proofs.Percent.Scan

/-!
# The fragments of a path

A path is cut at its separators, at semicolons, at the first `=` of a part and at the commas of a list
before anything is decoded.  What is decoded in the end are fragments of its text, one after the
other, and the first fragment that is not decoded is the fault of the path.

## Main definitions

* `Fragment` — a fragment that is decoded, with the text before it.
* `Matrix.fragments`, `Segment.fragments`, `Path.fragments` — the fragments of a text in the order in
  which they are decoded.

## Main results

* `Path.fault?_parse` — the fault of a path is that of its first fragment that has one.
* `Path.exists_parse_iff` — a path is read when all of its fragments are decoded.
* `Path.text_of_mem_fragments` — where a fragment stands.
* `fault_of_parse` — what a fault says, and what of it is wrong.
-/

namespace PathRouting

open Text

/-- A fragment of a path that is decoded. -/
structure Fragment where
  /-- The text of the path before the place from which faults are counted. -/
  before : List Char
  /-- The text between that place and the fragment. -/
  skipped : List Char
  /-- The fragment. -/
  piece : List Char
  deriving DecidableEq, Repr

namespace Fragment

/-- The fault of decoding a fragment, if there is one. -/
def fault? (f : Fragment) : Option Percent.Fault :=
  PathRouting.fault? (Percent.decode f.piece (byteLength f.before))

/-- Whether a fragment is decoded. -/
def Decodes (f : Fragment) : Prop := ∃ text, Percent.decode? f.piece = some text

/-- Whether a text holds a fragment where it is said to be. -/
structure StandsIn (f : Fragment) (text : List Char) : Prop where
  /-- The text goes on after the fragment. -/
  holds : ∃ after, text = f.before ++ f.skipped ++ f.piece ++ after
  /-- Only a value has something skipped before it: the values that its list has first, and a comma
  after each. -/
  skips : f.skipped = [] ∨
    (∃ name, f.before = name ++ ['=']) ∧ ∃ values, f.skipped = values ++ [',']

end Fragment

/-! ### The fragments of a text -/

namespace Matrix

/-- Whether a name is decoded as nothing but white space. -/
def isBlankName (name : List Char) : Bool := (Percent.decode? name).any isBlank

/-- The values in a list, apart from empty ones.  Faults in any of them are counted from the place
before the list. -/
def valueFragments (before : List Char) : List Char → List (List Char) → List Fragment
  | _, [] => []
  | skipped, value :: rest =>
    let later := valueFragments before (skipped ++ value ++ [',']) rest
    if value = [] then later else ⟨before, skipped, value⟩ :: later

/-- The name and the values of a part between semicolons.  Where there is no name the values are not
looked at. -/
def partFragments (before part : List Char) : List Fragment :=
  if part = [] then []
  else match cutAt '=' part with
    | some (name, list) => ⟨before, [], name⟩ ::
        if isBlankName name then [] else valueFragments (before ++ name ++ ['=']) [] (pieces ',' list)
    | none => [⟨before, [], part⟩]

/-- The fragments of parts between semicolons. -/
def fragments (before : List Char) : List (List Char) → List Fragment
  | [] => []
  | part :: rest => partFragments before part ++ fragments (before ++ part ++ [';']) rest

end Matrix

/-- The fragments of a segment: those of its matrix variables and then, where segments are decoded,
its part to match. -/
def Segment.fragments (options : PathOptions) (before raw : List Char) : List Fragment :=
  Matrix.fragments (before ++ matchPart options raw) (pieces ';' (matrixPart options raw))
    ++ if options.decodeSegments then [⟨before, [], matchPart options raw⟩] else []

/-- The fragments of runs. -/
def Run.fragments (options : PathOptions) (before : List Char) : List Run → List Fragment
  | [] => []
  | .separator :: rest => fragments options (before ++ [options.separator]) rest
  | .text raw :: rest =>
    Segment.fragments options before raw ++ fragments options (before ++ raw) rest

/-- The fragments of the text of a path. -/
def Path.fragments (options : PathOptions) (text : List Char) : List Fragment :=
  Run.fragments options [] (runs options.separator text)

/-! ### The first fault -/

namespace Matrix

/-- The first fault in a list of values is that of its first fragment that has one. -/
theorem findSome?_valueFragments (before skipped : List Char) (values : List (List Char)) :
    (valueFragments before skipped values).findSome? Fragment.fault?
      = (values.filter (· ≠ [])).findSome? fun value =>
          fault? (Percent.decode value (byteLength before)) := by
  induction values generalizing skipped with
  | nil => rfl
  | cons value rest ih =>
    rw [valueFragments]
    by_cases hvalue : value = []
    · rw [if_pos hvalue, ih, List.filter_cons_of_neg (by simpa using hvalue)]
    · rw [if_neg hvalue, List.filter_cons_of_pos (by simpa using hvalue), List.findSome?_cons,
        List.findSome?_cons, ih]
      rfl

theorem fault?_readValues (before list : List Char) : fault? (readValues list (byteLength before))
      = (valueFragments before [] (pieces ',' list)).findSome? Fragment.fault? := by
  rw [readValues, fault?_mapM, findSome?_valueFragments]

/-- A name that is decoded is blank or not wherever it stands. -/
theorem isBlankName_eq {name text : List Char} {position : Nat}
    (h : Percent.decode name position = .ok text) : isBlankName name = isBlank text := by
  rw [isBlankName, ← Percent.toOption_decode name position, h]
  rfl

/-- The fault of a part is that of its first fragment that has one. -/
theorem fault?_readPart (m : Matrix) (before part : List Char) :
    fault? (readPart m part (byteLength before))
      = (partFragments before part).findSome? Fragment.fault? := by
  unfold partFragments
  split
  · next hnil =>
    subst hnil
    rfl
  · unfold readPart
    rcases cutAt '=' part with _ | ⟨name, list⟩
    · show fault? (Percent.decode part (byteLength before) >>= _) = _
      rw [fault?_bind fun _ _ => fault?_pure _, Option.or_none, List.findSome?_singleton]
      rfl
    · -- the values matter only after a name that is decoded and not blank
      have hplace : byteLength before + byteLength name + 1
          = byteLength (before ++ name ++ ['=']) := by
        simp only [byteLength_append]
        rfl
      refine (fault?_bind (e := (if isBlankName name then []
        else valueFragments (before ++ name ++ ['=']) [] (pieces ',' list)).findSome?
          Fragment.fault?) fun text htext => ?_).trans ?_
      · rw [isBlankName_eq htext]
        split
        · rfl
        · rw [hplace, ← fault?_readValues, fault?_bind (e := none), Option.or_none]
          rintro (_ | ⟨v, vs⟩) _ <;> rfl
      · rw [List.findSome?_cons]
        show (Fragment.fault? ⟨before, [], name⟩).or _ = _
        cases Fragment.fault? ⟨before, [], name⟩ <;> rfl

/-- The fault of parts is that of their first fragment that has one. -/
theorem fault?_readParts (m : Matrix) (before : List Char) (parts : List (List Char)) :
    fault? (readParts m parts (byteLength before))
      = (fragments before parts).findSome? Fragment.fault? := by
  induction parts generalizing m before with
  | nil => rfl
  | cons part rest ih =>
    have hplace : byteLength before + byteLength part + 1
        = byteLength (before ++ part ++ [';']) := by
      simp only [byteLength_append]
      rfl
    rw [fragments, List.findSome?_append, ← fault?_readPart m before part, readParts, hplace]
    exact fault?_bind fun m' _ => ih m' _

end Matrix

/-- The fault of a segment is that of its first fragment that has one. -/
theorem Segment.fault?_read (options : PathOptions) (before raw : List Char) :
    PathRouting.fault? (read options (byteLength before) raw)
      = (fragments options before raw).findSome? Fragment.fault? := by
  have hmatrix : PathRouting.fault? (if matrixPart options raw = [] then .ok []
      else Matrix.read (matrixPart options raw)
        (byteLength before + byteLength (matchPart options raw)))
      = (Matrix.fragments (before ++ matchPart options raw)
          (pieces ';' (matrixPart options raw))).findSome? Fragment.fault? := by
    split
    · next hnil =>
      rw [hnil]
      rfl
    · rw [← byteLength_append]
      exact Matrix.fault?_readParts [] _ _
  have hvalue : PathRouting.fault? (valueOf options (byteLength before) raw)
      = (if options.decodeSegments then [Fragment.mk before [] (matchPart options raw)]
          else []).findSome? Fragment.fault? := by
    unfold valueOf
    split
    · rw [List.findSome?_singleton]
      rfl
    · rfl
  rw [read_eq, fragments, List.findSome?_append, ← hmatrix, ← hvalue]
  exact fault?_bind fun _ _ => fault?_map _ _

/-- The fault of runs is that of their first fragment that has one. -/
theorem PathElement.fault?_readRuns (options : PathOptions) (before : List Char) (rs : List Run) :
    PathRouting.fault? (readRuns options (byteLength before) rs)
      = (Run.fragments options before rs).findSome? Fragment.fault? := by
  induction rs generalizing before with
  | nil => rfl
  | cons r rs ih =>
    cases r with
    | separator =>
      have hplace : byteLength before + options.separator.utf8Size
          = byteLength (before ++ [options.separator]) := by
        simp only [byteLength_append, byteLength_cons, byteLength_nil, Nat.add_zero]
      rw [readRuns, hplace, fault?_bind fun _ _ => fault?_pure _, Option.or_none, ih]
      rfl
    | text raw =>
      rw [readRuns, Run.fragments, List.findSome?_append, ← Segment.fault?_read, ← ih,
        byteLength_append]
      refine fault?_bind fun s _ => ?_
      rw [fault?_bind fun _ _ => fault?_pure _, Option.or_none]

/-- **The fault of a path is that of its first fragment that has one.** -/
theorem Path.fault?_parse (options : PathOptions) (text : List Char) :
    PathRouting.fault? (parse text options)
      = (fragments options text).findSome? Fragment.fault? := by
  rw [parse, fault?_map]
  exact PathElement.fault?_readRuns options [] _

/-! ### Where fragments stand -/

section Standing

variable {options : PathOptions} {text before raw skipped : List Char} {f : Fragment}

/-- A fragment of a part of a text is a fragment of the text. -/
theorem Fragment.StandsIn.append (h : f.StandsIn text) (after : List Char) :
    f.StandsIn (text ++ after) := by
  obtain ⟨⟨rest, rfl⟩, hskips⟩ := h
  exact ⟨⟨rest ++ after, by simp only [List.append_assoc]⟩, hskips⟩

namespace Matrix

theorem standsIn_of_mem_valueFragments {values : List (List Char)}
    (hbefore : ∃ name, before = name ++ ['='])
    (hskipped : skipped = [] ∨ ∃ values, skipped = values ++ [','])
    (h : f ∈ valueFragments before skipped values) :
    f.StandsIn (before ++ skipped ++ join ',' values) := by
  induction values generalizing skipped with
  | nil => simp [valueFragments] at h
  | cons value rest ih =>
    rw [valueFragments] at h
    have hlater : f ∈ valueFragments before (skipped ++ value ++ [',']) rest →
        f.StandsIn (before ++ skipped ++ join ',' (value :: rest)) := by
      intro hmem
      rcases rest with _ | ⟨next, rest⟩
      · simp [valueFragments] at hmem
      · simpa [join] using ih (.inr ⟨skipped ++ value, rfl⟩) hmem
    split at h
    · exact hlater h
    · rcases List.mem_cons.mp h with rfl | h
      · refine ⟨?_, hskipped.imp_right fun hvalues => ⟨hbefore, hvalues⟩⟩
        rcases rest with _ | ⟨next, rest⟩
        · exact ⟨[], by simp [join]⟩
        · exact ⟨',' :: join ',' (next :: rest), by simp [join]⟩
      · exact hlater h

theorem standsIn_of_mem_partFragments {part : List Char} (h : f ∈ partFragments before part) :
    f.StandsIn (before ++ part) := by
  unfold partFragments at h
  split at h
  · simp at h
  · rcases hcut : cutAt '=' part with _ | ⟨name, list⟩
    · rw [hcut] at h
      obtain rfl := List.mem_singleton.mp h
      exact ⟨⟨[], by simp⟩, .inl rfl⟩
    · rw [hcut] at h
      obtain ⟨rfl, -⟩ := cutAt_eq_some hcut
      rcases List.mem_cons.mp h with rfl | h
      · exact ⟨⟨'=' :: list, by simp⟩, .inl rfl⟩
      · split at h
        · simp at h
        · have hvalue := standsIn_of_mem_valueFragments ⟨before ++ name, rfl⟩ (.inl rfl) h
          rw [join_pieces] at hvalue
          simpa using hvalue

theorem standsIn_of_mem_fragments {parts : List (List Char)} (h : f ∈ fragments before parts) :
    f.StandsIn (before ++ join ';' parts) := by
  induction parts generalizing before with
  | nil => simp [fragments] at h
  | cons part rest ih =>
    rcases List.mem_append.mp h with h | h
    · have hpart := standsIn_of_mem_partFragments h
      rcases rest with _ | ⟨next, rest⟩
      · exact hpart
      · simpa [join] using hpart.append (';' :: join ';' (next :: rest))
    · rcases rest with _ | ⟨next, rest⟩
      · simp [fragments] at h
      · simpa [join] using ih h

end Matrix

/-- A segment is its part to match and the part that holds matrix variables. -/
theorem Segment.matchPart_append_matrixPart (options : PathOptions) (raw : List Char) :
    matchPart options raw ++ matrixPart options raw = raw := by
  unfold matchPart matrixPart
  split
  · exact List.takeWhile_append_dropWhile
  · exact List.append_nil raw

theorem Segment.standsIn_of_mem_fragments (h : f ∈ fragments options before raw) :
    f.StandsIn (before ++ raw) := by
  rcases List.mem_append.mp h with h | h
  · have hmatrix := Matrix.standsIn_of_mem_fragments h
    rwa [join_pieces, List.append_assoc, matchPart_append_matrixPart] at hmatrix
  · split at h
    · obtain rfl := List.mem_singleton.mp h
      refine ⟨⟨matrixPart options raw, ?_⟩, .inl rfl⟩
      simp only [List.append_nil, List.append_assoc, matchPart_append_matrixPart]
    · simp at h

theorem Run.standsIn_of_mem_fragments {rs : List Run} (h : f ∈ fragments options before rs) :
    f.StandsIn (before ++ rs.flatMap (Run.raw options.separator)) := by
  induction rs generalizing before with
  | nil => simp [fragments] at h
  | cons r rs ih =>
    cases r with
    | separator => simpa [Run.raw] using ih h
    | text raw =>
      rcases List.mem_append.mp h with h | h
      · simpa [Run.raw] using (Segment.standsIn_of_mem_fragments h).append _
      · simpa [Run.raw] using ih h

/-- **A fragment stands where it is said to.** -/
theorem Path.standsIn_of_mem_fragments (h : f ∈ fragments options text) : f.StandsIn text := by
  have hruns := Run.standsIn_of_mem_fragments h
  rwa [List.nil_append, flatMap_raw_runs] at hruns

end Standing

/-! ### Faults -/

section Faults

variable {options : PathOptions} {text : List Char} {f : Fragment} {fault : Percent.Fault}

namespace Fragment

/-- A fragment without a fault is decoded. -/
theorem fault?_eq_none_iff : f.fault? = none ↔ f.Decodes := by
  rw [fault?, PathRouting.fault?_eq_none, Decodes]
  simp only [← toOption_eq_some, Percent.toOption_decode f.piece (byteLength f.before)]

/-- Whether a fault of a path is that of one of its fragments, told by the text before the `%` in the
fragment. -/
structure Blames (f : Fragment) (text front : List Char) (fault : Percent.Fault) : Prop where
  /-- The fragment stands in the text of the path, and where something is skipped it is a value. -/
  stands : f.StandsIn text
  /-- The fault names it. -/
  piece : fault.piece = f.piece
  /-- The `%` keeps it from being decoded. -/
  faulty : Percent.FaultyAfter f.piece front fault.cause
  /-- The position of the fault is counted from the place before what is skipped. -/
  position : fault.position = byteLength (f.before ++ front)
  /-- So it is the position of the `%` just when nothing is skipped. -/
  exact : fault.position = byteLength (f.before ++ f.skipped ++ front) ↔ f.skipped = []

end Fragment

/-- A path is read just when all of its fragments are decoded. -/
theorem Path.exists_parse_iff :
    (∃ p, parse text options = .ok p) ↔ ∀ f ∈ fragments options text, f.Decodes := by
  rw [← fault?_eq_none, Path.fault?_parse, List.findSome?_eq_none_iff]
  simp only [Fragment.fault?_eq_none_iff]

theorem byteLength_eq_zero {s : List Char} : byteLength s = 0 ↔ s = [] := by
  cases s with
  | nil => simp
  | cons c s =>
    have hc := c.utf8Size_pos
    simp only [byteLength_cons, reduceCtorEq, iff_false]
    omega

/-- **A path that is not read is blamed for its first fragment that is not decoded**, for what keeps
the fragment from being decoded.  The position of the fault is that of a `%` in the fragment, unless
the fragment is a value with something before it in its list: the position is then too small by the
length of what stands there. -/
theorem fault_of_parse (h : Path.parse text options = .error fault) :
    ∃ passed f left front, Path.fragments options text = passed ++ f :: left ∧
      (∀ g ∈ passed, g.Decodes) ∧ f.Blames text front fault := by
  have hfirst : (Path.fragments options text).findSome? Fragment.fault? = some fault := by
    rw [← Path.fault?_parse, h]
    rfl
  obtain ⟨passed, f, left, hsplit, hf, hpassed⟩ := List.findSome?_eq_some_iff.mp hfirst
  obtain ⟨hpiece, front, hfaulty, hposition⟩ :=
    Percent.decode_eq_error_iff.mp (fault?_eq_some.mp hf)
  have hmem : f ∈ Path.fragments options text := by simp [hsplit]
  refine ⟨passed, f, left, front, hsplit,
    fun g hg => Fragment.fault?_eq_none_iff.mp (hpassed g hg), ?_⟩
  refine ⟨Path.standsIn_of_mem_fragments hmem, hpiece, hfaulty, ?_, ?_⟩
  · rw [byteLength_append, hposition]
  · rw [hposition, ← byteLength_eq_zero]
    simp only [byteLength_append]
    omega

theorem parse_secondValue : Path.parse "/a;b=1,%zz".toList .http
    = .error ⟨['%', 'z', 'z'], 5, .malformedEscape⟩ := by
  have hread : PathElement.readAll .http "/a;b=1,%zz".toList
      = .error ⟨['%', 'z', 'z'], 5, .malformedEscape⟩ := by decide +kernel
  rw [Path.parse, hread]
  rfl

/-- A fault in the second value of a list. -/
theorem fault_of_parse_secondValue : ∃ fault,
    Path.parse "/a;b=1,%zz".toList .http = .error fault ∧
      ∃ passed f left front, Path.fragments .http "/a;b=1,%zz".toList = passed ++ f :: left ∧
        (∀ g ∈ passed, g.Decodes) ∧ f.Blames "/a;b=1,%zz".toList front fault := by
  have h := parse_secondValue
  exact ⟨_, h, fault_of_parse h⟩

/-- There its position is not that of a `%`. -/
theorem fault_of_parse_noPercent : ∃ fault,
    Path.parse "/a;b=1,%zz".toList .http = .error fault ∧
      ¬∃ front back, "/a;b=1,%zz".toList = front ++ '%' :: back ∧
        fault.position = byteLength front := by
  refine ⟨_, parse_secondValue, ?_⟩
  rintro ⟨front, back, htext, hposition⟩
  -- the byte at the position is the first one of the list
  have hthere : dropBytes (byteLength front) "/a;b=1,%zz".toList = '%' :: back := by
    rw [htext, dropBytes_append]
  have hlist : dropBytes 5 "/a;b=1,%zz".toList = "1,%zz".toList := by decide +kernel
  rw [← hposition, hlist] at hthere
  simp at hthere

end Faults

end PathRouting
