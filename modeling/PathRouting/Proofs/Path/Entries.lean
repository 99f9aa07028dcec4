import PathRouting.Path.Matrix
import PathRouting.Proofs.Fallible

/-!
# What matrix variables are read as

The parts between semicolons are read one by one.  Each makes at most one entry, a name with values,
and the entries are added in turn.  What names and values stand for is left open here, so that reading
them decoded can be compared with reading them as they stand.

## Main definitions

* `Percent.decode?` — what a piece stands for, wherever it is.
* `Matrix.entryWith`, `Matrix.readWith` — the entry of a part, and the variables of a text.

## Main results

* `Percent.toOption_decode` — a piece stands for the same wherever it is.
* `Matrix.toOption_read` — matrix variables are the entries of their parts, added in turn.
-/

namespace PathRouting

open Text

namespace Percent

/-- Whether an escape is well formed does not depend on its place. -/
theorem toOption_octets (s : List Char) (position position' : Nat) :
    (octets s position).toOption = (octets s position').toOption := by
  fun_induction octets s position generalizing position' with
  | case1 => rfl
  | case2 position high low rest b hb ih => simp [octets, hb, ih (position' + 3)]
  | case3 position high low rest hb => simp [octets, hb]
  | case4 s position hshort =>
    rcases s with _ | ⟨high, _ | ⟨low, rest⟩⟩
    · rfl
    · rfl
    · exact absurd rfl (hshort high low rest)
  | case5 c s position hc ih => simp [octets_cons hc, ih (position' + c.utf8Size)]

theorem toOption_decode_eq (s : List Char) (position : Nat) :
    (decode s position).toOption = (octets s position).toOption.bind ofUtf8? := by
  unfold decode
  rcases octets s position with fault | bytes
  · rfl
  · cases h : ofUtf8? bytes <;> simp [h]

/-- The text that a piece stands for, if it is decoded. -/
def decode? (piece : List Char) : Option (List Char) := (decode piece 0).toOption

/-- What a piece stands for does not depend on its place. -/
theorem toOption_decode (piece : List Char) (position : Nat) :
    (decode piece position).toOption = decode? piece := by
  rw [decode?, toOption_decode_eq, toOption_decode_eq, toOption_octets piece position 0]

theorem decode?_eq_some {piece text : List Char} :
    decode? piece = some text ↔ ∀ position, decode piece position = .ok text := by
  simp only [← toOption_eq_some, toOption_decode piece, forall_const]

end Percent

namespace Matrix

/-- The entry that a part makes whose name and values stand for what `read` says.  Without a name
there is none, and neither is there with a list that has no values; a name alone has one empty
value. -/
def entryWith (read : List Char → Option (List Char)) (part : List Char) : Option Matrix :=
  match cutAt '=' part with
  | some (rawName, list) =>
    (read rawName).bind fun name =>
      if isBlank name then some []
      else (((pieces ',' list).filter (· ≠ [])).mapM read).map fun values =>
        if values = [] then [] else [(name, values)]
  | none => (read part).map fun name => if isBlank name then [] else [(name, [[]])]

/-- The variables of a text whose names and values stand for what `read` says. -/
def readWith (read : List Char → Option (List Char)) (text : List Char) : Option Matrix :=
  ((pieces ';' text).mapM (entryWith read)).map fun entries => merge [] entries.flatten

theorem merge_merge (m entries entries' : Matrix) :
    (m.merge entries).merge entries' = m.merge (entries ++ entries') := by
  rw [merge, merge, merge, List.foldl_append]

/-- The values in a list are what they stand for, one by one, apart from empty ones. -/
theorem toOption_readValues (list : List Char) (position : Nat) : (readValues list position).toOption
    = ((pieces ',' list).filter (· ≠ [])).mapM Percent.decode? := by
  rw [readValues, toOption_mapM]
  simp only [Percent.toOption_decode]

/-- A part adds the entry that it makes. -/
theorem toOption_readPart (m : Matrix) (part : List Char) (position : Nat) :
    (readPart m part position).toOption = (entryWith Percent.decode? part).map m.merge := by
  unfold readPart entryWith
  rcases cutAt '=' part with _ | ⟨rawName, list⟩
  · rw [toOption_bind, Percent.toOption_decode, Option.map_map]
    rcases Percent.decode? part with _ | name
    · rfl
    · show some (if isBlank name then m else m.addAll name [[]])
        = some (m.merge (if isBlank name then [] else [(name, [[]])]))
      split <;> rfl
  · rw [toOption_bind, Percent.toOption_decode, Option.map_bind]
    rcases Percent.decode? rawName with _ | name
    · rfl
    · show Except.toOption (if isBlank name then pure m else _)
        = Option.map m.merge (if isBlank name then some [] else _)
      split
      · rfl
      · rw [toOption_bind, toOption_readValues, Option.map_map]
        rcases ((pieces ',' list).filter (· ≠ [])).mapM Percent.decode? with _ | _ | ⟨v, vs⟩
        · rfl
        · rfl
        · rfl

/-- Parts add the entries that they make in turn. -/
theorem toOption_readParts (m : Matrix) (parts : List (List Char)) (position : Nat) :
    (readParts m parts position).toOption
      = (parts.mapM (entryWith Percent.decode?)).map fun entries => m.merge entries.flatten := by
  induction parts generalizing m position with
  | nil => rfl
  | cons part rest ih =>
    rw [readParts, toOption_bind, toOption_readPart, List.mapM_cons]
    rcases entryWith Percent.decode? part with _ | entry
    · rfl
    · show (readParts (m.merge entry) rest _).toOption = _
      rw [ih]
      show _ = Option.map _ (Option.bind (rest.mapM (entryWith Percent.decode?)) _)
      rcases rest.mapM (entryWith Percent.decode?) with _ | entries
      · rfl
      · show some ((m.merge entry).merge entries.flatten) = some (m.merge (entry :: entries).flatten)
        rw [merge_merge, List.flatten_cons]

/-- **Matrix variables are the entries of their parts**, added in turn. -/
theorem toOption_read (text : List Char) (position : Nat) :
    (Matrix.read text position).toOption = readWith Percent.decode? text :=
  toOption_readParts [] _ _

end Matrix

end PathRouting
