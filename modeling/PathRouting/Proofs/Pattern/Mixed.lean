import PathRouting.Proofs.Pattern.Grammar
import PathRouting.Proofs.Regex.Leads
import PathRouting.Proofs.Regex.Room

/-!
# The regular expression of a mixed segment

The text that a mixed segment is compiled from is well formed whatever the segment holds: characters
with a meaning are escaped, and all groups are closed.  It stands for the parts of the segment in a
row, with as many groups as there are captures.  So nothing but its size can make it be refused.

## Main definitions

* `Part.source` — the regular expression of a part as a text.
* `Part.item` — the same as an item of the reader.

## Main results

* `leads_parts` — the reader goes through parts one by one.
* `read?_mixedSource` — what the text of a mixed segment stands for.
* `groupCount_mixedExpr` — how many groups it has.
* `countP_isOpen_of_fits` — how many wildcards and captures a segment has room for.
-/

namespace PathRouting

open Regex

/-! ### Sources -/

/-- The regular expression for a part as a text. -/
def Part.source : Part → List Char
  | char c => quote [c]
  | star => ['.', '*']
  | question => ['.']
  | capture _ => ['(', '.', '*', ')']

theorem flatMap_source_cons (c : Char) (pieces : List Piece) :
    (Piece.cons c pieces).flatMap Piece.source
      = quote [c] ++ pieces.flatMap Piece.source := by
  have hquote (t : List Char) : quote (c :: t) = quote [c] ++ quote t := by simp [quote]
  rcases Piece.cons_eq c pieces with ⟨t, rest, rfl, hcons⟩ | hcons
  · rw [hcons, List.flatMap_cons, List.flatMap_cons, Piece.source, hquote, List.append_assoc]
    rfl
  · rw [hcons]
    rfl

/-- The pieces of parts have the text of the parts. -/
theorem flatMap_source_piecesOf (parts : List Part) :
    (piecesOf parts).flatMap Piece.source = parts.flatMap Part.source := by
  induction parts with
  | nil => rfl
  | cons part parts ih =>
    rw [List.flatMap_cons, ← ih]
    cases part with
    | char c => exact flatMap_source_cons c (piecesOf parts)
    | _ => rfl

/-! ### Reading -/

section Reading

variable {ignoreCase : Bool} {r : Reader} {rest : List Char}

/-- What a part is read as, `groups` captures standing before it. -/
def Part.item (ignoreCase : Bool) (groups : Nat) (part : Part) : Item where
  expr := part.expr ignoreCase groups
  depth := match part with
    | star => 1
    | capture _ => 2
    | _ => 0
  repeatable := true

/-- The reader after a part. -/
def Part.read (ignoreCase : Bool) (r : Reader) (part : Part) : Reader :=
  { r.push (part.item ignoreCase r.groups) with groups := r.groups + part.names.length }

/-- **A part is read as its item**, if no `?` follows. -/
theorem leads_part (hflags : r.flags = baseFlags ignoreCase)
    (hrest : ∀ c ∈ rest.head?, c ≠ '?') (part : Part) :
    r.Leads (part.source ++ rest) (part.read ignoreCase r) rest := by
  cases part with
  | char c => exact leads_quote hflags c
  | star => exact leads_dotStar hflags hrest
  | question => exact leads_dot hflags
  | capture name =>
    have hverbose : r.flags.verbose = false := by rw [hflags]; rfl
    have hopen (f : Flags) (hf : f.verbose = false) (s : List Char) :
        readMove f '(' ('.' :: s) = some (.openCapture, '.' :: s) := by
      simp only [readMove, skipBlank_eq_self hf]
      rfl
    have hbody : r.openCapture.Leads ('.' :: '*' :: ')' :: rest)
        (r.openCapture.push ⟨anyText, 1, true⟩) (')' :: rest) :=
      leads_dotStar hflags (by simp)
    have hclose : (r.openCapture.push ⟨anyText, 1, true⟩).Leads (')' :: rest)
        ((Part.capture name).read ignoreCase r) rest :=
      .move (r := r.openCapture.push ⟨anyText, 1, true⟩) hverbose (by rfl) rfl (Nat.le_refl _)
    exact (Reader.Leads.move hverbose (hopen r.flags hverbose _) rfl (Nat.le_refl _)).trans
      (hbody.trans hclose)

/-- The text of a part does not start with `?`, nor does what ends a mixed segment. -/
theorem head?_source (part : Part) (s : List Char) : ∀ c ∈ (part.source ++ s).head?, c ≠ '?' := by
  intro c hc
  cases part with
  | char d =>
    cases hmeta : isMeta d with
    | false =>
      obtain rfl : d = c := by simpa [Part.source, quote, hmeta] using hc
      rintro rfl
      simp [isMeta, metaChars] at hmeta
    | true =>
      obtain rfl : '\\' = c := by simpa [Part.source, quote, hmeta] using hc
      decide
  | star =>
    obtain rfl : '.' = c := by simpa [Part.source] using hc
    decide
  | question =>
    obtain rfl : '.' = c := by simpa [Part.source] using hc
    decide
  | capture name =>
    obtain rfl : '(' = c := by simpa [Part.source] using hc
    decide

theorem head?_sources (parts : List Part) {s : List Char} (hs : ∀ c ∈ s.head?, c ≠ '?') :
    ∀ c ∈ (parts.flatMap Part.source ++ s).head?, c ≠ '?' := by
  cases parts with
  | nil => exact hs
  | cons part parts =>
    rw [List.flatMap_cons, List.append_assoc]
    exact head?_source part _

/-- **The reader goes through parts one by one.** -/
theorem leads_parts (hflags : r.flags = baseFlags ignoreCase)
    (hrest : ∀ c ∈ rest.head?, c ≠ '?') (parts : List Part) :
    r.Leads (parts.flatMap Part.source ++ rest) (parts.foldl (Part.read ignoreCase) r) rest := by
  induction parts generalizing r with
  | nil => exact .refl r rest
  | cons part parts ih =>
    rw [List.flatMap_cons, List.append_assoc, List.foldl_cons]
    exact (leads_part hflags (head?_sources parts hrest) part).trans (ih hflags)

/-- What is left of parts in the reader: their expressions, none of them deep. -/
theorem foldl_read (ignoreCase : Bool) (parts : List Part) (r : Reader) : ∃ items : List Item,
    parts.foldl (Part.read ignoreCase) r
      = { r with
        items := items.reverse ++ r.items
        groups := r.groups + (namesOfParts parts).length } ∧
    items.map (·.expr) = exprsOf ignoreCase r.groups parts ∧ ∀ i ∈ items, i.depth ≤ 2 := by
  induction parts generalizing r with
  | nil => exact ⟨[], rfl, rfl, by simp⟩
  | cons part parts ih =>
    obtain ⟨items, hread, hexprs, hdepth⟩ := ih (part.read ignoreCase r)
    refine ⟨part.item ignoreCase r.groups :: items, ?_, ?_, ?_⟩
    · rw [List.foldl_cons, hread]
      simp [Part.read, Reader.push, namesOfParts, Nat.add_assoc]
    · rw [List.map_cons, hexprs]
      rfl
    · refine List.forall_mem_cons.mpr ⟨?_, hdepth⟩
      cases part <;> simp [Part.item]

/-- Two items or more in a row. -/
theorem row_eq (first last : Item) (items : List Item) :
    Item.row (last :: (items.reverse ++ [first]))
      = ⟨Expr.sequence (first.expr :: items.map (·.expr) ++ [last.expr]),
          ((last :: (items.reverse ++ [first])).map (·.depth)).foldl Nat.max 0 + 1, true⟩ := by
  have hexprs : (last :: (items.reverse ++ [first])).reverse.map (·.expr)
      = first.expr :: items.map (·.expr) ++ [last.expr] := by simp
  rw [← hexprs]
  rcases items.reverse with _ | ⟨i, later⟩ <;> rfl

theorem foldl_max_le {depths : List Nat} {start bound : Nat} (hstart : start ≤ bound)
    (h : ∀ d ∈ depths, d ≤ bound) : depths.foldl Nat.max start ≤ bound := by
  induction depths generalizing start with
  | nil => exact hstart
  | cons d depths ih =>
    obtain ⟨hd, hdepths⟩ := List.forall_mem_cons.mp h
    exact ih (Nat.max_le.mpr ⟨hstart, hd⟩) hdepths

/-- **The text of a mixed segment is well formed**, and stands for its parts in a row. -/
theorem read?_mixedSource (ignoreCase : Bool) (parts : List Part) :
    ∃ item, read? (baseFlags ignoreCase) (mixedSource (piecesOf parts)) = some item ∧
      item.expr = mixedExpr ignoreCase parts := by
  let first : Item := ⟨.look .textStart, 0, true⟩
  let last : Item := ⟨.look .textEnd, 0, true⟩
  let begun : Reader := (Reader.start (baseFlags ignoreCase)).push first
  obtain ⟨items, hitems, hexprs, hdepth⟩ := foldl_read ignoreCase parts begun
  have hsource : mixedSource (piecesOf parts) = '^' :: (parts.flatMap Part.source ++ ['$']) := by
    rw [mixedSource, flatMap_source_piecesOf, List.cons_append]
  have hbegun : (Reader.start (baseFlags ignoreCase)).Leads
      ('^' :: (parts.flatMap Part.source ++ ['$'])) begun (parts.flatMap Part.source ++ ['$']) :=
    .move rfl rfl rfl (Nat.le_refl _)
  have hleads : (Reader.start (baseFlags ignoreCase)).Leads (mixedSource (piecesOf parts))
      ((parts.foldl (Part.read ignoreCase) begun).push last) [] := by
    rw [hsource]
    refine hbegun.trans ((leads_parts rfl (by simp) parts).trans ?_)
    rw [hitems]
    exact .move rfl rfl rfl (Nat.le_refl _)
  have hcontent : ((parts.foldl (Part.read ignoreCase) begun).push last).content
      = Item.row (last :: (items.reverse ++ [first])) := by
    rw [hitems]
    rfl
  refine ⟨_, read?_of_readAll hleads.readAll_eq (by rw [hitems]; rfl) ?_, ?_⟩
  · rw [hcontent, row_eq]
    have hle : ∀ d ∈ (last :: (items.reverse ++ [first])).map (·.depth), d ≤ 2 := by
      intro d hd
      obtain ⟨i, hi, rfl⟩ := List.mem_map.mp hd
      rcases List.mem_cons.mp hi with rfl | hi
      · exact Nat.zero_le 2
      rcases List.mem_append.mp hi with hi | hi
      · exact hdepth i (List.mem_reverse.mp hi)
      · rw [List.mem_singleton.mp hi]
        exact Nat.zero_le 2
    have hmax := foldl_max_le (Nat.zero_le 2) hle
    show _ + 1 ≤ 250
    omega
  · rw [hcontent, row_eq, hexprs]
    rfl

end Reading

/-! ### Groups -/

/-- The greatest number of groups of some expressions. -/
def maxGroups (es : List Expr) : Nat := (es.map Expr.groupCount).foldr max 0

@[simp] theorem maxGroups_nil : maxGroups [] = 0 := rfl

@[simp] theorem maxGroups_cons (e : Expr) (es : List Expr) :
    maxGroups (e :: es) = max e.groupCount (maxGroups es) := rfl

theorem maxGroups_append (es es' : List Expr) :
    maxGroups (es ++ es') = max (maxGroups es) (maxGroups es') :=
  Expr.Combines.append Expr.groupCount es es'

/-- A row has the groups of what is in it. -/
theorem groupCount_sequence (es : List Expr) : (Expr.sequence es).groupCount = maxGroups es :=
  Expr.combines_groupCount.sequence es

theorem groupCount_charExpr (f : Flags) (c : Char) : (f.charExpr c).groupCount = 0 := by
  rw [Flags.charExpr]
  split
  · rfl
  · rw [Expr.ofSet]
    split <;> rfl

/-- The groups of parts are numbered on from those before them. -/
theorem maxGroups_exprsOf (ignoreCase : Bool) (groups : Nat) (parts : List Part) :
    maxGroups (exprsOf ignoreCase groups parts)
      = if namesOfParts parts = [] then 0 else groups + (namesOfParts parts).length + 1 := by
  induction parts generalizing groups with
  | nil => rfl
  | cons part parts ih =>
    have hnames : namesOfParts (part :: parts) = part.names ++ namesOfParts parts :=
      List.flatMap_cons
    rw [exprsOf, maxGroups_cons, ih, hnames]
    by_cases hnil : namesOfParts parts = []
    · cases part with
      | char c => simp [Part.names, Part.expr, hnil, groupCount_charExpr]
      | _ => simp [Part.names, Part.expr, hnil, Expr.groupCount, anyText]
    · cases part with
      | char c => simp [Part.names, Part.expr, hnil, groupCount_charExpr]
      | capture name =>
        have hgroup : ((Part.capture name).expr ignoreCase groups).groupCount = groups + 2 := rfl
        rw [if_neg hnil, if_neg (by simp [Part.names]), hgroup, Part.names, List.length_append,
          List.length_singleton]
        omega
      | _ => simp [Part.names, Part.expr, hnil, Expr.groupCount, anyText]

/-- **A mixed segment has as many groups as captures.** -/
theorem groupCount_mixedExpr (ignoreCase : Bool) (parts : List Part) :
    (mixedExpr ignoreCase parts).groupCount - 1 = (namesOfParts parts).length := by
  have hends (l : Look) : (Expr.look l).groupCount = 0 := rfl
  rw [mixedExpr, groupCount_sequence, List.cons_append, maxGroups_cons, maxGroups_append,
    maxGroups_exprsOf, maxGroups_cons, hends, hends, maxGroups_nil]
  split
  · next hnil => rw [hnil]; rfl
  · omega

/-! ### Size -/

/-- Whether a part stands for any characters. -/
def Part.isOpen : Part → Bool
  | char _ => false
  | _ => true

/-- Every part that stands for any characters is a place for one. -/
theorem countP_isOpen_le_dots (ignoreCase : Bool) (parts : List Part) :
    parts.countP Part.isOpen ≤ (mixedExpr ignoreCase parts).dots := by
  have hsum : ∀ groups, parts.countP Part.isOpen
      ≤ ((exprsOf ignoreCase groups parts).map Expr.dots).foldr (· + ·) 0 := by
    induction parts with
    | nil => exact fun _ => Nat.le_refl _
    | cons part parts ih =>
      intro groups
      rw [exprsOf, List.map_cons, List.foldr_cons, List.countP_cons, Nat.add_comm]
      have hpart : (if part.isOpen then 1 else 0) ≤ (part.expr ignoreCase groups).dots := by
        cases part <;> simp [Part.isOpen, Part.expr, anyText, Expr.dots]
      exact Nat.add_le_add hpart (ih _)
  rw [mixedExpr, Expr.combines_dots.sequence, List.cons_append, List.map_cons, List.foldr_cons,
    Expr.Combines.append]
  have hparts := hsum 0
  omega

/-- **A mixed segment that fits has no more than 10877 wildcards and captures.** -/
theorem countP_isOpen_of_fits {ignoreCase : Bool} {parts : List Part}
    (h : (mixedExpr ignoreCase parts).fits = true) : parts.countP Part.isOpen ≤ 10877 := by
  have hdots := Expr.dots_of_fits h
  have hopen := countP_isOpen_le_dots ignoreCase parts
  rw [Footprint.limit] at hdots
  omega

end PathRouting
