import PathRouting.Proofs.Regex.Leads

/-!
# Calling a property by its name

An expression calls a property by a name in braces, as in `\p{Greek}`, or its complement, as in
`\P{Greek}`.  The name is looked up among the properties that characters have or do not have, the
general categories and the scripts.  So an expression of this kind is malformed only if none of them
goes by the name, however it is spelt.

## Main definitions

* `CharSet.propertyNames` — the names of all these.

## Main results

* `read?_property` — a property in braces is read as its set.
* `CharSet.isSome_ofProperty?` — the names that stand for a set.
* `isSome_read?_property` — **what can be called by a name in braces**.
-/

namespace PathRouting.Regex

open Text

/-! ### Reading a name in braces -/

variable {f : Flags} {name rest : List Char} {negated ignoreCase : Bool}

/-- What stands in braces, without free spacing. -/
theorem readBraced_append (hverbose : f.verbose = false) (hname : '}' ∉ name) {n : Nat}
    (hn : name.length < n) : readBraced f n (name ++ '}' :: rest) = some (name, rest) := by
  induction name generalizing n with
  | nil =>
    obtain ⟨n, rfl⟩ : ∃ k, n = k + 1 := ⟨n - 1, by omega⟩
    simp [readBraced, skipBlank_eq_self hverbose]
  | cons c name ih =>
    have hc : c ≠ '}' := (List.ne_of_not_mem_cons hname).symm
    have hmore : '}' ∉ name := List.not_mem_of_not_mem_cons hname
    rw [List.length_cons] at hn
    obtain ⟨n, rfl⟩ : ∃ k, n = k + 1 := ⟨n - 1, by omega⟩
    rw [readBraced, skipBlank_eq_self hverbose, List.cons_append]
    simp only [hc, if_false, ih hmore (by omega : name.length < n), Option.map_some]

/-- The move of a property in braces. -/
theorem readMove_property (hverbose : f.verbose = false) (hunicode : f.unicode = true)
    (hname : '}' ∉ name) :
    readMove f '\\' ((if negated then 'P' else 'p') :: '{' :: (name ++ '}' :: rest))
      = (propertySet? name).map fun found =>
        (.ofExpr (.ofSet (CharSet.complIf negated (f.applyCase found))), rest) := by
  have hbraced : readBraced f ((name ++ '}' :: rest).length + 1) (name ++ '}' :: rest)
      = some (name, rest) := by
    apply readBraced_append hverbose hname
    rw [List.length_append]
    omega
  have hescape : readEscape f ((if negated then 'P' else 'p') :: '{' :: (name ++ '}' :: rest))
      = readProperty f negated ('{' :: (name ++ '}' :: rest)) := by
    cases negated <;> simp [readEscape, isEscapable, isMeta, metaChars]
  show (readEscape f _).map _ = _
  rw [hescape, readProperty, skipBlank_eq_self hverbose, readPropertySet, hbraced]
  simp [hunicode, atomExpr, Function.comp_def]

/-- A property in braces is read as its set, or as the complement after a capital. -/
theorem read?_property (hname : '}' ∉ name) :
    read? (baseFlags ignoreCase)
        ('\\' :: (if negated then 'P' else 'p') :: '{' :: (name ++ ['}']))
      = (propertySet? name).map fun found =>
        ⟨.ofSet (CharSet.complIf negated ((baseFlags ignoreCase).applyCase found)), 0, true⟩ := by
  unfold read?
  rw [Reader.readAll_cons (r := .start (baseFlags ignoreCase)) (skipBlank_eq_self rfl _)]
  show (Option.bind (Option.bind (readMove (baseFlags ignoreCase) _ _) _) _) = _
  rw [readMove_property rfl rfl hname]
  cases propertySet? name with
  | none => rfl
  | some found =>
    simp only [Option.map_some, Option.bind_some, List.length_cons]
    -- nothing is left, so the item is all that is read
    show (Option.bind (Reader.readAll _ _ []) _) = _
    rw [Reader.readAll_nil (Reader.skipBlank_nil _)]
    rfl

/-! ### The names -/

namespace NamedSet

theorem isSome_find? (sets : List NamedSet) (name : String) :
    (find? sets name).isSome = true ↔ name ∈ sets.flatMap (·.names) := by
  simp [find?]

end NamedSet

namespace CharSet

/-- The names of the general categories, of their unions and of what else goes with them. -/
def categoryTitles : List String :=
  ["any", "ascii", "assigned", "cn", "unassigned", "c", "other"] ++ categoryNames.flatMap (·.1)

/-- The names that a property can be called by without a value. -/
def propertyNames : List String :=
  binaryProperties.flatMap (·.names) ++ (categoryTitles ++ Script.all.flatMap (·.names))

theorem isSome_ofCategoryName? (name : String) :
    (ofCategoryName? name).isSome = true ↔ name ∈ categoryTitles := by
  have hfind : ((categoryNames.find? (·.1.contains name)).map fun e => categories e.2).isSome = true
      ↔ name ∈ categoryNames.flatMap (·.1) := by simp
  simp only [ofCategoryName?, categoryTitles, List.mem_append, ← hfind]
  grind

theorem isSome_ofScript? (name : String) :
    (ofScript? name).isSome = true ↔ name ∈ Script.all.flatMap (·.names) := by
  simp [ofScript?, script?]

/-- The names that stand for a set. -/
theorem isSome_ofProperty? (name : List Char) :
    (ofProperty? name).isSome = true ↔ normaliseName name ∈ propertyNames := by
  simp only [ofProperty?, propertyNames, Option.isSome_or, Bool.or_eq_true, List.mem_append,
    NamedSet.isSome_find?, isSome_ofCategoryName?, isSome_ofScript?]

end CharSet

theorem findNotEqual_eq_none (h : '=' ∉ name) : propertySet?.findNotEqual name = none := by
  fun_induction propertySet?.findNotEqual name with
  | case1 s => simp at h
  | case2 c s _ ih => rw [ih (List.not_mem_of_not_mem_cons h), Option.map_none]
  | case3 => rfl

/-- A name without a sign has no value. -/
theorem propertySet?_eq_ofProperty? (h : ∀ c ∈ name, c ≠ ':' ∧ c ≠ '=') :
    propertySet? name = CharSet.ofProperty? name := by
  have hcolon : ':' ∉ name := fun hc => (h _ hc).1 rfl
  have hequal : '=' ∉ name := fun hc => (h _ hc).2 rfl
  have hpair : propertySet?.findPair name = none := by
    rw [propertySet?.findPair, findNotEqual_eq_none hequal, cutAt_eq_none.mpr hcolon,
      cutAt_eq_none.mpr hequal, Option.none_or, Option.none_or]
  rw [propertySet?, hpair]

/-- **What can be called by a name in braces** is what tables have a name for. -/
theorem isSome_read?_property (hname : ∀ c ∈ name, c ≠ '}' ∧ c ≠ ':' ∧ c ≠ '=') :
    (read? (baseFlags ignoreCase)
        ('\\' :: (if negated then 'P' else 'p') :: '{' :: (name ++ ['}']))).isSome = true
      ↔ CharSet.normaliseName name ∈ CharSet.propertyNames := by
  rw [read?_property fun hc => (hname _ hc).1 rfl, Option.isSome_map,
    propertySet?_eq_ofProperty? fun c hc => (hname c hc).2, CharSet.isSome_ofProperty?]

example : (CharSet.ofProperty? "Is_Greek".toList).map (·.contains 'λ') = some true := by
  decide +kernel

end PathRouting.Regex
