import PathRouting.Proofs.Path.Entries
import PathRouting.Proofs.Path.Split

/-!
# The place of a text in a path

Segments and separators know at which byte of the path they were read, and so do faults.  What a
text is read as does not depend on the place where it is read, nor does it whether it can be read.

## Main definitions

* `PathElement.unplaced` — an element without its place.
* `PathElement.seen` — an element without its place and the text it was read from.
* `Run.Alike` — whether two runs are read as elements that have a property in common.

## Main results

* `unplaced_inj`, `seen_inj` — what is left of an element.
* `Run.alike_text` — texts that have the same parts are alike.
* `toOption_readRuns_of_alike` — runs that are alike one by one are alike together.
-/

namespace PathRouting

/-! ### Elements without their places -/

/-- A segment as it would be at the start of a path. -/
def Segment.unplaced (s : Segment) : Segment := { s with offset := 0 }

namespace PathElement

/-- An element as it would be at the start of a path. -/
def unplaced : PathElement → PathElement
  | separator _ c => separator 0 c
  | segment s => segment s.unplaced

/-- **Without its place an element is its kind, its text, its value and its variables.** -/
theorem unplaced_inj {e e' : PathElement} : e.unplaced = e'.unplaced ↔
    e.isSeparator = e'.isSeparator ∧ e.raw = e'.raw ∧ e.value = e'.value ∧
      e.matrix = e'.matrix := by
  cases e <;> cases e' <;> simp [unplaced, Segment.unplaced, isSeparator, matrix]

theorem raw_unplaced (e : PathElement) : e.unplaced.raw = e.raw := by cases e <;> rfl

/-- The text of elements does not depend on their places. -/
theorem flatMap_raw_unplaced (es : List PathElement) :
    (es.map unplaced).flatMap raw = es.flatMap raw := by
  rw [List.flatMap_map]
  simp only [raw_unplaced]

end PathElement

/-- What patterns see of a segment: its value and its variables. -/
def Segment.seen (s : Segment) : Segment := { s with offset := 0, raw := [] }

namespace PathElement

/-- What patterns see of an element. -/
def seen : PathElement → PathElement
  | separator _ c => separator 0 c
  | segment s => segment s.seen

/-- **What is seen of an element is its kind, its value and its variables.** -/
theorem seen_inj {e e' : PathElement} : e.seen = e'.seen ↔
    e.isSeparator = e'.isSeparator ∧ e.value = e'.value ∧ e.matrix = e'.matrix := by
  cases e <;> cases e' <;> simp [seen, Segment.seen, isSeparator, matrix]

/-- Rows of elements are seen the same when their elements are, one by one. -/
theorem map_seen_inj {es es' : List PathElement} : es.map seen = es'.map seen ↔
    List.Forall₂ (fun e e' => e.isSeparator = e'.isSeparator ∧ e.value = e'.value ∧
      e.matrix = e'.matrix) es es' := by
  rw [← List.forall₂_eq_eq_eq, List.forall₂_map_left_iff, List.forall₂_map_right_iff]
  simp only [seen_inj]

theorem isSeparator_seen (e : PathElement) : e.seen.isSeparator = e.isSeparator := by
  cases e <;> rfl

theorem value_seen (e : PathElement) : e.seen.value = e.value := by cases e <;> rfl

theorem matrix_seen (e : PathElement) : e.seen.matrix = e.matrix := by cases e <;> rfl

theorem segment?_seen (e : PathElement) : e.seen.segment? = e.segment?.map Segment.seen := by
  cases e <;> rfl

theorem seen_unplaced (e : PathElement) : e.unplaced.seen = e.seen := by cases e <;> rfl

/-- Elements that are the same but for their places are seen the same. -/
theorem map_seen_congr {es es' : List PathElement} (h : es.map unplaced = es'.map unplaced) :
    es.map seen = es'.map seen := by
  have hseen := congrArg (List.map seen) h
  simpa only [List.map_map, Function.comp_def, seen_unplaced] using hseen

end PathElement

/-! ### Reading -/

/-- Which value a segment has does not depend on its place. -/
theorem Segment.toOption_valueOf (options : PathOptions) (offset : Nat) (raw : List Char) :
    (valueOf options offset raw).toOption = (valueOf options 0 raw).toOption := by
  unfold valueOf
  split
  · rw [Percent.toOption_decode, Percent.toOption_decode]
  · rfl

/-- A segment is read from its two parts, whatever its place is. -/
theorem Segment.toOption_read (options : PathOptions) (offset : Nat) (raw : List Char) :
    (read options offset raw).toOption
      = (Matrix.readWith Percent.decode? (matrixPart options raw)).bind fun matrix =>
          (valueOf options 0 raw).toOption.map (⟨offset, raw, ·, matrix⟩) := by
  rw [read_eq, toOption_bind]
  congr 1
  · split
    · next hnil =>
      rw [hnil, ← Matrix.toOption_read [] 0]
      rfl
    · exact Matrix.toOption_read ..
  · funext matrix
    rw [toOption_map, toOption_valueOf]

/-- A segment that is read has the matrix variables of its text. -/
theorem Segment.readWith_of_read {options : PathOptions} {offset : Nat} {raw : List Char}
    {s : Segment} (h : Segment.read options offset raw = .ok s) :
    Matrix.readWith Percent.decode? (matrixPart options raw) = some s.matrix := by
  have hread := toOption_read options offset raw
  rw [h] at hread
  obtain ⟨matrix, hmatrix, hvalue⟩ := Option.bind_eq_some_iff.mp hread.symm
  obtain ⟨value, -, rfl⟩ := Option.map_eq_some_iff.mp hvalue
  exact hmatrix

/-- Whether two runs are read as elements of which `f` shows the same, wherever they stand. -/
def Run.Alike {β : Type} (options : PathOptions) (f : PathElement → β) : Run → Run → Prop
  | .separator, .separator => ∀ offset offset',
    f (.separator offset options.separator) = f (.separator offset' options.separator)
  | .text raw, .text raw' => ∀ offset offset',
    (Segment.read options offset raw).toOption.map (fun s => f (.segment s))
      = (Segment.read options offset' raw').toOption.map fun s => f (.segment s)
  | _, _ => False

/-- Runs that are alike in what `f` shows are alike in what can be told from that. -/
theorem Run.Alike.map {β γ : Type} {options : PathOptions} {f : PathElement → β} {r r' : Run}
    (h : r.Alike options f r') (g : β → γ) : r.Alike options (g ∘ f) r' := by
  cases r with
  | separator =>
    cases r' with
    | text raw' => exact h
    | separator => exact fun offset offset' => congrArg g (h offset offset')
  | text raw =>
    cases r' with
    | separator => exact h
    | text raw' =>
      intro offset offset'
      have hmap := congrArg (Option.map g) (h offset offset')
      rw [Option.map_map, Option.map_map] at hmap
      exact hmap

/-- **Runs that are alike one by one are alike together.** -/
theorem PathElement.toOption_readRuns_of_alike {β : Type} {options : PathOptions}
    {f : PathElement → β} {rs rs' : List Run} (h : List.Forall₂ (Run.Alike options f) rs rs')
    (offset offset' : Nat) : (readRuns options offset rs).toOption.map (·.map f)
      = (readRuns options offset' rs').toOption.map (·.map f) := by
  have hcons : ∀ (e : PathElement) (found : Option (List PathElement)),
      (found.map (e :: ·)).map (·.map f) = (found.map (·.map f)).map (f e :: ·) := by
    intro e found
    rw [Option.map_map, Option.map_map]
    rfl
  induction h generalizing offset offset' with
  | nil => rfl
  | @cons r r' rs rs' halike _ ih =>
    cases r with
    | separator =>
      cases r' with
      | text raw' => exact halike.elim
      | separator =>
        simp only [readRuns, bind_pure_comp, toOption_fmap, hcons]
        rw [ih _ (offset' + options.separator.utf8Size), halike offset offset']
    | text raw =>
      cases r' with
      | separator => exact halike.elim
      | text raw' =>
        have hsegment := halike offset offset'
        have hrest := ih (offset + Text.byteLength raw) (offset' + Text.byteLength raw')
        simp only [readRuns, bind_pure_comp, toOption_bind, toOption_fmap]
        generalize (Segment.read options offset raw).toOption = found at hsegment ⊢
        generalize (Segment.read options offset' raw').toOption = found' at hsegment ⊢
        rcases found with _ | s <;> rcases found' with _ | s'
        · rfl
        · simp at hsegment
        · simp at hsegment
        · obtain hs : f (.segment s) = f (.segment s') := by simpa using hsegment
          simp only [Option.bind_some, hcons, hrest, hs]

/-- Texts with the same two parts are alike for all that does not show the text or the place. -/
theorem Run.alike_text {β : Type} {options : PathOptions} {f : PathElement → β}
    {raw raw' : List Char}
    (hf : ∀ offset offset' value matrix, f (.segment ⟨offset, raw, value, matrix⟩)
      = f (.segment ⟨offset', raw', value, matrix⟩))
    (hmatrix : Segment.matrixPart options raw = Segment.matrixPart options raw')
    (hvalue : (Segment.valueOf options 0 raw).toOption
      = (Segment.valueOf options 0 raw').toOption) :
    (Run.text raw).Alike options f (.text raw') := by
  intro offset offset'
  simp only [Segment.toOption_read, hmatrix, hvalue, Option.map_bind, Option.map_map,
    Function.comp_def, hf offset offset']

/-- A run is alike itself wherever it stands, but for its place. -/
theorem Run.alike_unplaced (options : PathOptions) (r : Run) :
    r.Alike options PathElement.unplaced r := by
  cases r with
  | separator => exact fun _ _ => rfl
  | text raw => exact alike_text (fun _ _ _ _ => rfl) rfl rfl

/-- A run is seen the same wherever it stands. -/
theorem Run.alike_seen (options : PathOptions) (r : Run) : r.Alike options PathElement.seen r := by
  have hseen : PathElement.seen ∘ PathElement.unplaced = PathElement.seen :=
    funext PathElement.seen_unplaced
  exact hseen ▸ (r.alike_unplaced options).map PathElement.seen

end PathRouting
