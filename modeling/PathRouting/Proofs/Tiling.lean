/-!
# Things laid end to end

The elements of a path stand one after the other in its text, and so do the elements of a pattern.
Each has a place and a size, and the next one starts where it ends.

## Main definitions

* `Tiles` — a row of things that fills the stretch between two places.

## Main results

* `tiles_append` — a row is laid by laying its parts.
-/

namespace PathRouting

variable {α : Type} {place size : α → Nat} {start stop : Nat} {l l' : List α}

/-- Whether things of given places and sizes fill the stretch from `start` to `stop`, each starting
where the one before it ends. -/
def Tiles (place size : α → Nat) : Nat → List α → Nat → Prop
  | start, [], stop => start = stop
  | start, a :: l, stop => place a = start ∧ Tiles place size (start + size a) l stop

@[simp] theorem tiles_nil : Tiles place size start [] stop ↔ start = stop := Iff.rfl

@[simp] theorem tiles_cons {a : α} : Tiles place size start (a :: l) stop ↔
    place a = start ∧ Tiles place size (start + size a) l stop := Iff.rfl

/-- **A row is laid by laying its parts**, the second one where the first one ends. -/
theorem tiles_append : Tiles place size start (l ++ l') stop ↔
    ∃ mid, Tiles place size start l mid ∧ Tiles place size mid l' stop := by
  induction l generalizing start with
  | nil => simp
  | cons a l ih => simp [ih, and_assoc]

end PathRouting
