import TurnByTurn.Binary64.Basic

/-! # Comparing doubles

Comparisons of doubles, moved to the doubles taken apart: nothing is below or equal to what is no
number, and both zeros count as one.

* **`lt_iff_view`**, **`le_iff_view`**, **`beq_eq_view`** — a comparison looks at the views only.
* **`zero_lt_iff`** — to be above zero is to be not below it and not equal to it.
* **`zero_le_iff`** — a finite double is not negative exactly when it is not below zero. -/

namespace TurnByTurn.Binary64

/-- Less, on the doubles taken apart. -/
theorem lt_iff_view {x y : Float} : x < y ↔ (view x).lt (view y) = true := by
  change decide ((view x).lt (view y) = true) = true ↔ _
  rw [decide_eq_true_iff]

/-- Less or equal, on the doubles taken apart. -/
theorem le_iff_view {x y : Float} : x ≤ y ↔ (view x).le (view y) = true := by
  change decide ((view x).le (view y) = true) = true ↔ _
  rw [decide_eq_true_iff]

/-- Equality of doubles, on the doubles taken apart. -/
theorem beq_eq_view (x y : Float) : (x == y) = (view x).beq (view y) := rfl

/-- Zero taken apart. -/
theorem view_zero : view 0 = .zero .positive := rfl

/-- **To be above zero is to be not below it and not equal to it.** What is no number is neither. -/
theorem zero_lt_iff {x : Float} : 0 < x ↔ 0 ≤ x ∧ ¬(x == 0) = true := by
  rw [lt_iff_view, le_iff_view, beq_eq_view, view_zero]
  cases view x with
  | notANumber => decide
  | infinity s => cases s <;> decide
  | zero s =>
      change false = true ↔ true = true ∧ ¬true = true
      decide
  | finite s m e hm =>
      cases s with
      | negative =>
          change false = true ↔ false = true ∧ ¬false = true
          decide
      | positive =>
          change true = true ↔ true = true ∧ ¬false = true
          decide

/-- **A finite double is zero or above exactly when it is not below zero.** -/
theorem zero_le_iff {x : Float} (h : x.isFinite = true) : 0 ≤ x ↔ ¬x < 0 := by
  change (view x).isFinite = true at h
  rw [lt_iff_view, le_iff_view, view_zero]
  cases hx : view x with
  | notANumber =>
      rw [hx] at h
      cases h
  | infinity s =>
      rw [hx] at h
      cases h
  | zero s => cases s <;> decide
  | finite s m e hm =>
      cases s with
      | negative =>
          change false = true ↔ ¬true = true
          decide
      | positive =>
          change true = true ↔ ¬false = true
          decide

end TurnByTurn.Binary64
