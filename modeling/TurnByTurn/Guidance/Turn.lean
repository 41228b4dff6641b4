import TurnByTurn.Guidance.Error

/-! # Turns

What the driver does at an instruction. Turns have numbers, their signs: negative to the left,
positive to the right.

* **`Turn.sign`** — the number of a turn.
* **`Turn.ofSign`** — the turn of a number; a via point also needs its position. -/

namespace TurnByTurn

/-- **What the driver does.** A reached via point carries its position among the via points, counted
from one. -/
inductive Turn where
  | sharpLeft
  | left
  | slightLeft
  | straight
  | slightRight
  | right
  | sharpRight
  | finish
  | reachedVia (position : UInt64)
deriving DecidableEq, Repr

namespace Turn

/-- **The number of a turn.** -/
def sign : Turn → Int32
  | sharpLeft => -3
  | left => -2
  | slightLeft => -1
  | straight => 0
  | slightRight => 1
  | right => 2
  | sharpRight => 3
  | finish => 4
  | reachedVia _ => 5

/-- The position of a reached via point. -/
def viaPosition? : Turn → Option UInt64
  | reachedVia position => some position
  | _ => none

/-- **The turn of a number.** The position is only looked at for a via point, and needed there. -/
def ofSign (sign : Int32) (viaPosition : Option UInt64) : Except GuidanceError Turn :=
  match sign.toInt with
  | -3 => .ok sharpLeft
  | -2 => .ok left
  | -1 => .ok slightLeft
  | 0 => .ok straight
  | 1 => .ok slightRight
  | 2 => .ok right
  | 3 => .ok sharpRight
  | 4 => .ok finish
  | 5 =>
      match viaPosition with
      | some position => .ok (reachedVia position)
      | none => .error .missingViaPosition
  | _ => .error (.unknownTurn sign)

/-- A turn comes back from its number and position. -/
@[simp] theorem ofSign_sign (turn : Turn) : ofSign turn.sign turn.viaPosition? = .ok turn := by
  cases turn <;> rfl

end Turn

end TurnByTurn
