/-! # What can be wrong with a route

* **`CoordinateError`** — what is wrong with a coordinate array.
* **`GuidanceError`** — what is wrong with an instruction or a route.
* **`GuidanceError.message`** — the sentence for it. -/

namespace TurnByTurn

/-- What is wrong with a coordinate array. -/
inductive CoordinateError where
  /-- Its length is that of the other dimension. -/
  | mixedDimensions
  /-- It has neither two nor three numbers. -/
  | wrongLength
  /-- It is not a place on the earth. -/
  | outOfRange
deriving DecidableEq, Repr

/-- The reason in words. -/
def CoordinateError.reason : CoordinateError → String
  | mixedDimensions => "mixed 2D and 3D points"
  | wrongLength => "expected [lon, lat] or [lon, lat, ele]"
  | outOfRange => "latitude or longitude out of range"

/-- **What is wrong with an instruction or a route.** Instructions are named by their labels. -/
inductive GuidanceError where
  | emptyInstruction (label : String)
  | unknownTurn (sign : Int32)
  | missingViaPosition
  | zeroDistance (label : String)
  | invalidDistance (label : String)
  | timeOverflow (label : String)
  | invalidCoordinates (index : Nat) (error : CoordinateError)
deriving DecidableEq, Repr

/-- **The sentence that tells what is wrong.** -/
def GuidanceError.message : GuidanceError → String
  | emptyInstruction label => "Instruction must contain at least one point " ++ label
  | unknownTurn sign => "Turn code not found: " ++ toString sign.toInt
  | missingViaPosition => "Reached via instruction without a via position"
  | zeroDistance label => "Instruction has a time but no distance " ++ label
  | invalidDistance label => "Distance must be finite and not negative " ++ label
  | timeOverflow label => "Time overflows after " ++ label
  | invalidCoordinates index error =>
      "Invalid coordinates at point " ++ toString index ++ ": " ++ error.reason

end TurnByTurn
