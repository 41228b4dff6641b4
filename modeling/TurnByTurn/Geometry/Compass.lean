import TurnByTurn.Binary64.Rounding
import TurnByTurn.Decimal.Layout

/-! # Compass points

The horizon is cut into eight sectors of 45 degrees, each centred on its compass point.

* **`Compass.ofBearing`** — the compass point of a bearing.
* **`Compass.heading`** — the bearing at the centre of a compass point's sector.
* **`bearingText`** — a bearing in whole degrees. -/

namespace TurnByTurn

/-- The eight points of the compass, clockwise from north. -/
inductive Compass where
  | north
  | northEast
  | east
  | southEast
  | south
  | southWest
  | west
  | northWest
deriving DecidableEq, Repr

namespace Compass

/-- All compass points, clockwise from north. -/
def all : List Compass := [north, northEast, east, southEast, south, southWest, west, northWest]

/-- The abbreviation on the compass card. -/
def label : Compass → String
  | north => "N"
  | northEast => "NE"
  | east => "E"
  | southEast => "SE"
  | south => "S"
  | southWest => "SW"
  | west => "W"
  | northWest => "NW"

/-- The compass point with a given abbreviation. -/
def ofLabel? (label : String) : Option Compass := all.find? (·.label = label)

/-- Abbreviations tell compass points apart. -/
@[simp] theorem ofLabel?_label (c : Compass) : ofLabel? c.label = some c := by
  cases c <;> decide

/-- The bearing of a compass point in degrees. -/
def heading : Compass → Nat
  | north => 0
  | northEast => 45
  | east => 90
  | southEast => 135
  | south => 180
  | southWest => 225
  | west => 270
  | northWest => 315

/-- **The compass point whose sector holds a bearing.** A sector holds its left edge and not its right
one. The bearing is first brought into one turn; one that is no number counts as north. -/
def ofBearing (bearing : Float) : Compass :=
  let b := Binary64.positiveRemainder bearing 360
  if b < 22.5 then north
  else if b < 67.5 then northEast
  else if b < 112.5 then east
  else if b < 157.5 then southEast
  else if b < 202.5 then south
  else if b < 247.5 then southWest
  else if b < 292.5 then west
  else if b < 337.5 then northWest
  -- the second half of the northern sector, and what is no number
  else north

end Compass

/-- **A bearing in whole degrees**, a half rounded away from zero. -/
def bearingText (bearing : Float) : String := toString (Binary64.toInt64 bearing)

end TurnByTurn
