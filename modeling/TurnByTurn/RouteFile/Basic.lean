import TurnByTurn.Guidance.Instruction

/-! # Route files

A route file holds the instructions of a route as they were written down, before anything is checked:
turns are numbers, points are lists of coordinates, lengths may be missing.

* **`RouteFile.Entry`** — an instruction as written.
* **`RouteFile`** — the entries of a route. -/

namespace TurnByTurn

/-- **An instruction as written.** -/
structure RouteFile.Entry where
  /-- The number of the turn. -/
  sign : Int32
  name : String := ""
  viaPosition : Option UInt64 := none
  note : Option Note := none
  /-- Longitude, latitude and perhaps elevation of every point. -/
  points : List (List Float)
  /-- The length of the stretch, left to be computed when absent. -/
  distance : Option Float := none
  time : Milliseconds := 0
deriving DecidableEq

/-- **A route as written.** -/
structure RouteFile where
  entries : List RouteFile.Entry
deriving DecidableEq

namespace RouteFile

/-- The coordinates of all points of the route, entry by entry. -/
def coordinates (file : RouteFile) : List (List Float) := file.entries.flatMap (·.points)

/-- The coordinates of the entries of two routes follow each other. -/
@[simp] theorem coordinates_append (xs ys : List Entry) :
    coordinates ⟨xs ++ ys⟩ = coordinates ⟨xs⟩ ++ coordinates ⟨ys⟩ := by
  simp [coordinates]

end RouteFile

end TurnByTurn
