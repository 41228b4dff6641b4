import TurnByTurn.Guidance.Instruction

/-! # Routes

A route is a list of instructions in driving order.

* **`Route.totalDistance`** — the sum of the lengths.
* **`Route.totalTime`** — the exact sum of the durations, or the instruction at which it outgrows 64
  bits.
* **`Route.totalPoints`** — how many points the route has. -/

namespace TurnByTurn

/-- Instructions in driving order. -/
structure Route where
  instructions : List Instruction := []

namespace Route

/-- The route with one more instruction at its end. -/
def push (route : Route) (i : Instruction) : Route := ⟨route.instructions ++ [i]⟩

/-- The number of instructions. -/
def size (route : Route) : Nat := route.instructions.length

/-- The sum of the lengths. -/
def totalDistance (route : Route) : Meters := .sum (route.instructions.map (·.distance))

/-- The sum of `total` and the durations of the instructions. -/
def addTimes (total : Milliseconds) : List Instruction → Except GuidanceError Milliseconds
  | [] => .ok total
  | i :: rest =>
      match total.add? i.time with
      | some next => addTimes next rest
      | none => .error (.timeOverflow i.label)

/-- **The exact sum of the durations.** The error names the first instruction with which the sum no
longer fits. -/
def totalTime (route : Route) : Except GuidanceError Milliseconds := addTimes 0 route.instructions

/-- The points of the route in driving order. -/
def points (route : Route) : List Point := route.instructions.flatMap (·.line.points)

/-- How many points the route has. -/
def totalPoints (route : Route) : Nat := route.points.length

/-- The instruction at an index and the one after it. -/
def withFollower? (route : Route) (index : Nat) : Option (Instruction × Option Instruction) :=
  route.instructions[index]?.map (·, route.instructions[index + 1]?)

end Route

end TurnByTurn
