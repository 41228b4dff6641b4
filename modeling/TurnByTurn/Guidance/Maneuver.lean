import TurnByTurn.Guidance.Route
import TurnByTurn.Guidance.Sentence

/-! # Maneuvers

A maneuver is an instruction as it is shown to the driver: a sentence, a heading and the part of the
route's points that belongs to it.

* **`Maneuver`** — an instruction rendered for display.
* **`Route.maneuvers`** — the maneuvers of a route. -/

namespace TurnByTurn

/-- **An instruction rendered for display.** -/
structure Maneuver where
  text : String
  sign : Int32
  street : String
  distance : Meters
  time : Milliseconds
  /-- The indices of its first and its last point among the points of the route. -/
  interval : Nat × Nat
  direction : String
  azimuth : String
  viaPosition : Option UInt64
  /-- Absent when the instruction has no note. -/
  note : Option Note
deriving DecidableEq

namespace Maneuver

/-- The maneuver of an instruction whose points begin at index `start`. It reaches to the first point
of its follower; the last instruction ends at its own last point. -/
def ofInstruction (phrasebook : Phrasebook) (calculator : Calculator) (start : Nat)
    (i : Instruction) (follower : Option Instruction) : Maneuver where
  text := i.turn.sentence phrasebook i.name
  sign := i.turn.sign
  street := i.name
  distance := i.distance
  time := i.time
  interval := (start, start + i.line.size - if follower.isNone then 1 else 0)
  direction := i.direction calculator follower
  azimuth := i.azimuth calculator follower
  viaPosition := i.turn.viaPosition?
  note := if i.note.isEmpty then none else some i.note

end Maneuver

namespace Route

/-- The maneuvers of the instructions, whose points begin at index `start`. -/
def maneuversFrom (phrasebook : Phrasebook) (calculator : Calculator) (start : Nat) :
    List Instruction → List Maneuver
  | [] => []
  | i :: rest =>
      -- the end of an interval is the beginning of the next one
      let m := Maneuver.ofInstruction phrasebook calculator start i rest.head?
      m :: maneuversFrom phrasebook calculator m.interval.2 rest

/-- **The maneuvers of a route**, one for each instruction. Each begins where the one before ends. -/
def maneuvers (phrasebook : Phrasebook) (calculator : Calculator) (route : Route) : List Maneuver :=
  maneuversFrom phrasebook calculator 0 route.instructions

/-- There is one maneuver for each instruction. -/
theorem length_maneuversFrom (phrasebook : Phrasebook) (calculator : Calculator) (start : Nat)
    (instructions : List Instruction) :
    (maneuversFrom phrasebook calculator start instructions).length = instructions.length := by
  induction instructions generalizing start with
  | nil => rfl
  | cons i rest ih => simp [maneuversFrom, ih]

end Route

end TurnByTurn
