import TurnByTurn.Guidance.Route

/-! # Traces

A trace gives every point of a route the time at which it is reached. The duration of an instruction
is spread over its segments in proportion to their lengths, each share rounded on its own; the next
instruction starts at the exact end of the one before, whatever the rounding did.

* **`share`** — the time for one segment.
* **`Instruction.steps`** — the shares of an instruction.
* **`Instruction.samples`** — the samples of an instruction, and when the next one starts.
* **`Route.trace`** — the samples of a route. -/

namespace TurnByTurn

/-- A place and the time at which it is reached. -/
structure Sample where
  latitude : Float
  longitude : Float
  /-- Present exactly in three dimensions, NaN where a point has none. -/
  elevation : Option Float
  time : Milliseconds
deriving DecidableEq

/-- The sample of a point. -/
def Sample.at (is3d : Bool) (p : Point) (time : Milliseconds) : Sample where
  latitude := p.latitude
  longitude := p.longitude
  elevation := if is3d then some p.height else none
  time := time

/-- **The time for one segment**: the duration times the segment's part of the whole length, computed
in doubles, rounded half away from zero and held inside 64 bits. -/
def share (time : Milliseconds) (whole segment : Meters) : Milliseconds :=
  Binary64.toUInt64 (time.toFloat * segment.value / whole.value)

namespace Instruction

/-- **The times for the segments of an instruction.** An instruction without duration takes none. -/
def steps (calculator : Calculator) (i : Instruction) (next : Option Point) : List Milliseconds :=
  (i.segments calculator next).map fun segment =>
    if i.time = 0 then 0 else share i.time i.distance segment

/-- **What can be said against tracing an instruction** before the clock runs, the first thing first:
no points of its own, no points of its follower, a duration without a length, a duration over a
length that is none. -/
def obstacle (i : Instruction) (follower : Option Instruction) : Option GuidanceError :=
  if i.line.points.isEmpty then some (.emptyInstruction i.label)
  else
    match follower with
    | some f => if f.line.points.isEmpty then some (.emptyInstruction f.label) else unmeasured
    | none => unmeasured
where
  /-- A duration that no length can carry. -/
  unmeasured : Option GuidanceError :=
    if i.time ≠ 0 ∧ i.distance.isZero then some (.zeroDistance i.label)
    else if i.time ≠ 0 ∧ !i.distance.isValid then some (.invalidDistance i.label)
    else none

/-- **The samples of an instruction that starts at `start`**, one for each of its points, and the time
at which the next instruction starts. Also the step to the follower's first point has to fit the
clock, though its sample belongs to the follower. -/
def samples (calculator : Calculator) (i : Instruction) (follower : Option Instruction)
    (start : Milliseconds) : Except GuidanceError (List Sample × Milliseconds) :=
  match i.obstacle follower with
  | some error => .error error
  | none =>
      match start.add? i.time,
          Milliseconds.clock? start (i.steps calculator (follower.bind (·.line.first?))) with
      -- with a follower there is one reading more than there are points
      | some stop, some readings =>
          .ok (List.zipWith (Sample.at i.line.is3d) i.line.points readings, stop)
      | _, _ => .error (.timeOverflow i.label)

end Instruction

namespace Route

/-- The samples of the instructions, the first of which starts at `start`. -/
def traceFrom (calculator : Calculator) (start : Milliseconds) :
    List Instruction → Except GuidanceError (List Sample)
  | [] => .ok []
  | i :: rest =>
      match i.samples calculator rest.head? start with
      | .error error => .error error
      | .ok (own, stop) =>
          match traceFrom calculator stop rest with
          | .error error => .error error
          | .ok later => .ok (own ++ later)

/-- **The samples of a route that starts at `start`**, one for each of its points. Every instruction
starts at the exact end of the one before. -/
def trace (calculator : Calculator) (route : Route) (start : Milliseconds) :
    Except GuidanceError (List Sample) :=
  traceFrom calculator start route.instructions

end Route

end TurnByTurn
