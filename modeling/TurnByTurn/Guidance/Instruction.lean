import TurnByTurn.Geometry.Calculator
import TurnByTurn.Geometry.Compass
import TurnByTurn.Guidance.Milliseconds
import TurnByTurn.Guidance.Turn

/-! # Instructions

An instruction is a turn and the stretch of road after it, up to the next instruction. The last point
of the stretch is not stored: it is the first point of the instruction that follows.

* **`Instruction`** — turn, street, note, points, length and duration.
* **`Instruction.segments`** — the lengths between successive points, the follower's first point
  included.
* **`Instruction.measured`** — the instruction with its length computed, which is the sum of its
  segments by **`Instruction.distance_measured`**.
* **`Instruction.bearing?`**, **`Instruction.heading`** — the direction in which the stretch begins. -/

namespace TurnByTurn

/-- Extra information about an instruction, like a warning about the road ahead. It is carried along
and never interpreted. -/
structure Note where
  importance : Int32 := 0
  message : String := ""
deriving DecidableEq, Repr

/-- Whether there is no information at all. -/
def Note.isEmpty (a : Note) : Bool := a.importance = 0 && a.message.isEmpty

/-- **A turn and the stretch of road after it.** -/
structure Instruction where
  turn : Turn
  /-- The street being entered, empty when it has no name. -/
  name : String
  line : Polyline
  note : Note := {}
  /-- The length of the stretch, up to the next instruction. -/
  distance : Meters := .zero
  /-- The duration of the stretch. -/
  time : Milliseconds := 0

namespace Instruction

/-- **The last instruction of a route**: a single point, no length, no duration. -/
def finish (p : Point) : Instruction where
  turn := .finish
  name := ""
  line := .ofPoints p.elevation.isSome [p]

/-- **The label of an instruction**: sign, street, length and duration. -/
def label (i : Instruction) : String :=
  "(" ++ toString i.turn.sign.toInt ++ "," ++ i.name ++ "," ++ i.distance.display ++ ","
    ++ toString i.time.toNat ++ ")"

/-- **Where the instruction takes place.** -/
def firstPoint (i : Instruction) : Except GuidanceError Point :=
  match i.line.first? with
  | some p => .ok p
  | none => .error (.emptyInstruction i.label)

/-! ## Segments -/

/-- The lengths from each point of a line to its successor, which is the point after it or, for the last
one, the point `next`. The line ends at a point without successor. -/
def segmentsFrom (distance : Point → Point → Meters) (next : Option Point) : List Point → List Meters
  | [] => []
  | p :: rest =>
      match rest.head?.or next with
      | some successor => distance p successor :: segmentsFrom distance next rest
      | none => []

/-- **The lengths between successive points**, the point `next` after the last one included, in the
dimension of the instruction's own points. -/
def segments (calculator : Calculator) (i : Instruction) (next : Option Point) : List Meters :=
  segmentsFrom (calculator.distance i.line.is3d) next i.line.points

/-- **The instruction with its length computed**: the lengths between its own points are summed, and then
the one from the last of them on to the point `next` is added. -/
def measured (calculator : Calculator) (i : Instruction) (next : Option Point) : Instruction :=
  let distance := calculator.distance i.line.is3d
  let own := Meters.sum (List.zipWith distance i.line.points i.line.points.tail)
  { i with
    distance :=
      match i.line.last?, next with
      | some last, some next => own + distance last next
      | _, _ => own }

/-- Each point of a line is followed by its successor. -/
theorem segmentsFrom_eq_zipWith (distance : Point → Point → Meters) (next : Option Point)
    (points : List Point) :
    segmentsFrom distance next points
      = List.zipWith distance (points ++ next.toList) (points ++ next.toList).tail := by
  induction points with
  | nil => cases next <;> rfl
  | cons p rest ih =>
      rw [segmentsFrom, ih]
      cases rest with
      | nil => cases next <;> rfl
      | cons q rest => rfl

/-- **The segments are the lengths between neighbours** among the points and the point `next`. -/
theorem segments_eq_zipWith (calculator : Calculator) (i : Instruction) (next : Option Point) :
    i.segments calculator next
      = List.zipWith (calculator.distance i.line.is3d) (i.line.points ++ next.toList)
          (i.line.points ++ next.toList).tail :=
  segmentsFrom_eq_zipWith ..

/-- One more point at the end of a line adds one length at the end. -/
theorem zipWith_tail_concat {α β : Type} (f : α → α → β) {l : List α} {last : α}
    (h : l.getLast? = some last) (a : α) :
    List.zipWith f (l ++ [a]) (l ++ [a]).tail = List.zipWith f l l.tail ++ [f last a] := by
  induction l with
  | nil => cases h
  | cons b l ih =>
      cases l with
      | nil =>
          obtain rfl := Option.some.inj h
          rfl
      | cons c l =>
          rw [List.getLast?_cons_cons] at h
          exact congrArg (f b c :: ·) (ih h)

/-- **A computed length is the sum of the segments**: the length on to the point `next` is added last. -/
theorem distance_measured (calculator : Calculator) (i : Instruction) (next : Option Point) :
    (i.measured calculator next).distance = .sum (i.segments calculator next) := by
  simp only [segments_eq_zipWith, measured, Polyline.last?]
  cases next with
  | none => cases i.line.points.getLast? <;> simp
  | some next =>
      cases hlast : i.line.points.getLast? with
      | none =>
          rw [List.getLast?_eq_none_iff.mp hlast]
          rfl
      | some last => rw [Option.toList_some, zipWith_tail_concat _ hlast, Meters.sum_concat]

/-- Nothing but its length is changed in a measured instruction. -/
theorem measured_eq (calculator : Calculator) (i : Instruction) (next : Option Point) :
    i.measured calculator next = { i with distance := .sum (i.segments calculator next) } :=
  congrArg (fun d => { i with distance := d }) (distance_measured calculator i next)

/-- The number of segments: one for every point that has a successor. -/
theorem length_segments (calculator : Calculator) (i : Instruction) (next : Option Point) :
    (i.segments calculator next).length = i.line.size + next.toList.length - 1 := by
  simp [segments_eq_zipWith, Polyline.size]

/-! ## Heading -/

/-- The point after the first one: the second point, or the follower's first point when there is only
one. -/
def secondPoint? (i : Instruction) (follower : Option Instruction) : Option Point :=
  match i.line.points with
  | [] => none
  | [_] => follower.bind (·.line.first?)
  | _ :: p :: _ => some p

/-- **The bearing of the first segment.** There is none when the instruction has no segment and no
follower to borrow a point from. -/
def bearing? (calculator : Calculator) (i : Instruction) (follower : Option Instruction) :
    Option Float := do
  let second ← i.secondPoint? follower
  let first ← i.line.first?
  return calculator.bearing first second

/-- The compass point of the first segment, empty when there is none. -/
def direction (calculator : Calculator) (i : Instruction) (follower : Option Instruction) : String :=
  match i.bearing? calculator follower with
  | some b => (Compass.ofBearing b).label
  | none => ""

/-- The bearing of the first segment in whole degrees, empty when there is none. -/
def azimuth (calculator : Calculator) (i : Instruction) (follower : Option Instruction) : String :=
  match i.bearing? calculator follower with
  | some b => bearingText b
  | none => ""

/-- **Compass point and bearing of the first segment**, both empty when there is none. -/
def heading (calculator : Calculator) (i : Instruction) (follower : Option Instruction) :
    String × String :=
  match i.bearing? calculator follower with
  | some b => ((Compass.ofBearing b).label, bearingText b)
  | none => ("", "")

end Instruction

end TurnByTurn
