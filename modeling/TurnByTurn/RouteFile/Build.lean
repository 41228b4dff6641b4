import TurnByTurn.Guidance.Route
import TurnByTurn.RouteFile.Basic

/-! # From route files to routes

A route file becomes a route when all its coordinates are places on the earth in one dimension, all
its turns exist, all its lengths are lengths, and its durations fit the clock. The coordinates of the
whole route are judged before anything else.

* **`RouteFile.is3d`** — the dimension that the first coordinates set.
* **`point`** — coordinates as a point.
* **`RouteFile.lines`** — the points of the entries.
* **`RouteFile.route`** — the route. -/

namespace TurnByTurn.RouteFile

/-! ## Coordinates -/

/-- **Whether the route has elevations**: the first coordinates of the whole route decide. -/
def is3d (file : RouteFile) : Bool :=
  match file.coordinates.head? with
  | some c => c.length = 3
  | none => false

/-- Whether a point is on the earth. -/
def onEarth (p : Point) : Bool :=
  -90 ≤ p.latitude && p.latitude ≤ 90 && -180 ≤ p.longitude && p.longitude ≤ 180

/-- **Coordinates as a point**: longitude, latitude and, in three dimensions, elevation. -/
def point (is3d : Bool) (c : List Float) : Except CoordinateError Point :=
  match c, is3d with
  | [longitude, latitude], false => checked ⟨latitude, longitude, none⟩
  | [longitude, latitude, elevation], true => checked ⟨latitude, longitude, some elevation⟩
  -- two or three numbers are coordinates, but of the other dimension
  | [_, _], true => .error .mixedDimensions
  | [_, _, _], false => .error .mixedDimensions
  | _, _ => .error .wrongLength
where
  /-- The point, if it is on the earth. -/
  checked (p : Point) : Except CoordinateError Point :=
    if onEarth p then .ok p else .error .outOfRange

/-- A point has an elevation exactly in three dimensions. -/
theorem isSome_elevation_of_point {is3d : Bool} {c : List Float} {p : Point}
    (h : point is3d c = .ok p) : p.elevation.isSome = is3d := by
  unfold point at h
  split at h
  · unfold point.checked at h
    split at h
    · cases h
      rfl
    · cases h
  · unfold point.checked at h
    split at h
    · cases h
      rfl
    · cases h
  · cases h
  · cases h
  · cases h

/-- The points of coordinates, the first of which has the given index in the route. -/
def pointsFrom (is3d : Bool) (index : Nat) : List (List Float) → Except GuidanceError (List Point)
  | [] => .ok []
  | c :: rest =>
      match point is3d c with
      | .error error => .error (.invalidCoordinates index error)
      | .ok p =>
          match pointsFrom is3d (index + 1) rest with
          | .error error => .error error
          | .ok points => .ok (p :: points)

/-- The lines of entries, the first of whose points has the given index in the route. -/
def linesFrom (is3d : Bool) (index : Nat) : List Entry → Except GuidanceError (List Polyline)
  | [] => .ok []
  | entry :: rest =>
      match pointsFrom is3d index entry.points with
      | .error error => .error error
      | .ok points =>
          match linesFrom is3d (index + entry.points.length) rest with
          | .error error => .error error
          | .ok lines => .ok (.ofPoints is3d points :: lines)

/-- **The points of the entries**, one line for each of them. -/
def lines (file : RouteFile) : Except GuidanceError (List Polyline) :=
  linesFrom file.is3d 0 file.entries

/-! ## Instructions -/

/-- **The instruction of an entry** with the given line and the line of the entry after it. The length
is computed where none is written; in either case it has to be one. -/
def Entry.instruction (calculator : Calculator) (entry : Entry) (line : Polyline)
    (next : Option Polyline) : Except GuidanceError Instruction :=
  match Turn.ofSign entry.sign entry.viaPosition with
  | .error error => .error error
  | .ok turn =>
      let unmeasured : Instruction :=
        { turn, name := entry.name, line, note := entry.note.getD {}, time := entry.time }
      let i := match entry.distance with
        | some d => { unmeasured with distance := ⟨d⟩ }
        | none => unmeasured.measured calculator (next.bind (·.first?))
      -- a computed length can outgrow the doubles
      if i.distance.isValid then .ok i else .error (.invalidDistance i.label)

/-- The instructions of entries and their lines. -/
def instructions (calculator : Calculator) :
    List Entry → List Polyline → Except GuidanceError (List Instruction)
  | entry :: entries, line :: lines =>
      match entry.instruction calculator line lines.head? with
      | .error error => .error error
      | .ok i =>
          match instructions calculator entries lines with
          | .error error => .error error
          | .ok rest => .ok (i :: rest)
  | _, _ => .ok []

/-- **The route of a file.** -/
def route (calculator : Calculator) (file : RouteFile) : Except GuidanceError Route :=
  match file.lines with
  | .error error => .error error
  | .ok lines =>
      match instructions calculator file.entries lines with
      | .error error => .error error
      | .ok instructions =>
          match Route.totalTime ⟨instructions⟩ with
          | .error error => .error error
          | .ok _ => .ok ⟨instructions⟩

end TurnByTurn.RouteFile
