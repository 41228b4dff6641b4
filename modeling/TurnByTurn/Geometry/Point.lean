import TurnByTurn.Binary64.Basic

/-! # Points

A point has a latitude, a longitude and perhaps an elevation. A `Polyline` is a list of points that
agree on having one.

* **`Point.height`** — the elevation, NaN where there is none.
* **`Polyline.push`** — appends a point after giving it the line's dimension.
* **`Polyline.ofPoints`** — a line of given points. -/

namespace TurnByTurn

/-- A place on the map, in degrees, with an optional elevation in meters. -/
structure Point where
  latitude : Float
  longitude : Float
  elevation : Option Float
deriving DecidableEq

namespace Point

/-- The elevation as a number, NaN where there is none. -/
def height (p : Point) : Float := p.elevation.getD Binary64.nan

/-- **The point in the given dimension**: in three dimensions a missing elevation becomes NaN, in two
an elevation is dropped. -/
def fit (is3d : Bool) (p : Point) : Point :=
  { p with elevation := if is3d then some p.height else none }

/-- A fitted point has an elevation exactly in three dimensions. -/
@[simp] theorem isSome_elevation_fit (is3d : Bool) (p : Point) :
    (p.fit is3d).elevation.isSome = is3d := by
  cases is3d <;> rfl

/-- Fitting keeps a point that already has the dimension. -/
theorem fit_eq_self {is3d : Bool} {p : Point} (h : p.elevation.isSome = is3d) : p.fit is3d = p := by
  obtain ⟨latitude, longitude, elevation⟩ := p
  cases elevation <;> subst h <;> rfl

/-- Equality of doubles in every coordinate. -/
instance : BEq Point where
  beq p q := p.latitude == q.latitude && p.longitude == q.longitude && p.elevation == q.elevation

end Point

/-- **The points of a stretch of road in driving order.** Either all of them have an elevation or
none has. -/
structure Polyline where
  is3d : Bool
  points : List Point
  uniform : ∀ p ∈ points, p.elevation.isSome = is3d

namespace Polyline

/-- The line without points. -/
def empty (is3d : Bool) : Polyline := ⟨is3d, [], by simp⟩

/-- **A line of the given points**, each fitted to the dimension. -/
def ofPoints (is3d : Bool) (points : List Point) : Polyline where
  is3d := is3d
  points := points.map (Point.fit is3d)
  uniform := by simp

/-- **The line with one more point at its end**, fitted to the line's dimension. -/
def push (line : Polyline) (p : Point) : Polyline where
  is3d := line.is3d
  points := line.points ++ [p.fit line.is3d]
  uniform q hq := by
    rcases List.mem_append.1 hq with h | h
    · exact line.uniform q h
    · obtain rfl := List.mem_singleton.1 h
      simp

/-- A push adds one point and keeps the others. -/
@[simp] theorem points_push (line : Polyline) (p : Point) :
    (line.push p).points = line.points ++ [p.fit line.is3d] := rfl

/-- A push keeps the dimension. -/
@[simp] theorem is3d_push (line : Polyline) (p : Point) : (line.push p).is3d = line.is3d := rfl

/-- Points that already have the dimension are taken as they are. -/
theorem points_ofPoints {is3d : Bool} {points : List Point}
    (h : ∀ p ∈ points, p.elevation.isSome = is3d) : (ofPoints is3d points).points = points := by
  simp only [ofPoints]
  conv => rhs; rw [← List.map_id points]
  exact List.map_congr_left fun p hp => Point.fit_eq_self (h p hp)

/-- Where the line starts. -/
def first? (line : Polyline) : Option Point := line.points.head?

/-- Where the line ends. -/
def last? (line : Polyline) : Option Point := line.points.getLast?

/-- The number of points. -/
def size (line : Polyline) : Nat := line.points.length

/-- Same dimension and the same points, by equality of doubles. -/
instance : BEq Polyline := ⟨fun a b => a.is3d == b.is3d && a.points == b.points⟩

end Polyline

end TurnByTurn
