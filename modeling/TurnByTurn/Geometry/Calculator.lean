import TurnByTurn.Geometry.Meters
import TurnByTurn.Geometry.Point

/-! # Distances and bearings

A `Calculator` measures the way between two points. There are two: on the sphere of the earth, and on
a plane whose coordinates are meters.

* **`Calculator`** — planar length, length with elevation, and bearing.
* **`withClimb`** — the usual length with elevation, from the planar one.
* **`Calculator.greatCircle`**, **`Calculator.plane`** — the two calculators. -/

namespace TurnByTurn

/-- **The length of a slope** over a planar length, from the elevations of its ends. Where one of
them is missing the planar length stands. -/
def withClimb (planar : Meters) (a b : Point) : Meters :=
  if a.height.isNaN || b.height.isNaN then planar
  else
    let climb := b.height - a.height
    ⟨(planar.value * planar.value + climb * climb).sqrt⟩

/-- **A way to measure between two points.** -/
structure Calculator where
  /-- The length between two points, elevation left aside. -/
  distance2d : Point → Point → Meters
  /-- The length between two points with their elevations. -/
  distance3d : Point → Point → Meters := fun a b => withClimb (distance2d a b) a b
  /-- The direction from the first point to the second in degrees, north zero, clockwise. -/
  bearing : Point → Point → Float

namespace Calculator

/-- The length between two points in the given dimension. -/
def distance (calculator : Calculator) (is3d : Bool) : Point → Point → Meters :=
  if is3d then calculator.distance3d else calculator.distance2d

/-! ## Angles -/

/-- The ratio of a circle's circumference to its diameter. -/
def pi : Float := 3.14159265358979323846

/-- Degrees as radians. -/
def radians (degrees : Float) : Float := degrees * (pi / 180)

/-- Radians as degrees. -/
def degrees (radians : Float) : Float := radians * (180 / pi)

/-! ## On the sphere -/

/-- The mean radius of the earth in meters. -/
def earthRadius : Float := 6371008.8

/-- **The length of the great circle between two points**, by the haversine formula. -/
def greatCircleDistance (a b : Point) : Meters :=
  let θ₁ := radians a.latitude
  let θ₂ := radians b.latitude
  -- differences are taken in degrees, before they become radians
  let south := (radians (b.latitude - a.latitude) / 2).sin
  let east := (radians (b.longitude - a.longitude) / 2).sin
  let h := south * south + θ₁.cos * θ₂.cos * (east * east)
  ⟨earthRadius * (2 * h.sqrt.asin)⟩

/-- **The direction in which the great circle leaves the first point.** -/
def greatCircleBearing (a b : Point) : Float :=
  let φ₁ := radians a.latitude
  let φ₂ := radians b.latitude
  -- here radians come first
  let Δ := radians b.longitude - radians a.longitude
  let s := φ₂.cos * Δ.sin
  let c := φ₁.cos * φ₂.sin - φ₁.sin * φ₂.cos * Δ.cos
  let turn := Binary64.remainder (degrees (Float.atan2 s c) + 360) 360
  Binary64.positiveRemainder turn 360

/-- **Great-circle lengths on the sphere of the earth.** -/
def greatCircle : Calculator where
  distance2d := greatCircleDistance
  bearing := greatCircleBearing

/-! ## On the plane -/

/-- **Straight lengths on a plane**, longitude and latitude taken as coordinates in meters. -/
def plane : Calculator where
  distance2d a b :=
    ⟨Binary64.hypotenuse (a.longitude - b.longitude) (a.latitude - b.latitude)⟩
  bearing a b :=
    let east := b.longitude - a.longitude
    let north := b.latitude - a.latitude
    Binary64.positiveRemainder (degrees (Float.atan2 east north)) 360

end Calculator

end TurnByTurn
