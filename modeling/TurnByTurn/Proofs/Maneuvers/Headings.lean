import TurnByTurn.Proofs.Binary64.Values
import TurnByTurn.Proofs.Maneuvers.Intervals

/-! # The headings of maneuvers

A heading is taken from an instruction and its follower alone, but it shows where the whole trace goes
on from there.

* **`Instruction.bearing?_eq`** — the bearing of an instruction is that of its first leg.
* **`Route.bearing?_of_trace`** — that leg leads from one sample to the next one.
* **`Route.HeadsAlong`**, **`Route.headsAlong_maneuvers`** — headings as directions in a trace. -/

namespace TurnByTurn

/-- Every compass point has an abbreviation. -/
theorem Compass.label_ne_empty (c : Compass) : c.label ≠ "" := by
  cases c <;> decide

/-! ## One instruction -/

namespace Instruction

variable {calculator : Calculator} {i : Instruction} {follower : Option Instruction} {b : Float}

/-- **The bearing of an instruction is that of its first leg**, if it has any: the second point is
either its own or the first one of its follower. -/
theorem bearing?_eq (calculator : Calculator) (follower : Option Instruction)
    (hne : i.line.points ≠ []) :
    i.bearing? calculator follower
      = (i.legs (follower.bind (·.line.first?)))[0]?.map fun leg =>
          calculator.bearing leg.1 leg.2 := by
  unfold bearing? secondPoint? legs Polyline.first?
  cases hpoints : i.line.points with
  | nil => exact absurd hpoints hne
  | cons p rest =>
      cases rest with
      | nil => cases follower.bind (·.line.points.head?) <;> rfl
      | cons q rest => rfl

/-- An instruction with a bearing shows its compass point. -/
theorem direction_of_bearing? (h : i.bearing? calculator follower = some b) :
    i.direction calculator follower = (Compass.ofBearing b).label := by
  rw [direction, h]

/-- An instruction with a bearing shows its degrees. -/
theorem azimuth_of_bearing? (h : i.bearing? calculator follower = some b) :
    i.azimuth calculator follower = bearingText b := by
  rw [azimuth, h]

/-- **Only an instruction without bearing shows no compass point.** -/
theorem direction_eq_empty_iff :
    i.direction calculator follower = "" ↔ i.bearing? calculator follower = none := by
  rw [direction]
  cases i.bearing? calculator follower with
  | none => exact ⟨fun _ => rfl, fun _ => rfl⟩
  | some b => exact ⟨fun h => absurd h (Compass.label_ne_empty _), fun h => absurd h (by simp)⟩

end Instruction

/-! ## A whole route -/

namespace Route

variable {phrasebook : Phrasebook} {calculator : Calculator} {route : Route} {start : Milliseconds}
  {samples : List Sample} {i : Instruction} {k : ℕ}

/-- **Headings as directions in a trace**, from the sample at which an interval begins to the next
one. -/
structure HeadsAlong (calculator : Calculator) (route : Route) (samples : List Sample)
    (maneuvers : List Maneuver) : Prop where
  /-- Every interval begins at a sample. -/
  inside : ∀ m ∈ maneuvers, m.interval.1 < samples.length
  /-- Where another sample follows, both texts tell the bearing to it: the one as a compass point, the other
  rounded to whole degrees. -/
  onward : ∀ m ∈ maneuvers, m.interval.1 + 1 < samples.length →
    ∃ a b, samples[m.interval.1]? = some a ∧ samples[m.interval.1 + 1]? = some b ∧
      m.direction = (Compass.ofBearing (calculator.bearing a.point b.point)).label ∧
      m.azimuth = toString (Binary64.saturatedInt (calculator.bearing a.point b.point))
  /-- At the last sample there is nothing to tell. -/
  still : ∀ m ∈ maneuvers, m.interval.1 + 1 = samples.length → m.direction = "" ∧ m.azimuth = ""
  /-- That is the case for the last instruction, when it has a single point, and for no other. -/
  direction_eq_empty_iff : ∀ (k : ℕ) (m : Maneuver) (i : Instruction), maneuvers[k]? = some m →
    route.instructions[k]? = some i →
      (m.direction = "" ↔ k + 1 = route.instructions.length ∧ i.line.size = 1)

/-- **The bearing of an instruction leads from its first sample to the next one** of the trace, whichever
instruction that one belongs to. -/
theorem bearing?_of_trace (h : route.trace calculator start = .ok samples)
    (hi : route.instructions[k]? = some i) :
    i.bearing? calculator route.instructions[k + 1]?
      = (neighbours (samples.map (·.point)))[pointsBefore route.instructions k]?.map fun leg =>
          calculator.bearing leg.1 leg.2 := by
  have hpoints : ∀ j ∈ route.instructions, j.line.points ≠ [] :=
    fun j hj => points_ne_nil_of_traceFrom h hj
  have hne := hpoints i (List.mem_of_getElem? hi)
  rw [Instruction.bearing?_eq calculator _ hne, ← onward?,
    ← getElem?_neighbours_points hpoints hi (List.length_pos_iff.mpr hne), Nat.add_zero,
    map_point_of_traceFrom h]

/-- **An instruction has no bearing exactly when its first sample is the last one.** -/
theorem bearing?_eq_none_iff (h : route.trace calculator start = .ok samples)
    (hi : route.instructions[k]? = some i) :
    i.bearing? calculator route.instructions[k + 1]? = none ↔
      pointsBefore route.instructions k + 1 = samples.length := by
  obtain ⟨sample, hsample, -⟩ := exists_getElem?_pointsBefore h hi
  have hlt := (List.getElem?_eq_some_iff.mp hsample).1
  rw [bearing?_of_trace h hi, Option.map_eq_none_iff, List.getElem?_eq_none_iff, length_neighbours,
    List.length_map]
  omega

/-- **The first sample of an instruction is the last one of all** exactly when it is the single point of
the last instruction. -/
theorem pointsBefore_add_one_eq_iff (h : route.trace calculator start = .ok samples)
    (hi : route.instructions[k]? = some i) :
    pointsBefore route.instructions k + 1 = samples.length ↔
      k + 1 = route.instructions.length ∧ i.line.size = 1 := by
  have hk : k < route.instructions.length := (List.getElem?_eq_some_iff.mp hi).1
  have hsize : 0 < i.line.size :=
    List.length_pos_iff.mpr (points_ne_nil_of_traceFrom h (List.mem_of_getElem? hi))
  have hsucc := pointsBefore_succ hi
  rw [length_of_trace h, totalPoints_eq]
  constructor
  · intro hend
    have hlast : k + 1 = route.instructions.length := by
      by_contra hne
      -- the first sample of the follower would come after the last one
      have hf := List.getElem?_eq_getElem (l := route.instructions) (i := k + 1) (by omega)
      obtain ⟨sample, hsample, -⟩ := exists_getElem?_pointsBefore h hf
      have hlt := (List.getElem?_eq_some_iff.mp hsample).1
      rw [length_of_trace h, totalPoints_eq] at hlt
      omega
    rw [← hlast] at hend
    exact ⟨hlast, by omega⟩
  · rintro ⟨hlast, hone⟩
    rw [← hlast, hsucc, hone]

/-- **The headings of a route that can be traced are directions in its trace.** -/
theorem headsAlong_maneuvers (phrasebook : Phrasebook)
    (h : route.trace calculator start = .ok samples) :
    HeadsAlong calculator route samples (route.maneuvers phrasebook calculator) where
  inside m hm := by
    obtain ⟨k, hk⟩ := List.mem_iff_getElem?.mp hm
    obtain ⟨i, hi, rfl⟩ := exists_of_getElem?_maneuvers hk
    obtain ⟨sample, hsample, -⟩ := exists_getElem?_pointsBefore h hi
    exact (List.getElem?_eq_some_iff.mp hsample).1
  onward m hm hlt := by
    obtain ⟨k, hk⟩ := List.mem_iff_getElem?.mp hm
    obtain ⟨i, hi, rfl⟩ := exists_of_getElem?_maneuvers hk
    obtain ⟨a, ha⟩ : ∃ a, samples[pointsBefore route.instructions k]? = some a :=
      ⟨_, List.getElem?_eq_getElem (Nat.lt_of_succ_lt hlt)⟩
    obtain ⟨b, hb⟩ : ∃ b, samples[pointsBefore route.instructions k + 1]? = some b :=
      ⟨_, List.getElem?_eq_getElem hlt⟩
    have hleg : (neighbours (samples.map (·.point)))[pointsBefore route.instructions k]?
        = some (a.point, b.point) := by
      rw [getElem?_neighbours_eq_some_iff, List.getElem?_map, List.getElem?_map, ha, hb]
      exact ⟨rfl, rfl⟩
    have hbearing := bearing?_of_trace h hi
    rw [hleg, Option.map_some] at hbearing
    refine ⟨a, b, ha, hb, ?_⟩
    have hazimuth := Instruction.azimuth_of_bearing? hbearing
    rw [bearingText, Binary64.toInt64_eq] at hazimuth
    exact ⟨Instruction.direction_of_bearing? hbearing, hazimuth⟩
  still m hm hend := by
    obtain ⟨k, hk⟩ := List.mem_iff_getElem?.mp hm
    obtain ⟨i, hi, rfl⟩ := exists_of_getElem?_maneuvers hk
    have hbearing := (bearing?_eq_none_iff h hi).mpr hend
    constructor
    · exact Instruction.direction_eq_empty_iff.mpr hbearing
    · show i.azimuth calculator route.instructions[k + 1]? = ""
      rw [Instruction.azimuth, hbearing]
  direction_eq_empty_iff k m i hm hi := by
    obtain ⟨i', hi', rfl⟩ := exists_of_getElem?_maneuvers hm
    obtain rfl : i' = i := Option.some.inj (hi'.symm.trans hi)
    rw [← pointsBefore_add_one_eq_iff h hi, ← bearing?_eq_none_iff h hi]
    exact Instruction.direction_eq_empty_iff

theorem headsAlong_maneuvers_threeLegs :
    threeLegs.trace .plane 500 = .ok threeLegsSamples ∧
      HeadsAlong .plane threeLegs threeLegsSamples (threeLegs.maneuvers .keys .plane) :=
  have h : threeLegs.trace .plane 500 = .ok threeLegsSamples := by decide +kernel
  ⟨h, headsAlong_maneuvers .keys h⟩

end Route

end TurnByTurn
