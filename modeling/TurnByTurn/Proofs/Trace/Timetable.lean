import TurnByTurn.Proofs.Trace.Samples

/-! # The timetable of a route

What a trace says about every point of a route, wherever it stands and however long the route is.

* **`Route.pointsBefore`**, **`Route.timeBefore`** — points and exact time up to an instruction, and
  **`Route.duration`** of all of them.
* **`Route.exists_samples_of_traceFrom`** — the samples of an instruction stand together in the trace.
* **`Route.exists_getElem?_of_traceFrom`** — the sample of a point: the start, plus the durations of
  the instructions before, plus the steps before it in its own.
* **`Route.IsTimetable`** — what a trace owes to its route.
* **`Route.isTimetable_of_trace`** — every trace is a timetable. -/

namespace TurnByTurn

open Milliseconds (total)

/-! ## Places -/

namespace Sample

/-- The place of a sample. -/
def point (sample : Sample) : Point := ⟨sample.latitude, sample.longitude, sample.elevation⟩

/-- A sample has an elevation exactly in three dimensions. -/
@[simp] theorem isSome_elevation_at (is3d : Bool) (p : Point) (time : Milliseconds) :
    (Sample.at is3d p time).elevation.isSome = is3d := by
  cases is3d <;> rfl

/-- The place of a sample is its point. -/
theorem point_at {is3d : Bool} {p : Point} (h : p.elevation.isSome = is3d) (time : Milliseconds) :
    (Sample.at is3d p time).point = p :=
  Point.fit_eq_self h

end Sample

/-- The places of the samples of an instruction are its points. -/
theorem Instruction.map_point_of_samples {calculator : Calculator} {i : Instruction}
    {follower : Option Instruction} {start stop : Milliseconds} {own : List Sample}
    (h : i.samples calculator follower start = .ok (own, stop)) :
    own.map (·.point) = i.line.points := by
  refine List.ext_getElem? fun j => ?_
  rw [List.getElem?_map]
  cases hp : i.line.points[j]? with
  | none =>
      have hj : own.length ≤ j := by
        rw [length_of_samples h]
        exact List.getElem?_eq_none_iff.mp hp
      rw [List.getElem?_eq_none_iff.mpr hj, Option.map_none]
  | some p =>
      obtain ⟨time, hown, -⟩ := exists_getElem?_of_samples h hp
      rw [hown, Option.map_some, Sample.point_at (i.line.uniform p (List.mem_of_getElem? hp))]

namespace Route

variable {calculator : Calculator} {route : Route} {start : Milliseconds}
  {instructions : List Instruction} {samples : List Sample}

/-! ## Up to an instruction -/

/-- **The points of the instructions before the `k`-th.** -/
def pointsBefore (instructions : List Instruction) (k : ℕ) : ℕ :=
  ((instructions.take k).map (·.line.size)).sum

/-- **The exact sum of the durations.** -/
def duration (instructions : List Instruction) : ℕ := total (instructions.map (·.time))

/-- **The exact duration of the instructions before the `k`-th.** -/
def timeBefore (instructions : List Instruction) (k : ℕ) : ℕ := duration (instructions.take k)

@[simp] theorem pointsBefore_zero (instructions : List Instruction) :
    pointsBefore instructions 0 = 0 := rfl

@[simp] theorem pointsBefore_cons_succ (i : Instruction) (rest : List Instruction) (k : ℕ) :
    pointsBefore (i :: rest) (k + 1) = i.line.size + pointsBefore rest k := by
  simp [pointsBefore]

@[simp] theorem duration_nil : duration [] = 0 := rfl

@[simp] theorem duration_cons (i : Instruction) (rest : List Instruction) :
    duration (i :: rest) = i.time.toNat + duration rest := by
  simp [duration]

@[simp] theorem timeBefore_zero (instructions : List Instruction) : timeBefore instructions 0 = 0 := rfl

@[simp] theorem timeBefore_cons_succ (i : Instruction) (rest : List Instruction) (k : ℕ) :
    timeBefore (i :: rest) (k + 1) = i.time.toNat + timeBefore rest k := by
  simp [timeBefore]

/-! ## Samples of a run -/

/-- A run over an instruction and the ones after it. -/
theorem traceFrom_cons_eq_ok_iff {i : Instruction} {rest : List Instruction} :
    traceFrom calculator start (i :: rest) = .ok samples ↔
      ∃ own stop later, i.samples calculator rest.head? start = .ok (own, stop) ∧
        traceFrom calculator stop rest = .ok later ∧ samples = own ++ later := by
  rw [traceFrom]
  cases hown : i.samples calculator rest.head? start with
  | error error => simp
  | ok result =>
      obtain ⟨own, stop⟩ := result
      dsimp only
      cases hlater : traceFrom calculator stop rest with
      | error error =>
          simp only [reduceCtorEq, false_iff]
          rintro ⟨own', stop', later, h, h', -⟩
          cases h
          cases hlater.symm.trans h'
      | ok later =>
          simp only [Except.ok.injEq]
          constructor
          · rintro rfl
            exact ⟨own, stop, later, rfl, hlater, rfl⟩
          · rintro ⟨own', stop', later', h, h', rfl⟩
            cases h
            cases hlater.symm.trans h'
            rfl

/-- The places of a trace are the points of its instructions. -/
theorem map_point_of_traceFrom (h : traceFrom calculator start instructions = .ok samples) :
    samples.map (·.point) = instructions.flatMap (·.line.points) := by
  induction instructions generalizing start samples with
  | nil =>
      cases h
      rfl
  | cons i rest ih =>
      obtain ⟨own, stop, later, hown, hlater, rfl⟩ := traceFrom_cons_eq_ok_iff.mp h
      rw [List.map_append, Instruction.map_point_of_samples hown, ih hlater, List.flatMap_cons]

/-- A trace has one sample for each point of its instructions. -/
theorem length_of_traceFrom (h : traceFrom calculator start instructions = .ok samples) :
    samples.length = (instructions.flatMap (·.line.points)).length := by
  rw [← map_point_of_traceFrom h, List.length_map]

/-- **The samples of an instruction stand together in the trace**, after those of the instructions
before: they are what the instruction has when it starts at the exact end of the ones before. -/
theorem exists_samples_of_traceFrom (h : traceFrom calculator start instructions = .ok samples)
    {k : ℕ} {i : Instruction} (hi : instructions[k]? = some i) :
    ∃ departure stop : Milliseconds,
      departure.toNat = start.toNat + timeBefore instructions k ∧
        i.samples calculator instructions[k + 1]? departure
          = .ok ((samples.drop (pointsBefore instructions k)).take i.line.size, stop) := by
  induction instructions generalizing start samples k with
  | nil => simp at hi
  | cons head rest ih =>
      obtain ⟨own, stop, later, hown, hlater, rfl⟩ := traceFrom_cons_eq_ok_iff.mp h
      cases k with
      | zero =>
          obtain rfl : head = i := by simpa using hi
          refine ⟨start, stop, by simp, ?_⟩
          rw [pointsBefore_zero, List.drop_zero, ← Instruction.length_of_samples hown,
            List.take_left, ← hown, List.head?_eq_getElem?, List.getElem?_cons_succ]
      | succ k =>
          obtain ⟨departure, stop', hdeparture, hsamples⟩ := ih hlater (by simpa using hi)
          have hstop := (Instruction.samples_eq_ok_iff.mp hown).2.1
          refine ⟨departure, stop', ?_, ?_⟩
          · rw [hdeparture, hstop, timeBefore_cons_succ, Nat.add_assoc]
          · rw [pointsBefore_cons_succ, ← Instruction.length_of_samples hown,
              List.drop_length_add_append, List.getElem?_cons_succ]
            exact hsamples

/-- Every instruction of a traced route has points. -/
theorem points_ne_nil_of_traceFrom (h : traceFrom calculator start instructions = .ok samples)
    {i : Instruction} (hi : i ∈ instructions) : i.line.points ≠ [] := by
  obtain ⟨k, hk⟩ := List.mem_iff_getElem?.mp hi
  obtain ⟨departure, stop, -, hsamples⟩ := exists_samples_of_traceFrom h hk
  exact Instruction.points_ne_nil_of_obstacle (Instruction.samples_eq_ok_iff.mp hsamples).1

/-- **The sample of a point of a route**: its place, at the start plus the durations of the
instructions before, plus the steps before it in its own. The rounding of those instructions leaves
no mark. -/
theorem exists_getElem?_of_traceFrom (h : traceFrom calculator start instructions = .ok samples)
    {k j : ℕ} {i : Instruction} {p : Point} (hi : instructions[k]? = some i)
    (hp : i.line.points[j]? = some p) :
    ∃ time : Milliseconds,
      samples[pointsBefore instructions k + j]? = some (Sample.at i.line.is3d p time) ∧
        time.toNat
          = start.toNat + timeBefore instructions k + total ((i.steps calculator none).take j) := by
  obtain ⟨departure, stop, hdeparture, hsamples⟩ := exists_samples_of_traceFrom h hi
  obtain ⟨time, hsample, htime⟩ := Instruction.exists_getElem?_of_samples hsamples hp
  have hj : j < i.line.size := (List.getElem?_eq_some_iff.mp hp).1
  rw [List.getElem?_take_of_lt hj, List.getElem?_drop] at hsample
  exact ⟨time, hsample, by rw [htime, hdeparture]⟩

/-! ## Timetables -/

/-- **What a trace owes to its route.** The samples of the `k`-th instruction are those from index
`pointsBefore route.instructions k` on, one for each of its points. -/
structure IsTimetable (calculator : Calculator) (route : Route) (start : Milliseconds)
    (samples : List Sample) : Prop where
  /-- There is one sample for each point. -/
  length_eq : samples.length = route.totalPoints
  /-- The samples are at the points of the route, in its order. -/
  map_point : samples.map (·.point) = route.points
  /-- Exactly the samples of an instruction in three dimensions have an elevation. -/
  elevation : ∀ k i, route.instructions[k]? = some i → ∀ j < i.line.size,
    ∃ sample, samples[pointsBefore route.instructions k + j]? = some sample ∧
      sample.elevation.isSome = i.line.is3d
  /-- An instruction starts at the exact end of the ones before. -/
  departure : ∀ k i, route.instructions[k]? = some i →
    ∃ sample, samples[pointsBefore route.instructions k]? = some sample ∧
      sample.time.toNat = start.toNat + timeBefore route.instructions k
  /-- From one point of an instruction to the next passes the rounded share of the segment between
  them, and nothing in an instruction without duration. -/
  advance : ∀ k i, route.instructions[k]? = some i →
    ∀ j p q, i.line.points[j]? = some p → i.line.points[j + 1]? = some q →
      ∃ a b, samples[pointsBefore route.instructions k + j]? = some a ∧
        samples[pointsBefore route.instructions k + (j + 1)]? = some b ∧ a.time ≤ b.time ∧
          b.time.toNat = a.time.toNat + if i.time = 0 then 0 else
            Binary64.saturated (i.time.toFloat * (calculator.distance i.line.is3d p q).value
              / i.distance.value)

/-- **Every trace is a timetable of its route.** -/
theorem isTimetable_of_trace (h : route.trace calculator start = .ok samples) :
    IsTimetable calculator route start samples where
  length_eq := by
    have hpoints := congrArg List.length (map_point_of_traceFrom h)
    rwa [List.length_map] at hpoints
  map_point := map_point_of_traceFrom h
  elevation k i hi j hj := by
    obtain ⟨time, hsample, -⟩ := exists_getElem?_of_traceFrom h hi (List.getElem?_eq_getElem hj)
    exact ⟨_, hsample, Sample.isSome_elevation_at ..⟩
  departure k i hi := by
    have hne := points_ne_nil_of_traceFrom h (List.mem_of_getElem? hi)
    obtain ⟨time, hsample, htime⟩ := exists_getElem?_of_traceFrom h hi
      (List.getElem?_eq_getElem (List.length_pos_iff.mpr hne))
    exact ⟨_, hsample, by simpa using htime⟩
  advance k i hi j p q hp hq := by
    obtain ⟨time, ha, htime⟩ := exists_getElem?_of_traceFrom h hi hp
    obtain ⟨time', hb, htime'⟩ := exists_getElem?_of_traceFrom h hi hq
    have hstep : (i.steps calculator none)[j]? = some _ := Instruction.getElem?_steps_none hp hq
    rw [Milliseconds.total_take_succ hstep, Binary64.toNat_toUInt64,
      Instruction.saturated_advance, ← Nat.add_assoc, ← htime] at htime'
    refine ⟨_, _, ha, hb, ?_, htime'⟩
    rw [Sample.time_at, Sample.time_at, UInt64.le_iff_toNat_le, htime']
    exact Nat.le_add_right _ _

/-- Three stretches: one over a climb, one without duration, one that is not rounded evenly. -/
def threeLegs : Route := ⟨[
  { turn := .straight
    name := ""
    line := .ofPoints true [⟨0, 0, some 0⟩, ⟨0, 3, some 4⟩]
    distance := ⟨10⟩
    time := 100 },
  { turn := .left
    name := "Oak Ave"
    line := .ofPoints false [⟨0, 6, none⟩, ⟨0, 9, none⟩] },
  { turn := .right
    name := ""
    line := .ofPoints false [⟨0, 9, none⟩, ⟨0, 10, none⟩, ⟨0, 12, none⟩]
    distance := ⟨3⟩
    time := 11 }]⟩

/-- The samples of `threeLegs` from half a second on. -/
def threeLegsSamples : List Sample := [
  ⟨0, 0, some 0, 500⟩, ⟨0, 3, some 4, 550⟩, ⟨0, 6, none, 600⟩, ⟨0, 9, none, 600⟩,
  ⟨0, 9, none, 600⟩, ⟨0, 10, none, 604⟩, ⟨0, 12, none, 611⟩]

theorem isTimetable_threeLegs :
    threeLegs.trace .plane 500 = .ok threeLegsSamples ∧
      IsTimetable .plane threeLegs 500 threeLegsSamples :=
  ⟨by decide +kernel, isTimetable_of_trace (by decide +kernel)⟩

end Route

end TurnByTurn
