import TurnByTurn.Proofs.RouteFile.Built

/-! # Tracing a checked route

A route built from a file has valid lengths and durations that fit the clock. What can still stop its
trace are missing points, durations without any length, and steps that overrun: the rounded steps of an
instruction may sum to more than its duration, and then run out of the clock.

* **`Route.IsReady`** — what a route needs before its steps are taken.
* **`Route.RunsOut`** — an instruction whose rounded steps leave the clock.
* **`Route.StopsOnlyByOverrun`** — when a trace from zero succeeds, and why else it stops.
* **`RouteFile.stopsOnlyByOverrun_of_route`** — every built route is like that, unless points or
  lengths are missing.
* **`RouteFile.timeOverflow_wholeClock`** — a built route that cannot be traced. -/

namespace TurnByTurn

/-! ## Ready routes -/

namespace Route

variable {calculator : Calculator} {route : Route} {instructions : List Instruction}
  {error : GuidanceError}

/-- **What a route needs before its steps are taken**: points everywhere, a length under every duration,
and durations that fit the clock. -/
structure IsReady (instructions : List Instruction) : Prop where
  points_ne_nil : ∀ i ∈ instructions, i.line.points ≠ []
  length_pos : ∀ i ∈ instructions,
    i.time ≠ 0 → i.distance.value.isFinite = true ∧ 0 < i.distance.value
  duration_lt : duration instructions < 2 ^ 64

/-- **Whether the rounded steps of the `k`-th instruction leave the clock**, the step to its follower
included. It starts at the exact end of the instructions before. -/
def RunsOut (calculator : Calculator) (instructions : List Instruction) (k : ℕ) : Prop :=
  ∃ i, instructions[k]? = some i ∧
    2 ^ 64 ≤ timeBefore instructions k + i.clockTime calculator instructions[k + 1]?

/-- **When a trace from zero succeeds, and why else it stops.** -/
structure StopsOnlyByOverrun (calculator : Calculator) (route : Route) : Prop where
  /-- The trace succeeds exactly when no instruction runs out of the clock. -/
  isOk_iff : (∃ samples, route.trace calculator 0 = .ok samples) ↔
    ∀ k, ¬RunsOut calculator route.instructions k
  /-- Otherwise the error names the first one that does. -/
  error_iff : ∀ error, route.trace calculator 0 = .error error ↔
    ∃ k i, route.instructions[k]? = some i ∧ error = .timeOverflow i.label ∧
      RunsOut calculator route.instructions k ∧ ∀ j < k, ¬RunsOut calculator route.instructions j
  /-- An instruction runs out by overrunning only: its steps sum to more than its duration. -/
  time_lt_clockTime : ∀ k i, route.instructions[k]? = some i →
    RunsOut calculator route.instructions k →
      i.time.toNat < i.clockTime calculator route.instructions[k + 1]?
  /-- Where no instruction overruns by more than the clock has left in the end, the trace succeeds. -/
  isOk_of_spare : ∀ spare, duration route.instructions + spare < 2 ^ 64 →
    (∀ k, ∀ i : Instruction, route.instructions[k]? = some i →
      i.clockTime calculator route.instructions[k + 1]? ≤ i.time.toNat + spare) →
      ∃ samples, route.trace calculator 0 = .ok samples

/-- In a ready route nothing but the steps can be wrong at an instruction. -/
theorem IsReady.faultAt?_eq_some_iff (h : IsReady instructions) {k : ℕ} :
    faultAt? calculator instructions 0 k = some error ↔
      ∃ i, instructions[k]? = some i ∧ error = .timeOverflow i.label ∧
        RunsOut calculator instructions k := by
  rw [faultAt?, Option.bind_eq_some_iff]
  refine exists_congr fun i => and_congr_right fun hi => ?_
  have hobstacle : i.obstacle instructions[k + 1]? = none :=
    Instruction.obstacle_eq_none_iff.mpr
      ⟨h.points_ne_nil i (List.mem_of_getElem? hi),
        fun f hf => h.points_ne_nil f (List.mem_of_getElem? hf),
        h.length_pos i (List.mem_of_getElem? hi)⟩
  have hend := timeBefore_add_time_le hi
  have hduration := h.duration_lt
  rw [Instruction.first?_checks, hobstacle, Option.none_or, Instruction.clockFault?, RunsOut]
  simp only [hi, Option.some.injEq, exists_eq_left', Option.ite_none_right_eq_some]
  constructor
  · rintro ⟨hclock, rfl⟩
    exact ⟨rfl, by omega⟩
  · rintro ⟨rfl, hclock⟩
    exact ⟨Or.inr (by omega), rfl⟩

/-- In a ready route nothing is wrong at an instruction that does not run out. -/
theorem IsReady.faultAt?_eq_none_iff (h : IsReady instructions) {k : ℕ} :
    faultAt? calculator instructions 0 k = none ↔ ¬RunsOut calculator instructions k := by
  rw [Option.eq_none_iff_forall_ne_some]
  constructor
  · intro hnone hruns
    obtain ⟨i, hi, -⟩ := id hruns
    exact hnone _ (h.faultAt?_eq_some_iff.mpr ⟨i, hi, rfl, hruns⟩)
  · intro hruns error herror
    obtain ⟨i, -, -, hruns'⟩ := h.faultAt?_eq_some_iff.mp herror
    exact hruns hruns'

/-- **Nothing but an overrun stops a ready route.** -/
theorem IsReady.stopsOnlyByOverrun (h : IsReady route.instructions) :
    StopsOnlyByOverrun calculator route where
  isOk_iff := by
    rw [trace, exists_traceFrom_iff_faultAt?]
    exact forall_congr' fun k => h.faultAt?_eq_none_iff
  error_iff error := by
    rw [trace, traceFrom_eq_error_iff]
    simp only [IsFirstFault, UInt64.toNat_zero, h.faultAt?_eq_some_iff, h.faultAt?_eq_none_iff]
    constructor
    · rintro ⟨k, ⟨i, hi, rfl, hruns⟩, hbefore⟩
      exact ⟨k, i, hi, rfl, hruns, hbefore⟩
    · rintro ⟨k, i, hi, rfl, hruns, hbefore⟩
      exact ⟨k, ⟨i, hi, rfl, hruns⟩, hbefore⟩
  time_lt_clockTime k i hi hruns := by
    obtain ⟨i', hi', hruns⟩ := hruns
    obtain rfl : i' = i := Option.some.inj (hi'.symm.trans hi)
    have hend := timeBefore_add_time_le hi
    have hduration := h.duration_lt
    omega
  isOk_of_spare spare hspare hsteps := by
    rw [trace, exists_traceFrom_iff_faultAt?]
    intro k
    refine h.faultAt?_eq_none_iff.mpr ?_
    rintro ⟨i, hi, hruns⟩
    have hend := timeBefore_add_time_le hi
    have hstep := hsteps k i hi
    omega

end Route

/-! ## Built routes -/

namespace RouteFile

variable {calculator : Calculator} {file : RouteFile} {route : Route}

/-- **A built route is ready** when no entry is without points and no duration without a length. -/
theorem isReady_of_route (hroute : file.route calculator = .ok route)
    (hpoints : ∀ entry ∈ file.entries, entry.points ≠ [])
    (hlengths : ∀ i ∈ route.instructions, i.time ≠ 0 → i.distance.isZero = false) :
    Route.IsReady route.instructions where
  points_ne_nil := points_ne_nil_of_route hroute hpoints
  length_pos i hi htime := by
    obtain ⟨k, hk⟩ := List.mem_iff_getElem?.mp hi
    obtain ⟨-, -, -, hvalid⟩ := exists_of_route hroute hk
    exact Meters.isValid_and_not_isZero_iff.mp ⟨hvalid, hlengths i hi htime⟩
  duration_lt := duration_lt_of_route hroute

/-- **Nothing but an overrun stops the trace of a built route**, unless an entry is without points or a
duration without a length. -/
theorem stopsOnlyByOverrun_of_route (hroute : file.route calculator = .ok route)
    (hpoints : ∀ entry ∈ file.entries, entry.points ≠ [])
    (hlengths : ∀ i ∈ route.instructions, i.time ≠ 0 → i.distance.isZero = false) :
    Route.StopsOnlyByOverrun calculator route :=
  (isReady_of_route hroute hpoints hlengths).stopsOnlyByOverrun

/-- A file that asks for all the time there is, over two segments of the same length. -/
def wholeClock : RouteFile :=
  ⟨[{ sign := 0, points := [[0, 0], [1, 0], [2, 0]], time := 18446744073709551615 }]⟩

/-- The instruction of `wholeClock`. Its duration is `2 ^ 64` as a double, and each half of it `2 ^ 63`. -/
def wholeClockLeg : Instruction where
  turn := .straight
  name := ""
  line := .ofPoints false [⟨0, 0, none⟩, ⟨0, 1, none⟩, ⟨0, 2, none⟩]
  distance := ⟨2⟩
  time := 18446744073709551615

/-- The duration of `wholeClock` stands over a length. -/
theorem wholeClockLeg_isZero :
    ∀ i ∈ [wholeClockLeg], i.time ≠ 0 → i.distance.isZero = false := by
  rw [List.forall_mem_singleton]
  exact fun _ => by decide +kernel

theorem stopsOnlyByOverrun_wholeClock :
    wholeClock.route .plane = .ok ⟨[wholeClockLeg]⟩ ∧
      (∀ entry ∈ wholeClock.entries, entry.points ≠ []) ∧
      (∀ i ∈ [wholeClockLeg], i.time ≠ 0 → i.distance.isZero = false) ∧
      Route.StopsOnlyByOverrun .plane ⟨[wholeClockLeg]⟩ :=
  have hroute : wholeClock.route .plane = .ok ⟨[wholeClockLeg]⟩ := rfl
  have hpoints : ∀ entry ∈ wholeClock.entries, entry.points ≠ [] := by decide
  ⟨hroute, hpoints, wholeClockLeg_isZero,
    stopsOnlyByOverrun_of_route hroute hpoints wholeClockLeg_isZero⟩

/-- **A built route with points and computed lengths everywhere that cannot be traced**: its second
step would end one millisecond beyond the clock. -/
theorem timeOverflow_wholeClock :
    (∀ entry ∈ wholeClock.entries, entry.distance = none ∧ entry.points ≠ []) ∧
      wholeClock.route .plane = .ok ⟨[wholeClockLeg]⟩ ∧
      (∀ i ∈ [wholeClockLeg], i.time ≠ 0 → i.distance.isZero = false) ∧
      Route.trace .plane ⟨[wholeClockLeg]⟩ 0
        = .error (.timeOverflow "(0,,2,18446744073709551615)") :=
  ⟨by decide, rfl, wholeClockLeg_isZero, by decide +kernel⟩

end RouteFile

end TurnByTurn
