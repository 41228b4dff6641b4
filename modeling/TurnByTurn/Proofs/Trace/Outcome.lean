import TurnByTurn.Proofs.Binary64.Compare
import TurnByTurn.Proofs.Trace.Legs

/-! # When a route can be traced

Tracing goes through the instructions in order and looks ahead to the follower of each. It stops at
the first check that fails, and the exact clock it carries along is the sum of the durations so far.

* **`Check.first?`** — the error of the first check that fails.
* **`Instruction.clockTime`** — the rounded time up to the follower's first point.
* **`Instruction.checks`** — what is checked at an instruction, in order.
* **`Route.faultAt?`** — what is wrong at the `k`-th instruction.
* **`Route.traceFrom_eq_error_iff`** — a run fails with the first fault of the first instruction that
  has one.
* **`Route.Outcome`**, **`Route.outcome_of_trace`** — when a route can be traced, and what is said if
  not. -/

namespace TurnByTurn

open Milliseconds (total)

/-! ## Checks in order -/

/-- **A check**: whether it fails, and what is said then. -/
structure Check where
  failed : Bool
  error : GuidanceError

namespace Check

/-- **The error of the first check that fails.** -/
def first? (checks : List Check) : Option GuidanceError :=
  (checks.find? (·.failed)).map (·.error)

@[simp] theorem first?_nil : first? [] = none := rfl

@[simp] theorem first?_cons (check : Check) (checks : List Check) :
    first? (check :: checks) = if check.failed then some check.error else first? checks := by
  rw [first?, List.find?_cons]
  cases check.failed <;> rfl

end Check

/-! ## Lengths that can carry a duration -/

/-- **A length is valid and not zero exactly when it is finite and above zero.** -/
theorem Meters.isValid_and_not_isZero_iff {a : Meters} :
    (a.isValid = true ∧ a.isZero = false) ↔ a.value.isFinite = true ∧ 0 < a.value := by
  rw [isValid, isZero, Binary64.zero_lt_iff, Bool.and_eq_true, decide_eq_true_iff, and_assoc,
    Bool.not_eq_true]

/-! ## One instruction -/

namespace Instruction

variable {calculator : Calculator} {i : Instruction} {follower : Option Instruction}
  {start : Milliseconds}

/-- **The rounded time of an instruction up to its follower's first point**, though no sample of its
own is taken there: the time for all its legs. -/
def clockTime (calculator : Calculator) (i : Instruction) (follower : Option Instruction) : ℕ :=
  i.timeFor calculator (i.legs (follower.bind (·.line.first?)))

/-- The clock takes all steps of an instruction. -/
theorem total_steps_eq_clockTime :
    total (i.steps calculator (follower.bind (·.line.first?))) = i.clockTime calculator follower :=
  total_steps calculator i _

/-- **What is checked at an instruction** that starts at the exact time `start`, in this order: its own
points, its follower's points, a length for its duration, its end, and its steps. -/
def checks (calculator : Calculator) (i : Instruction) (follower : Option Instruction) (start : ℕ) :
    List Check :=
  ⟨i.line.points.isEmpty, .emptyInstruction i.label⟩
    :: (follower.toList.map fun f => ⟨f.line.points.isEmpty, .emptyInstruction f.label⟩)
    ++ [⟨i.time ≠ 0 && i.distance.isZero, .zeroDistance i.label⟩,
      ⟨i.time ≠ 0 && !i.distance.isValid, .invalidDistance i.label⟩,
      ⟨2 ^ 64 ≤ start + i.time.toNat, .timeOverflow i.label⟩,
      ⟨2 ^ 64 ≤ start + i.clockTime calculator follower, .timeOverflow i.label⟩]

/-- What is said when the clock leaves its 64 bits over an instruction that starts at the exact time
`start`. -/
def clockFault? (calculator : Calculator) (i : Instruction) (follower : Option Instruction)
    (start : ℕ) : Option GuidanceError :=
  if 2 ^ 64 ≤ start + i.time.toNat ∨ 2 ^ 64 ≤ start + i.clockTime calculator follower then
    some (.timeOverflow i.label)
  else none

/-- The checks are those before the clock runs, and then those of the clock. -/
theorem first?_checks (start : ℕ) :
    Check.first? (i.checks calculator follower start)
      = (i.obstacle follower).or (i.clockFault? calculator follower start) := by
  unfold checks obstacle obstacle.unmeasured clockFault?
  cases follower with
  | none =>
      simp only [Option.toList_none, List.map_nil, List.cons_append, List.nil_append,
        Check.first?_cons, Check.first?_nil, Bool.and_eq_true, decide_eq_true_iff]
      grind
  | some f =>
      simp only [Option.toList_some, List.map_cons, List.map_nil, List.cons_append, List.nil_append,
        Check.first?_cons, Check.first?_nil, Bool.and_eq_true, decide_eq_true_iff]
      grind

/-- **Nothing stands against an instruction** exactly when it and its follower have points and its
length can carry its duration. -/
theorem obstacle_eq_none_iff :
    i.obstacle follower = none ↔
      i.line.points ≠ [] ∧ (∀ f ∈ follower, f.line.points ≠ []) ∧
        (i.time ≠ 0 → i.distance.value.isFinite = true ∧ 0 < i.distance.value) := by
  have hunmeasured : obstacle.unmeasured i = none ↔
      (i.time ≠ 0 → i.distance.isValid = true ∧ i.distance.isZero = false) := by
    unfold obstacle.unmeasured
    grind
  rw [← Meters.isValid_and_not_isZero_iff, ← hunmeasured]
  unfold obstacle
  by_cases hpoints : i.line.points = []
  · simp [hpoints]
  · cases follower with
    | none => simp [hpoints]
    | some f => by_cases hfollower : f.line.points = [] <;> simp [hpoints, hfollower]

/-- The clock stays within its 64 bits exactly when the end and the steps do. -/
theorem clockFault?_eq_none_iff {start : ℕ} :
    i.clockFault? calculator follower start = none ↔
      start + i.time.toNat < 2 ^ 64 ∧ start + i.clockTime calculator follower < 2 ^ 64 := by
  rw [clockFault?, ite_eq_right_iff, ← not_le, ← not_le, ← not_or]
  simp only [reduceCtorEq, imp_false]

/-- **No check of an instruction fails** exactly when it and its follower have points, its length can
carry its duration, and neither its end nor its steps leave the clock. -/
theorem first?_checks_eq_none_iff {start : ℕ} :
    Check.first? (i.checks calculator follower start) = none ↔
      i.line.points ≠ [] ∧ (∀ f ∈ follower, f.line.points ≠ []) ∧
        (i.time ≠ 0 → i.distance.value.isFinite = true ∧ 0 < i.distance.value) ∧
          start + i.time.toNat < 2 ^ 64 ∧ start + i.clockTime calculator follower < 2 ^ 64 := by
  rw [first?_checks, Option.or_eq_none_iff, obstacle_eq_none_iff, clockFault?_eq_none_iff, and_assoc,
    and_assoc]

/-- What stands against an instruction is said before the clock runs. -/
theorem samples_of_obstacle {error : GuidanceError} (h : i.obstacle follower = some error) :
    i.samples calculator follower start = .error error := by
  rw [samples, h]

/-- **Tracing an instruction fails with the first of its checks that fails.** -/
theorem samples_eq_error_iff {error : GuidanceError} :
    i.samples calculator follower start = .error error ↔
      Check.first? (i.checks calculator follower start.toNat) = some error := by
  rw [first?_checks]
  cases hobstacle : i.obstacle follower with
  | some fault =>
      rw [samples_of_obstacle hobstacle, Option.some_or, Except.error.injEq, Option.some.injEq]
  | none =>
      rw [Option.none_or, clockFault?]
      by_cases hover : 2 ^ 64 ≤ start.toNat + i.time.toNat ∨
          2 ^ 64 ≤ start.toNat + i.clockTime calculator follower
      · have hoverflow := hover
        rw [← total_steps_eq_clockTime] at hoverflow
        rw [if_pos hover, (samples_eq_timeOverflow_iff hobstacle).mpr hoverflow, Except.error.injEq,
          Option.some.injEq]
      · rw [if_neg hover]
        rw [not_or, not_le, not_le, ← total_steps_eq_clockTime] at hover
        obtain ⟨own, stop, hsamples⟩ := (exists_samples_eq_ok_iff hobstacle).mpr hover
        simp [hsamples]

/-- An instruction has samples exactly when none of its checks fails. -/
theorem exists_samples_iff_first? :
    (∃ own stop, i.samples calculator follower start = .ok (own, stop)) ↔
      Check.first? (i.checks calculator follower start.toNat) = none := by
  rw [Option.eq_none_iff_forall_ne_some]
  simp only [ne_eq, ← samples_eq_error_iff]
  cases i.samples calculator follower start with
  | error error => simp
  | ok result =>
      obtain ⟨own, stop⟩ := result
      simp

end Instruction

/-! ## A whole route -/

namespace Route

variable {calculator : Calculator} {route : Route} {start : Milliseconds}
  {instructions : List Instruction} {i : Instruction} {error : GuidanceError}

/-- **What is wrong at the `k`-th instruction** of a route that starts at the exact time `start`: the
first check there that fails. -/
def faultAt? (calculator : Calculator) (instructions : List Instruction) (start k : ℕ) :
    Option GuidanceError :=
  instructions[k]?.bind fun i =>
    Check.first? (i.checks calculator instructions[k + 1]? (start + timeBefore instructions k))

/-- **The first fault of a route**: what is wrong at the first instruction at which something is. -/
def IsFirstFault (calculator : Calculator) (instructions : List Instruction) (start : ℕ)
    (error : GuidanceError) : Prop :=
  ∃ k, faultAt? calculator instructions start k = some error ∧
    ∀ j < k, faultAt? calculator instructions start j = none

@[simp] theorem faultAt?_nil (start k : ℕ) : faultAt? calculator [] start k = none := rfl

@[simp] theorem faultAt?_cons_zero (i : Instruction) (rest : List Instruction) (start : ℕ) :
    faultAt? calculator (i :: rest) start 0
      = Check.first? (i.checks calculator rest.head? start) := by
  simp [faultAt?, List.head?_eq_getElem?]

@[simp] theorem faultAt?_cons_succ (i : Instruction) (rest : List Instruction) (start k : ℕ) :
    faultAt? calculator (i :: rest) start (k + 1)
      = faultAt? calculator rest (start + i.time.toNat) k := by
  simp [faultAt?, Nat.add_assoc]

/-- A route has a fault at its first instruction, or none there and one in the rest. -/
theorem isFirstFault_cons_iff {rest : List Instruction} {start : ℕ} :
    IsFirstFault calculator (i :: rest) start error ↔
      Check.first? (i.checks calculator rest.head? start) = some error ∨
        Check.first? (i.checks calculator rest.head? start) = none ∧
          IsFirstFault calculator rest (start + i.time.toNat) error := by
  constructor
  · rintro ⟨k, hk, hbefore⟩
    cases k with
    | zero => exact Or.inl (by simpa using hk)
    | succ k =>
        refine Or.inr ⟨by simpa using hbefore 0 k.succ_pos, k, by simpa using hk, fun j hj => ?_⟩
        simpa using hbefore (j + 1) (Nat.succ_lt_succ hj)
  · rintro (hfirst | ⟨hnone, k, hk, hbefore⟩)
    · exact ⟨0, by simpa using hfirst, fun j hj => absurd hj j.not_lt_zero⟩
    · refine ⟨k + 1, by simpa using hk, fun j hj => ?_⟩
      cases j with
      | zero => simpa using hnone
      | succ j => simpa using hbefore j (Nat.lt_of_succ_lt_succ hj)

/-- A run fails at its first instruction, or passes it and fails later. -/
theorem traceFrom_cons_eq_error_iff {rest : List Instruction} :
    traceFrom calculator start (i :: rest) = .error error ↔
      i.samples calculator rest.head? start = .error error ∨
        ∃ own stop, i.samples calculator rest.head? start = .ok (own, stop) ∧
          traceFrom calculator stop rest = .error error := by
  rw [traceFrom]
  cases i.samples calculator rest.head? start with
  | error fault => simp
  | ok result =>
      obtain ⟨own, stop⟩ := result
      cases hlater : traceFrom calculator stop rest with
      | error fault => simp [hlater]
      | ok later => simp [hlater]

/-- **A run fails exactly with the first fault of its instructions.** The clock it carries is the exact
sum of the durations before. -/
theorem traceFrom_eq_error_iff :
    traceFrom calculator start instructions = .error error ↔
      IsFirstFault calculator instructions start.toNat error := by
  induction instructions generalizing start with
  | nil => simp [traceFrom, IsFirstFault]
  | cons i rest ih =>
      rw [traceFrom_cons_eq_error_iff, isFirstFault_cons_iff, ← Instruction.samples_eq_error_iff,
        ← Instruction.exists_samples_iff_first?]
      refine or_congr_right ⟨?_, ?_⟩
      · rintro ⟨own, stop, hown, hlater⟩
        have hstop := (Instruction.samples_eq_ok_iff.mp hown).2.1
        exact ⟨⟨own, stop, hown⟩, hstop ▸ ih.mp hlater⟩
      · rintro ⟨⟨own, stop, hown⟩, hlater⟩
        have hstop := (Instruction.samples_eq_ok_iff.mp hown).2.1
        exact ⟨own, stop, hown, ih.mpr (hstop ▸ hlater)⟩

/-- **A run succeeds exactly when nothing is wrong at any instruction.** -/
theorem exists_traceFrom_iff_faultAt? :
    (∃ samples, traceFrom calculator start instructions = .ok samples) ↔
      ∀ k, faultAt? calculator instructions start.toNat k = none := by
  classical
  constructor
  · rintro ⟨samples, hsamples⟩ k
    by_contra hk
    -- the fault at the smallest index would make the run fail
    have hfaulty : ∃ k, faultAt? calculator instructions start.toNat k ≠ none := ⟨k, hk⟩
    obtain ⟨fault, hfault⟩ := Option.ne_none_iff_exists'.mp (Nat.find_spec hfaulty)
    have hfirst : IsFirstFault calculator instructions start.toNat fault :=
      ⟨_, hfault, fun j hj => not_not.mp (Nat.find_min hfaulty hj)⟩
    cases hsamples.symm.trans (traceFrom_eq_error_iff.mpr hfirst)
  · intro hnone
    cases htrace : traceFrom calculator start instructions with
    | ok samples => exact ⟨samples, rfl⟩
    | error fault =>
        obtain ⟨k, hk, -⟩ := traceFrom_eq_error_iff.mp htrace
        cases (hnone k).symm.trans hk

/-! ## Durations that fit -/

/-- The durations up to and including the `k`-th. -/
theorem timeBefore_succ {k : ℕ} (h : instructions[k]? = some i) :
    timeBefore instructions (k + 1) = timeBefore instructions k + i.time.toNat := by
  rw [timeBefore, timeBefore, duration, duration, List.map_take, List.map_take]
  exact Milliseconds.total_take_succ (by rw [List.getElem?_map, h, Option.map_some])

/-- The durations up to an instruction are part of all of them. -/
theorem timeBefore_le_duration (instructions : List Instruction) (k : ℕ) :
    timeBefore instructions k ≤ duration instructions :=
  Milliseconds.total_le_of_isPrefix ((List.take_prefix k instructions).map _)

/-- An instruction ends within the durations of its route. -/
theorem timeBefore_add_time_le {k : ℕ} {i : Instruction} (h : instructions[k]? = some i) :
    timeBefore instructions k + i.time.toNat ≤ duration instructions := by
  rw [← timeBefore_succ h]
  exact timeBefore_le_duration instructions (k + 1)

/-- **The end of every instruction fits exactly when the end of the last one does.** -/
theorem forall_timeBefore_add_time_lt_iff {start : ℕ} (hstart : start < 2 ^ 64) :
    (∀ k i, instructions[k]? = some i →
        start + timeBefore instructions k + i.time.toNat < 2 ^ 64) ↔
      start + duration instructions < 2 ^ 64 := by
  constructor
  · intro hends
    rcases Nat.eq_zero_or_pos instructions.length with hlength | hlength
    · rwa [List.length_eq_zero_iff.mp hlength, duration_nil, Nat.add_zero]
    · obtain ⟨n, hn⟩ := Nat.exists_eq_add_one_of_ne_zero hlength.ne'
      have hlast := List.getElem?_eq_getElem (l := instructions) (i := n) (by omega)
      have hend := hends n _ hlast
      rwa [Nat.add_assoc, ← timeBefore_succ hlast, ← hn, timeBefore, List.take_length] at hend
  · intro hend k i hi
    have := timeBefore_add_time_le hi
    omega

/-- **Durations have a sum exactly when the exact one fits.** -/
theorem exists_addTimes_iff :
    (∃ sum, addTimes start instructions = .ok sum) ↔
      start.toNat + duration instructions < 2 ^ 64 := by
  induction instructions generalizing start with
  | nil => simpa [addTimes] using start.toNat_lt
  | cons i rest ih =>
      rw [addTimes, duration_cons]
      cases hnext : start.add? i.time with
      | none =>
          have := Milliseconds.add?_eq_none_iff.mp hnext
          simp only [reduceCtorEq, exists_false, false_iff]
          omega
      | some next =>
          rw [ih, Milliseconds.add?_eq_some_iff.mp hnext, Nat.add_assoc]

/-! ## The outcome -/

/-- Nothing is wrong at an instruction exactly when none of its checks fails. -/
theorem faultAt?_eq_none_iff {start k : ℕ} :
    faultAt? calculator instructions start k = none ↔
      ∀ i, instructions[k]? = some i →
        Check.first? (i.checks calculator instructions[k + 1]? (start + timeBefore instructions k))
          = none := by
  rw [faultAt?, Option.bind_eq_none_iff]

/-- **Nothing is wrong at any instruction** exactly when all have points, lengths that can carry their
durations, and ends and steps that stay within the clock. -/
theorem forall_faultAt?_eq_none_iff {start : ℕ} (hstart : start < 2 ^ 64) :
    (∀ k, faultAt? calculator instructions start k = none) ↔
      (∀ i ∈ instructions, i.line.points ≠ []) ∧
        (∀ i ∈ instructions,
          i.time ≠ 0 → i.distance.value.isFinite = true ∧ 0 < i.distance.value) ∧
        start + duration instructions < 2 ^ 64 ∧
        ∀ k i, instructions[k]? = some i → start + timeBefore instructions k
          + i.clockTime calculator instructions[k + 1]? < 2 ^ 64 := by
  simp only [faultAt?_eq_none_iff, Instruction.first?_checks_eq_none_iff,
    ← forall_timeBefore_add_time_lt_iff hstart]
  constructor
  · intro hnone
    refine ⟨fun i hi => ?_, fun i hi => ?_, fun k i hi => ?_, fun k i hi => ?_⟩
    · obtain ⟨k, hk⟩ := List.mem_iff_getElem?.mp hi
      exact (hnone k i hk).1
    · obtain ⟨k, hk⟩ := List.mem_iff_getElem?.mp hi
      exact (hnone k i hk).2.2.1
    · exact (hnone k i hi).2.2.2.1
    · exact (hnone k i hi).2.2.2.2
  · rintro ⟨hpoints, hlengths, hends, hsteps⟩ k i hi
    exact ⟨hpoints i (List.mem_of_getElem? hi), fun f hf => hpoints f (List.mem_of_getElem? hf),
      hlengths i (List.mem_of_getElem? hi), hends k i hi, hsteps k i hi⟩

/-- **When a route can be traced, and what is said if not.** -/
structure Outcome (calculator : Calculator) (route : Route) (start : Milliseconds) : Prop where
  /-- A route can be traced exactly when every instruction has points and a length that can carry its
  duration, and no end and no step leaves the clock, not even the step to a follower. -/
  isOk_iff :
    (∃ samples, route.trace calculator start = .ok samples) ↔
      (∀ i ∈ route.instructions, i.line.points ≠ []) ∧
        (∀ i ∈ route.instructions,
          i.time ≠ 0 → i.distance.value.isFinite = true ∧ 0 < i.distance.value) ∧
        start.toNat + duration route.instructions < 2 ^ 64 ∧
        ∀ k i, route.instructions[k]? = some i →
          start.toNat + timeBefore route.instructions k
            + i.clockTime calculator route.instructions[k + 1]? < 2 ^ 64
  /-- Otherwise the error is the first fault of the first instruction that has one. -/
  error_iff : ∀ error, route.trace calculator start = .error error ↔
    IsFirstFault calculator route.instructions start.toNat error
  /-- A follower without points hides what else is wrong at an instruction. -/
  follower_first : ∀ k i f, route.instructions[k]? = some i → i.line.points ≠ [] →
    route.instructions[k + 1]? = some f → f.line.points = [] →
      (∀ j < k, faultAt? calculator route.instructions start.toNat j = none) →
        route.trace calculator start = .error (.emptyInstruction f.label)
  /-- A route that can be traced has a total time. -/
  totalTime_isOk : ∀ samples, route.trace calculator start = .ok samples →
    ∃ sum, route.totalTime = .ok sum

/-- **Every route is traced or refused for its first fault.** -/
theorem outcome_of_trace (calculator : Calculator) (route : Route) (start : Milliseconds) :
    Outcome calculator route start where
  isOk_iff := by
    rw [← forall_faultAt?_eq_none_iff start.toNat_lt, ← exists_traceFrom_iff_faultAt?]
    rfl
  error_iff error := traceFrom_eq_error_iff
  follower_first k i f hi hpoints hf hempty hbefore := by
    refine traceFrom_eq_error_iff.mpr ⟨k, ?_, hbefore⟩
    simp [faultAt?, hi, hf, Instruction.checks, hpoints, hempty]
  totalTime_isOk samples h := by
    have hfits := ((forall_faultAt?_eq_none_iff start.toNat_lt).mp
      (exists_traceFrom_iff_faultAt?.mp ⟨samples, h⟩)).2.2.1
    exact exists_addTimes_iff.mpr (by rw [UInt64.toNat_zero]; omega)

end Route

end TurnByTurn
