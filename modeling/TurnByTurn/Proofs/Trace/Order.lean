import Mathlib.Data.List.Chain
import TurnByTurn.Proofs.Trace.Legs

/-! # The order of a trace

Every step is rounded on its own, and the next instruction starts at the exact end of the one before.
So a trace may run ahead of an instruction's duration and fall back at the next one.

* **`Instruction.spent`** — the rounded time between the first and the last point of an instruction.
* **`Route.IsMeasured`** — all lengths are the sums of their segments.
* **`Route.pairwise_time_le_iff`** — the times of a trace never fall exactly when no instruction but
  the last spends more than its duration.
* **`Route.final_time_le_totalTime_iff`** — the trace ends within the total time exactly when the last
  instruction does not spend more than its duration.
* **`Route.not_pairwise_overtaking`**, **`Route.not_le_overrunning`** — measured routes that do. -/

namespace TurnByTurn

open Milliseconds (total)

/-! ## One instruction -/

namespace Instruction

variable {calculator : Calculator} {i : Instruction} {follower : Option Instruction}
  {start stop : Milliseconds} {own : List Sample}

/-- **The rounded time between the first and the last point of an instruction.** The leg to the
follower is not part of it. -/
def spent (calculator : Calculator) (i : Instruction) : ℕ := i.timeFor calculator (i.legs none)

/-- The first sample is at the start. -/
theorem exists_head?_of_samples (h : i.samples calculator follower start = .ok (own, stop)) :
    ∃ first, own.head? = some first ∧ first.time = start := by
  have hne := points_ne_nil_of_obstacle (samples_eq_ok_iff.mp h).1
  obtain ⟨time, hfirst, htime⟩ := exists_getElem?_of_samples h
    (List.getElem?_eq_getElem (List.length_pos_iff.mpr hne))
  refine ⟨_, by rw [List.head?_eq_getElem?, hfirst], ?_⟩
  rw [Sample.time_at, ← UInt64.toNat_inj]
  simpa using htime

/-- The last sample is at the start plus what is spent. -/
theorem exists_getLast?_of_samples (h : i.samples calculator follower start = .ok (own, stop)) :
    ∃ last, own.getLast? = some last ∧ last.time.toNat = start.toNat + i.spent calculator := by
  have hne := points_ne_nil_of_obstacle (samples_eq_ok_iff.mp h).1
  have hlast : i.line.size - 1 < i.line.points.length :=
    Nat.sub_lt (List.length_pos_iff.mpr hne) Nat.one_pos
  obtain ⟨time, hsample, htime⟩ := exists_getElem?_of_samples h (List.getElem?_eq_getElem hlast)
  refine ⟨_, by rw [List.getLast?_eq_getElem?, length_of_samples h, hsample], ?_⟩
  rw [Sample.time_at, htime, spent, ← total_steps, List.take_of_length_le (by rw [length_steps_none])]

/-- **Inside an instruction time never falls.** -/
theorem isChain_time_of_samples (h : i.samples calculator follower start = .ok (own, stop)) :
    own.IsChain (·.time ≤ ·.time) := by
  refine List.isChain_iff_getElem.mpr fun j hj => ?_
  have hsize := length_of_samples h
  have hj' : j + 1 < i.line.points.length := by rwa [← Polyline.size, ← hsize]
  obtain ⟨time, ha, htime⟩ := exists_getElem?_of_samples h
    (List.getElem?_eq_getElem (Nat.lt_of_succ_lt hj'))
  obtain ⟨time', hb, htime'⟩ := exists_getElem?_of_samples h (List.getElem?_eq_getElem hj')
  rw [List.getElem?_eq_getElem (Nat.lt_of_succ_lt hj), Option.some.injEq] at ha
  rw [List.getElem?_eq_getElem hj, Option.some.injEq] at hb
  rw [ha, hb, Sample.time_at, Sample.time_at, UInt64.le_iff_toNat_le, htime, htime']
  exact Nat.add_le_add_left
    (Milliseconds.total_le_of_isPrefix (List.take_prefix_take_left (Nat.le_succ j))) _

end Instruction

/-! ## A whole route -/

namespace Route

variable {calculator : Calculator} {route : Route} {start : Milliseconds} {i : Instruction}
  {instructions : List Instruction} {samples : List Sample}

/-- **All lengths are the sums of their segments**, the one to the follower's first point included. -/
def IsMeasured (calculator : Calculator) : List Instruction → Prop
  | [] => True
  | i :: rest =>
      i.distance = .sum (i.segments calculator (rest.head?.bind (·.line.first?))) ∧
        IsMeasured calculator rest

/-- A trace begins at its start. -/
theorem exists_head?_of_traceFrom_cons
    (h : traceFrom calculator start (i :: instructions) = .ok samples) :
    ∃ first, samples.head? = some first ∧ first.time = start := by
  obtain ⟨own, stop, later, hown, -, rfl⟩ := traceFrom_cons_eq_ok_iff.mp h
  obtain ⟨first, hfirst, htime⟩ := Instruction.exists_head?_of_samples hown
  exact ⟨first, by rw [List.head?_append, hfirst, Option.some_or], htime⟩

/-- **A trace is in order exactly when no instruction but the last spends more than its duration.** -/
theorem isChain_time_of_traceFrom_iff
    (h : traceFrom calculator start instructions = .ok samples) :
    samples.IsChain (·.time ≤ ·.time) ↔
      ∀ i ∈ instructions.dropLast, i.spent calculator ≤ i.time.toNat := by
  induction instructions generalizing start samples with
  | nil =>
      cases h
      simp
  | cons i rest ih =>
      obtain ⟨own, stop, later, hown, hlater, rfl⟩ := traceFrom_cons_eq_ok_iff.mp h
      have hchain := Instruction.isChain_time_of_samples hown
      rw [List.isChain_append, ih hlater]
      cases rest with
      | nil =>
          cases hlater
          simpa using hchain
      | cons f rest =>
          -- the boundary: the last sample of `i` against the first one of `f`
          obtain ⟨last, hlast, htime⟩ := Instruction.exists_getLast?_of_samples hown
          obtain ⟨first, hfirst, rfl⟩ := exists_head?_of_traceFrom_cons hlater
          have hstop := (Instruction.samples_eq_ok_iff.mp hown).2.1
          have hboundary : last.time ≤ first.time ↔ i.spent calculator ≤ i.time.toNat := by
            rw [UInt64.le_iff_toNat_le, htime, hstop, Nat.add_le_add_iff_left]
          rw [List.dropLast_cons_cons, List.forall_mem_cons, ← hboundary, hlast, hfirst]
          simp only [Option.mem_some_iff, forall_eq']
          constructor
          · rintro ⟨-, hrest, hle⟩
            exact ⟨hle, hrest⟩
          · rintro ⟨hle, hrest⟩
            exact ⟨hchain, hrest, hle⟩

/-- **The times of a trace never fall exactly when no instruction but the last spends more than its
duration.** -/
theorem pairwise_time_le_iff (h : route.trace calculator start = .ok samples) :
    samples.Pairwise (·.time ≤ ·.time) ↔
      ∀ i ∈ route.instructions.dropLast, i.spent calculator ≤ i.time.toNat := by
  have : Trans (fun a b : Sample => a.time ≤ b.time) (fun a b : Sample => a.time ≤ b.time)
      (fun a b : Sample => a.time ≤ b.time) := ⟨fun hab hbc => UInt64.le_trans hab hbc⟩
  rw [← List.isChain_iff_pairwise, isChain_time_of_traceFrom_iff h]

/-- One millisecond over two segments of the same length: each takes a half of it, and a half rounds
up. -/
def twoHalves : Instruction where
  turn := .straight
  name := ""
  line := .ofPoints false [⟨0, 0, none⟩, ⟨0, 1, none⟩, ⟨0, 2, none⟩]
  distance := ⟨2⟩
  time := 1

/-- A route that ends where its first instruction has its last point. -/
def overtaking : Route := ⟨[twoHalves, .finish ⟨0, 2, none⟩]⟩

/-- The trace of `overtaking`: it ends a millisecond before the sample that comes before. -/
def overtakingSamples : List Sample :=
  [⟨0, 0, none, 0⟩, ⟨0, 1, none, 1⟩, ⟨0, 2, none, 2⟩, ⟨0, 2, none, 1⟩]

theorem pairwise_time_le_iff_overtaking :
    overtaking.trace .plane 0 = .ok overtakingSamples ∧
      (overtakingSamples.Pairwise (·.time ≤ ·.time) ↔
        ∀ i ∈ overtaking.instructions.dropLast, i.spent .plane ≤ i.time.toNat) :=
  ⟨by decide +kernel,
    pairwise_time_le_iff (show overtaking.trace .plane 0 = .ok overtakingSamples by decide +kernel)⟩

/-- **A measured route without empty instructions whose trace falls back.** -/
theorem not_pairwise_overtaking :
    IsMeasured .plane overtaking.instructions ∧
      (∀ i ∈ overtaking.instructions, i.line.points ≠ []) ∧
        overtaking.trace .plane 0 = .ok overtakingSamples ∧
          ¬overtakingSamples.Pairwise (·.time ≤ ·.time) :=
  ⟨⟨by decide +kernel, by decide +kernel, trivial⟩, by decide +kernel, by decide +kernel,
    by decide +kernel⟩

/-! ## The end of a route -/

/-- The total time is the exact sum of the durations. -/
theorem toNat_of_addTimes {sum : Milliseconds} (h : addTimes start instructions = .ok sum) :
    sum.toNat = start.toNat + duration instructions := by
  induction instructions generalizing start with
  | nil =>
      cases h
      simp
  | cons i rest ih =>
      rw [addTimes] at h
      cases hnext : start.add? i.time with
      | none => simp [hnext] at h
      | some next =>
          rw [hnext] at h
          rw [ih h, Milliseconds.add?_eq_some_iff.mp hnext, duration_cons, Nat.add_assoc]

/-- **The last sample of a trace** is at the start of the last instruction plus what that one spends. -/
theorem exists_getLast?_of_traceFrom (h : traceFrom calculator start instructions = .ok samples)
    (hi : instructions.getLast? = some i) :
    ∃ final, samples.getLast? = some final ∧ final.time.toNat + i.time.toNat
      = start.toNat + duration instructions + i.spent calculator := by
  induction instructions generalizing start samples with
  | nil => cases hi
  | cons head rest ih =>
      obtain ⟨own, stop, later, hown, hlater, rfl⟩ := traceFrom_cons_eq_ok_iff.mp h
      cases rest with
      | nil =>
          cases hlater
          obtain rfl : head = i := by simpa using hi
          obtain ⟨last, hlast, htime⟩ := Instruction.exists_getLast?_of_samples hown
          refine ⟨last, by rw [List.append_nil, hlast], ?_⟩
          rw [htime, duration_cons, duration_nil]
          omega
      | cons f rest =>
          obtain ⟨final, hfinal, htime⟩ := ih hlater (by simpa using hi)
          refine ⟨final, by rw [List.getLast?_append, hfinal, Option.some_or], ?_⟩
          have hstop := (Instruction.samples_eq_ok_iff.mp hown).2.1
          rw [htime, hstop, duration_cons head]
          omega

/-- **A trace ends within the total time exactly when the last instruction does not spend more than
its duration**; it ends at the total time less that duration plus what is spent of it. -/
theorem final_time_le_totalTime_iff {sum : Milliseconds} (h : route.trace calculator 0 = .ok samples)
    (hsum : route.totalTime = .ok sum) (hi : route.instructions.getLast? = some i) :
    ∃ final, samples.getLast? = some final ∧
      final.time.toNat + i.time.toNat = sum.toNat + i.spent calculator ∧
        (final.time ≤ sum ↔ i.spent calculator ≤ i.time.toNat) := by
  obtain ⟨final, hfinal, htime⟩ := exists_getLast?_of_traceFrom h hi
  have htotal := toNat_of_addTimes hsum
  rw [← htotal] at htime
  refine ⟨final, hfinal, htime, ?_⟩
  rw [UInt64.le_iff_toNat_le]
  omega

/-- A route of which nothing follows the halves. -/
def overrunning : Route := ⟨[twoHalves]⟩

/-- The trace of `overrunning`: it takes two milliseconds. -/
def overrunningSamples : List Sample := [⟨0, 0, none, 0⟩, ⟨0, 1, none, 1⟩, ⟨0, 2, none, 2⟩]

theorem final_time_le_totalTime_iff_overrunning :
    overrunning.trace .plane 0 = .ok overrunningSamples ∧ overrunning.totalTime = .ok 1 ∧
      overrunning.instructions.getLast? = some twoHalves ∧
        ∃ final, overrunningSamples.getLast? = some final ∧
          final.time.toNat + twoHalves.time.toNat
              = (1 : Milliseconds).toNat + twoHalves.spent .plane ∧
            (final.time ≤ 1 ↔ twoHalves.spent .plane ≤ twoHalves.time.toNat) :=
  have htrace : overrunning.trace .plane 0 = .ok overrunningSamples := by decide +kernel
  have hsum : overrunning.totalTime = .ok 1 := by decide +kernel
  ⟨htrace, hsum, rfl, final_time_le_totalTime_iff htrace hsum rfl⟩

/-- **A measured route without empty instructions whose trace ends after the total time.** -/
theorem not_le_overrunning :
    IsMeasured .plane overrunning.instructions ∧
      (∀ i ∈ overrunning.instructions, i.line.points ≠ []) ∧
        overrunning.trace .plane 0 = .ok overrunningSamples ∧ overrunning.totalTime = .ok 1 ∧
          ∃ final, overrunningSamples.getLast? = some final ∧ ¬final.time ≤ 1 :=
  ⟨⟨by decide +kernel, trivial⟩, by decide +kernel, by decide +kernel, by decide +kernel,
    _, rfl, by decide⟩

end Route

end TurnByTurn
