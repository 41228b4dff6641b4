import TurnByTurn.Proofs.Trace.Outcome

/-! # Parts of a route and earlier starts

A trace knows nothing of the route beyond the points it has reached: a follower leaves no mark on the
samples before it, and the time of day none on anything but the clock.

* **`Sample.IsDelayed`** — two samples of the same place, one later than the other.
* **`Instruction.forall₂_isDelayed_of_samples`** — an instruction has the same samples whatever follows
  it, as much later as it starts.
* **`Route.trace_take_drop`** — the trace of a route is the trace of its first instructions and then
  that of the others.
* **`Route.trace_of_le`** — a route that starts earlier is traced the same way, only earlier. -/

namespace TurnByTurn

open Milliseconds (total)

/-- **The same place, later**: `b` is where `a` is, by so many milliseconds later. -/
structure Sample.IsDelayed (delay : ℕ) (a b : Sample) : Prop where
  point_eq : b.point = a.point
  time_eq : b.time.toNat = a.time.toNat + delay

/-- **A sample without delay is the same sample.** -/
theorem Sample.isDelayed_zero : Sample.IsDelayed 0 = Eq := by
  funext a b
  refine propext ⟨fun ⟨hpoint, htime⟩ => ?_, fun h => h ▸ ⟨rfl, rfl⟩⟩
  rw [Nat.add_zero, UInt64.toNat_inj] at htime
  obtain ⟨latitude, longitude, elevation, time⟩ := a
  obtain ⟨latitude', longitude', elevation', time'⟩ := b
  obtain ⟨rfl, rfl, rfl⟩ := Point.mk.inj hpoint
  obtain rfl : time' = time := htime
  rfl

/-! ## One instruction -/

namespace Instruction

variable {calculator : Calculator} {i : Instruction} {follower follower' : Option Instruction}
  {start start' stop stop' : Milliseconds} {own own' : List Sample} {delay : ℕ}

/-- Without a follower there is less to clock. -/
theorem clockTime_none_le (calculator : Calculator) (i : Instruction)
    (follower : Option Instruction) :
    i.clockTime calculator none ≤ i.clockTime calculator follower := by
  rw [← total_steps_eq_clockTime, ← total_steps_eq_clockTime]
  exact Milliseconds.total_le_of_isPrefix (steps_none_isPrefix calculator i _)

/-- **Neither the follower nor the start leaves a mark on the samples**, apart from how late they
are. -/
theorem forall₂_isDelayed_of_samples (h : i.samples calculator follower start = .ok (own, stop))
    (h' : i.samples calculator follower' start' = .ok (own', stop'))
    (hdelay : start.toNat = start'.toNat + delay) :
    List.Forall₂ (Sample.IsDelayed delay) own' own ∧ stop.toNat = stop'.toNat + delay := by
  constructor
  · refine List.forall₂_iff_get.mpr
      ⟨by rw [length_of_samples h, length_of_samples h'], fun j hj' hj => ?_⟩
    have hp := List.getElem?_eq_getElem (l := i.line.points) (i := j)
      (by rwa [length_of_samples h'] at hj')
    obtain ⟨time, hsample, htime⟩ := exists_getElem?_of_samples h hp
    obtain ⟨time', hsample', htime'⟩ := exists_getElem?_of_samples h' hp
    rw [List.getElem?_eq_getElem hj, Option.some.injEq] at hsample
    rw [List.getElem?_eq_getElem hj', Option.some.injEq] at hsample'
    rw [List.get_eq_getElem, List.get_eq_getElem, hsample, hsample']
    exact ⟨rfl, by rw [Sample.time_at, Sample.time_at, htime, htime']; omega⟩
  · rw [(samples_eq_ok_iff.mp h).2.1, (samples_eq_ok_iff.mp h').2.1]
    omega

/-- **Without its follower an instruction still has the same samples.** -/
theorem samples_none_of_samples (h : i.samples calculator follower start = .ok (own, stop)) :
    i.samples calculator none start = .ok (own, stop) := by
  obtain ⟨hpoints, -, hlength, hend, hsteps⟩ :=
    first?_checks_eq_none_iff.mp (exists_samples_iff_first?.mp ⟨own, stop, h⟩)
  have hsteps' := Nat.lt_of_le_of_lt
    (Nat.add_le_add_left (clockTime_none_le calculator i follower) start.toNat) hsteps
  obtain ⟨own', stop', h'⟩ := exists_samples_iff_first?.mpr
    (first?_checks_eq_none_iff.mpr ⟨hpoints, by simp, hlength, hend, hsteps'⟩)
  obtain ⟨hown, hstop⟩ := forall₂_isDelayed_of_samples h h' (Nat.add_zero _).symm
  rw [Sample.isDelayed_zero, List.forall₂_eq_eq_eq] at hown
  rw [h', hown, UInt64.toNat_inj.mp hstop]

/-- An error that is not of the clock was there before the clock ran. -/
theorem obstacle_of_first?_checks {start : ℕ} {error : GuidanceError}
    (h : Check.first? (i.checks calculator follower start) = some error)
    (hclock : ∀ label, error ≠ .timeOverflow label) : i.obstacle follower = some error := by
  rw [first?_checks, Option.or_eq_some_iff] at h
  rcases h with h | ⟨-, h⟩
  · exact h
  · unfold clockFault? at h
    split at h
    · exact absurd (Option.some.inj h).symm (hclock i.label)
    · cases h

end Instruction

/-! ## Parts of a route -/

namespace Route

variable {calculator : Calculator} {route : Route} {start start' : Milliseconds}
  {instructions front back : List Instruction} {samples samples' : List Sample} {delay : ℕ}

/-- **A run over two stretches is a run over the first and then one over the second**, which starts at
the exact end of the first. -/
theorem exists_of_traceFrom_append
    (h : traceFrom calculator start (front ++ back) = .ok samples) :
    ∃ stop early late, stop.toNat = start.toNat + duration front ∧
      traceFrom calculator start front = .ok early ∧
        traceFrom calculator stop back = .ok late ∧ samples = early ++ late := by
  induction front generalizing start samples with
  | nil => exact ⟨start, [], samples, by simp, rfl, h, rfl⟩
  | cons i rest ih =>
      obtain ⟨own, next, later, hown, hlater, rfl⟩ := traceFrom_cons_eq_ok_iff.mp h
      obtain ⟨stop, early, late, hstop, hearly, hlate, rfl⟩ := ih hlater
      -- the cut takes the follower from the last instruction of the first stretch only
      have hown' : i.samples calculator rest.head? start = .ok (own, next) := by
        cases rest with
        | nil => exact Instruction.samples_none_of_samples hown
        | cons f rest => exact hown
      refine ⟨stop, own ++ early, late, ?_, ?_, hlate, (List.append_assoc ..).symm⟩
      · rw [hstop, (Instruction.samples_eq_ok_iff.mp hown).2.1, duration_cons, Nat.add_assoc]
      · exact traceFrom_cons_eq_ok_iff.mpr ⟨own, next, early, hown', hearly, rfl⟩

/-- A run over the first instructions has a sample for each of their points. -/
theorem length_of_traceFrom_take {k : ℕ}
    (h : traceFrom calculator start (instructions.take k) = .ok samples) :
    samples.length = pointsBefore instructions k := by
  rw [length_of_traceFrom h, List.length_flatMap]
  rfl

/-- **The trace of a route is the trace of its first instructions and then that of the others**, who
start at the exact end of the first ones. -/
theorem trace_take_drop (h : route.trace calculator start = .ok samples) (k : ℕ) :
    ∃ stop : Milliseconds, stop.toNat = start.toNat + timeBefore route.instructions k ∧
      Route.trace calculator ⟨route.instructions.take k⟩ start
        = .ok (samples.take (pointsBefore route.instructions k)) ∧
      Route.trace calculator ⟨route.instructions.drop k⟩ stop
        = .ok (samples.drop (pointsBefore route.instructions k)) := by
  rw [trace, ← List.take_append_drop k route.instructions] at h
  obtain ⟨stop, early, late, hstop, hearly, hlate, rfl⟩ := exists_of_traceFrom_append h
  refine ⟨stop, hstop, ?_, ?_⟩
  · rw [trace, hearly, ← length_of_traceFrom_take hearly, List.take_left]
  · rw [trace, hlate, ← length_of_traceFrom_take hearly, List.drop_left]

theorem trace_take_drop_threeLegs :
    threeLegs.trace .plane 500 = .ok threeLegsSamples ∧
      ∃ stop : Milliseconds,
        stop.toNat = (500 : Milliseconds).toNat + timeBefore threeLegs.instructions 1 ∧
          Route.trace .plane ⟨threeLegs.instructions.take 1⟩ 500
            = .ok (threeLegsSamples.take (pointsBefore threeLegs.instructions 1)) ∧
          Route.trace .plane ⟨threeLegs.instructions.drop 1⟩ stop
            = .ok (threeLegsSamples.drop (pointsBefore threeLegs.instructions 1)) :=
  have h : threeLegs.trace .plane 500 = .ok threeLegsSamples := by decide +kernel
  ⟨h, trace_take_drop h 1⟩

/-! ## Earlier starts -/

/-- What is not wrong at a later start is not wrong at an earlier one. -/
theorem faultAt?_eq_none_of_le {start start' k : ℕ} (hle : start' ≤ start)
    (h : faultAt? calculator instructions start k = none) :
    faultAt? calculator instructions start' k = none := by
  refine faultAt?_eq_none_iff.mpr fun i hi => ?_
  obtain ⟨hpoints, hfollower, hlength, hend, hsteps⟩ :=
    Instruction.first?_checks_eq_none_iff.mp (faultAt?_eq_none_iff.mp h i hi)
  exact Instruction.first?_checks_eq_none_iff.mpr
    ⟨hpoints, hfollower, hlength, by omega, by omega⟩

/-- What is wrong at an instruction, but not with its clock, is wrong at every start. -/
theorem faultAt?_eq_some_of_ne_timeOverflow {start k : ℕ} {error : GuidanceError}
    (h : faultAt? calculator instructions start k = some error)
    (hclock : ∀ label, error ≠ .timeOverflow label) (start' : ℕ) :
    faultAt? calculator instructions start' k = some error := by
  obtain ⟨i, hi, hfirst⟩ := Option.bind_eq_some_iff.mp h
  have hobstacle := Instruction.obstacle_of_first?_checks hfirst hclock
  rw [faultAt?, hi, Option.bind_some, Instruction.first?_checks, hobstacle, Option.some_or]

/-- **The samples of a run do not depend on its start**, apart from how late they are. -/
theorem forall₂_isDelayed_of_traceFrom
    (h : traceFrom calculator start instructions = .ok samples)
    (h' : traceFrom calculator start' instructions = .ok samples')
    (hdelay : start.toNat = start'.toNat + delay) :
    List.Forall₂ (Sample.IsDelayed delay) samples' samples := by
  induction instructions generalizing start start' samples samples' with
  | nil =>
      cases h
      cases h'
      exact .nil
  | cons i rest ih =>
      obtain ⟨own, stop, later, hown, hlater, rfl⟩ := traceFrom_cons_eq_ok_iff.mp h
      obtain ⟨own', stop', later', hown', hlater', rfl⟩ := traceFrom_cons_eq_ok_iff.mp h'
      obtain ⟨hsamples, hstop⟩ := Instruction.forall₂_isDelayed_of_samples hown hown' hdelay
      exact List.rel_append hsamples (ih hlater hlater' hstop)

/-- **A route that starts earlier is traced the same way, only earlier**, and what refuses it, apart
from the clock, refuses it at every earlier start. -/
theorem trace_of_le (hle : start' ≤ start) :
    (∀ samples, route.trace calculator start = .ok samples →
        ∃ samples', route.trace calculator start' = .ok samples' ∧
          List.Forall₂ (Sample.IsDelayed (start.toNat - start'.toNat)) samples' samples) ∧
      ∀ error, route.trace calculator start = .error error →
        (∀ label, error ≠ .timeOverflow label) → route.trace calculator start' = .error error := by
  rw [UInt64.le_iff_toNat_le] at hle
  constructor
  · intro samples h
    have hnone := exists_traceFrom_iff_faultAt?.mp ⟨samples, h⟩
    obtain ⟨samples', h'⟩ := exists_traceFrom_iff_faultAt?.mpr fun k =>
      faultAt?_eq_none_of_le hle (hnone k)
    exact ⟨samples', h', forall₂_isDelayed_of_traceFrom h h' (by omega)⟩
  · intro error h hclock
    obtain ⟨k, hk, hbefore⟩ := traceFrom_eq_error_iff.mp h
    exact traceFrom_eq_error_iff.mpr
      ⟨k, faultAt?_eq_some_of_ne_timeOverflow hk hclock _,
        fun j hj => faultAt?_eq_none_of_le hle (hbefore j hj)⟩

/-- Ten milliseconds without a length to spread them over. -/
def standstill : Route := ⟨[
  { turn := .straight
    name := ""
    line := .ofPoints false [⟨0, 0, none⟩]
    time := 10 }]⟩

theorem trace_of_le_threeLegs :
    (200 : Milliseconds) ≤ 500 ∧
      threeLegs.trace .plane 500 = .ok threeLegsSamples ∧
      (∃ samples', threeLegs.trace .plane 200 = .ok samples' ∧
        List.Forall₂ (Sample.IsDelayed ((500 : Milliseconds).toNat - (200 : Milliseconds).toNat))
          samples' threeLegsSamples) ∧
      standstill.trace .plane 500 = .error (.zeroDistance "(0,,0,10)") ∧
      standstill.trace .plane 200 = .error (.zeroDistance "(0,,0,10)") :=
  have hle : (200 : Milliseconds) ≤ 500 := by decide
  have htrace : threeLegs.trace .plane 500 = .ok threeLegsSamples := by decide +kernel
  have herror : standstill.trace .plane 500 = .error (.zeroDistance "(0,,0,10)") := by
    decide +kernel
  ⟨hle, htrace, (trace_of_le hle).1 _ htrace, herror,
    (trace_of_le hle).2 _ herror fun _ => GuidanceError.noConfusion⟩

end Route

end TurnByTurn
