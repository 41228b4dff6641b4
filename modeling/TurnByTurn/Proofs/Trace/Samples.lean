import TurnByTurn.Guidance.Trace
import TurnByTurn.Proofs.Binary64.Nearest
import TurnByTurn.Proofs.Trace.Clock

/-! # The samples of one instruction

When an instruction has samples, and what they are, in exact terms.

* **`advance`**, **`advances`** — the unrounded shares of the segments, as doubles; `steps_eq` rounds
  them.
* **`samples_eq_ok_iff`** — an instruction has samples exactly when nothing stands against it, its end
  fits, and its clock runs through.
* **`exists_samples_eq_ok_iff`**, **`samples_eq_timeOverflow_iff`** — the same in exact sums.
* **`exists_getElem?_of_samples`** — every point has its sample, at the start plus the steps before it.

The step to the follower comes last and no sample shows it: `steps_none_isPrefix`. -/

namespace TurnByTurn

open Milliseconds (total)

/-! ## Neighbours -/

/-- More elements at the end of a list only add pairs of neighbours at the end. -/
theorem zipWith_tail_isPrefix {α β : Type*} (f : α → α → β) (l rest : List α) :
    List.zipWith f l l.tail <+: List.zipWith f (l ++ rest) (l ++ rest).tail := by
  induction l with
  | nil => exact List.nil_prefix
  | cons a l ih =>
      cases l with
      | nil => exact List.nil_prefix
      | cons b l => simpa using ih

/-- A sample is taken at its time. -/
@[simp] theorem Sample.time_at (is3d : Bool) (p : Point) (time : Milliseconds) :
    (Sample.at is3d p time).time = time := rfl

namespace Instruction

variable {calculator : Calculator} {i : Instruction} {follower : Option Instruction}
  {start stop : Milliseconds} {own : List Sample}

/-! ## Steps -/

/-- **The share of a segment before it is rounded**: the duration times the segment over the whole
length, in doubles. An instruction without duration has none to share. -/
def advance (i : Instruction) (segment : Meters) : Float :=
  if i.time = 0 then 0 else i.time.toFloat * segment.value / i.distance.value

/-- A rounded share in exact terms. -/
theorem saturated_advance (i : Instruction) (segment : Meters) :
    Binary64.saturated (i.advance segment) = if i.time = 0 then 0 else
      Binary64.saturated (i.time.toFloat * segment.value / i.distance.value) := by
  rw [advance, apply_ite Binary64.saturated, Binary64.saturated_zero]

/-- **The shares of the segments of an instruction** before they are rounded. -/
def advances (calculator : Calculator) (i : Instruction) (next : Option Point) : List Float :=
  (i.segments calculator next).map i.advance

/-- Steps are rounded shares. -/
theorem steps_eq (calculator : Calculator) (i : Instruction) (next : Option Point) :
    i.steps calculator next = (i.advances calculator next).map Binary64.toUInt64 := by
  rw [steps, advances, List.map_map]
  refine List.map_congr_left fun segment _ => ?_
  by_cases ht : i.time = 0
  · rw [if_pos ht, Function.comp_apply, advance, if_pos ht]
    decide
  · rw [if_neg ht, Function.comp_apply, advance, if_neg ht, share]

/-- The exact sum of steps. -/
theorem total_map_toUInt64 (advances : List Float) :
    total (advances.map Binary64.toUInt64) = (advances.map Binary64.saturated).sum := by
  rw [total, List.map_map]
  congr 1
  exact List.map_congr_left fun x _ => Binary64.toNat_toUInt64 x

/-- The segments between its own points come first. -/
theorem segments_none_isPrefix (calculator : Calculator) (i : Instruction) (next : Option Point) :
    i.segments calculator none <+: i.segments calculator next := by
  simpa [segments_eq_zipWith] using
    zipWith_tail_isPrefix (calculator.distance i.line.is3d) i.line.points next.toList

/-- The steps between its own points come first. -/
theorem steps_none_isPrefix (calculator : Calculator) (i : Instruction) (next : Option Point) :
    i.steps calculator none <+: i.steps calculator next :=
  (segments_none_isPrefix calculator i next).map _

/-- There is one step between two neighbours. -/
@[simp] theorem length_steps_none (calculator : Calculator) (i : Instruction) :
    (i.steps calculator none).length = i.line.size - 1 := by
  simp [steps, length_segments]

/-- The step from a point to the next one. -/
theorem getElem?_steps_none {j : ℕ} {p q : Point} (hp : i.line.points[j]? = some p)
    (hq : i.line.points[j + 1]? = some q) :
    (i.steps calculator none)[j]?
      = some (Binary64.toUInt64 (i.advance (calculator.distance i.line.is3d p q))) := by
  rw [steps_eq, advances, segments_eq_zipWith]
  simp [List.getElem?_zipWith, hp, hq]

/-! ## When there are samples -/

/-- Nothing stands against an instruction only if it has points. -/
theorem points_ne_nil_of_obstacle (h : i.obstacle follower = none) : i.line.points ≠ [] := by
  intro hp
  simp [obstacle, hp] at h

/-- **An instruction has samples exactly when nothing stands against it, its end fits and its clock
runs through**; the samples are its points with the readings. -/
theorem samples_eq_ok_iff :
    i.samples calculator follower start = .ok (own, stop) ↔
      i.obstacle follower = none ∧ stop.toNat = start.toNat + i.time.toNat ∧
        ∃ readings, Milliseconds.clock? start
            (i.steps calculator (follower.bind (·.line.first?))) = some readings ∧
          own = List.zipWith (Sample.at i.line.is3d) i.line.points readings := by
  unfold samples
  cases i.obstacle follower with
  | some error => simp
  | none =>
      simp only [true_and, ← Milliseconds.add?_eq_some_iff]
      cases start.add? i.time with
      | none => simp
      | some next =>
          cases Milliseconds.clock? start (i.steps calculator (follower.bind (·.line.first?))) with
          | none => simp
          | some readings =>
              simp only [Except.ok.injEq, Prod.mk.injEq, Option.some.injEq]
              constructor
              · rintro ⟨rfl, rfl⟩
                exact ⟨rfl, readings, rfl, rfl⟩
              · rintro ⟨rfl, _, rfl, rfl⟩
                exact ⟨rfl, rfl⟩

/-- **Without obstacle, an instruction has samples exactly when its end and all its steps fit.** -/
theorem exists_samples_eq_ok_iff (h : i.obstacle follower = none) :
    (∃ own stop, i.samples calculator follower start = .ok (own, stop)) ↔
      start.toNat + i.time.toNat < 2 ^ 64 ∧
        start.toNat + total (i.steps calculator (follower.bind (·.line.first?))) < 2 ^ 64 := by
  simp only [samples_eq_ok_iff, h, true_and, ← Milliseconds.isSome_clock?_iff]
  constructor
  · rintro ⟨own, stop, hstop, readings, hclock, -⟩
    exact ⟨hstop ▸ stop.toNat_lt, readings, hclock⟩
  · rintro ⟨hstop, readings, hclock⟩
    exact ⟨_, _, UInt64.toNat_ofNat_of_lt' hstop, readings, hclock, rfl⟩

/-- Without obstacle only the clock can stop an instruction. -/
theorem eq_timeOverflow_of_samples (h : i.obstacle follower = none) {error : GuidanceError}
    (herror : i.samples calculator follower start = .error error) :
    error = .timeOverflow i.label := by
  unfold samples at herror
  rw [h] at herror
  dsimp only at herror
  split at herror
  · cases herror
  · cases herror
    rfl

/-- **Without obstacle, the clock stops an instruction exactly when its end or its steps do not fit.** -/
theorem samples_eq_timeOverflow_iff (h : i.obstacle follower = none) :
    i.samples calculator follower start = .error (.timeOverflow i.label) ↔
      2 ^ 64 ≤ start.toNat + i.time.toNat ∨
        2 ^ 64 ≤ start.toNat + total (i.steps calculator (follower.bind (·.line.first?))) := by
  constructor
  · intro herror
    by_contra hfit
    rw [not_or, not_le, not_le] at hfit
    obtain ⟨own, stop, hok⟩ := (exists_samples_eq_ok_iff h).mpr hfit
    cases herror.symm.trans hok
  · intro hover
    cases hsamples : i.samples calculator follower start with
    | error error => rw [eq_timeOverflow_of_samples h hsamples]
    | ok result =>
        obtain ⟨hstop, hsteps⟩ := (exists_samples_eq_ok_iff h).mp ⟨_, _, hsamples⟩
        omega

/-! ## What the samples are -/

/-- One sample for each point. -/
theorem length_of_samples (h : i.samples calculator follower start = .ok (own, stop)) :
    own.length = i.line.size := by
  obtain ⟨hobstacle, -, readings, hclock, rfl⟩ := samples_eq_ok_iff.mp h
  have hne := List.length_pos_iff.mpr (points_ne_nil_of_obstacle hobstacle)
  rw [List.length_zipWith, Milliseconds.length_of_clock? hclock, steps, List.length_map,
    length_segments, Polyline.size]
  omega

/-- **The sample of a point**: its place, at the start plus the steps before it. -/
theorem exists_getElem?_of_samples (h : i.samples calculator follower start = .ok (own, stop))
    {j : ℕ} {p : Point} (hp : i.line.points[j]? = some p) :
    ∃ time : Milliseconds, own[j]? = some (Sample.at i.line.is3d p time) ∧
      time.toNat = start.toNat + total ((i.steps calculator none).take j) := by
  obtain ⟨-, -, readings, hclock, rfl⟩ := samples_eq_ok_iff.mp h
  obtain ⟨rest, hsteps⟩ := steps_none_isPrefix calculator i (follower.bind (·.line.first?))
  have hj : j ≤ (i.steps calculator none).length := by
    have := (List.getElem?_eq_some_iff.mp hp).1
    rw [length_steps_none, Polyline.size]
    omega
  rw [← hsteps] at hclock
  obtain ⟨time, htime, hsum⟩ := Milliseconds.exists_getElem?_of_clock? hclock
    (hj.trans (by rw [List.length_append]; exact Nat.le_add_right _ _))
  refine ⟨time, by rw [List.getElem?_zipWith, hp, htime], ?_⟩
  rw [hsum, List.take_append_of_le_length hj]

end Instruction

end TurnByTurn
