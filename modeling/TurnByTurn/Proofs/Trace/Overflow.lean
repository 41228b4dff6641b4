import TurnByTurn.Proofs.Trace.Samples

/-! # Times beyond 64 bits

The clock is checked at every step, but a share is held inside 64 bits before the clock sees it. A
share that is too large becomes the largest time there is, and only another millisecond on the clock
makes it too much.

* **`Instruction.exactTime`** — the time of a sample, however large.
* **`Instruction.Misfits`** — some share or some time of a sample is no number of 64 bits.
* **`Instruction.ReportsOverflow`** — when that is reported, and when it is not.
* **`Instruction.reportsOverflow`** — every instruction without obstacle does so.
* **`Instruction.misfits_capped`** — an instruction whose share is held without a word. -/

namespace TurnByTurn.Instruction

open Binary64 (Fits Exceeds nearest? saturated)
open Milliseconds (total)

variable {calculator : Calculator} {i : Instruction} {follower : Option Instruction}
  {start : Milliseconds}

/-- **The exact time of the `j`-th sample**: the start plus the nearest whole numbers of the shares
before it. An infinite share has none and adds nothing here; `Misfits` sees it on its own. -/
def exactTime (calculator : Calculator) (i : Instruction) (start : Milliseconds) (j : ℕ) : ℤ :=
  start.toNat + (((i.advances calculator none).take j).map fun x => (nearest? x).getD 0).sum

/-- **Whether something about the samples does not fit 64 bits**: the rounded share before one of
them, or the exact time of one. -/
def Misfits (calculator : Calculator) (i : Instruction) (start : Milliseconds) : Prop :=
  (∃ x ∈ i.advances calculator none, ¬Fits x) ∨
    ∃ j < i.line.size, 2 ^ 64 ≤ i.exactTime calculator start j

/-- **When an instruction reports what does not fit 64 bits.** -/
structure ReportsOverflow (calculator : Calculator) (i : Instruction) (follower : Option Instruction)
    (start : Milliseconds) : Prop where
  /-- What does not fit is reported exactly when all shares do fit on their own, or the end or the sum
  of the held shares does not. -/
  misfits_iff :
    (i.Misfits calculator start →
        i.samples calculator follower start = .error (.timeOverflow i.label)) ↔
      (∀ x ∈ i.advances calculator none, Fits x) ∨ 2 ^ 64 ≤ start.toNat + i.time.toNat ∨
        2 ^ 64 ≤ start.toNat
          + ((i.advances calculator (follower.bind (·.line.first?))).map saturated).sum
  /-- A share that is too large is reported unless the clock stands at zero without it. -/
  exceeds_iff : ∀ before x after,
    i.advances calculator (follower.bind (·.line.first?)) = before ++ x :: after → Exceeds x →
      (i.samples calculator follower start = .error (.timeOverflow i.label) ↔
        start ≠ 0 ∨ ∃ y ∈ before ++ after, saturated y ≠ 0)
  /-- A share that is below zero or no number goes unnoticed: it counts as nothing. -/
  unnoticed_iff : ∀ before x after,
    i.advances calculator (follower.bind (·.line.first?)) = before ++ x :: after →
      ¬Fits x → ¬Exceeds x →
        (i.samples calculator follower start = .error (.timeOverflow i.label) ↔
          2 ^ 64 ≤ start.toNat + i.time.toNat ∨
            2 ^ 64 ≤ start.toNat + ((before ++ after).map saturated).sum)
  /-- Times are exact where all shares fit. -/
  time_eq : ∀ own stop, i.samples calculator follower start = .ok (own, stop) →
    (∀ x ∈ i.advances calculator none, Fits x) →
      ∀ j sample, own[j]? = some sample → sample.time.toNat = i.exactTime calculator start j

/-- Shares that fit sum to what they are held at. -/
theorem sum_nearest_of_fits {advances : List Float} (h : ∀ x ∈ advances, Fits x) :
    (advances.map fun x => (nearest? x).getD 0).sum = ((advances.map saturated).sum : ℕ) := by
  induction advances with
  | nil => rfl
  | cons x rest ih =>
      obtain ⟨n, hn, hx⟩ := h x List.mem_cons_self
      have hrest := ih fun y hy => h y (List.mem_cons_of_mem x hy)
      rw [List.map_cons, List.map_cons, List.sum_cons, List.sum_cons, hrest, hx,
        Binary64.saturated_of_lt hn hx, Option.getD_some, Nat.cast_add]

/-- Where its shares fit, the exact time of a sample is the start plus the steps before it. -/
theorem exactTime_of_fits (h : ∀ x ∈ i.advances calculator none, Fits x) (j : ℕ) :
    i.exactTime calculator start j
      = (start.toNat + total ((i.steps calculator none).take j) : ℕ) := by
  rw [exactTime, sum_nearest_of_fits fun x hx => h x (List.mem_of_mem_take hx), steps_eq,
    ← List.map_take, total_map_toUInt64, Nat.cast_add]

/-- Where its shares fit, the exact time of a sample is at most what the clock has to show. -/
theorem exactTime_le_of_fits (h : ∀ x ∈ i.advances calculator none, Fits x) (j : ℕ)
    (next : Option Point) :
    i.exactTime calculator start j ≤ (start.toNat + total (i.steps calculator next) : ℕ) := by
  rw [exactTime_of_fits h, Nat.cast_le, Nat.add_le_add_iff_left]
  exact Milliseconds.total_le_of_isPrefix
    ((List.take_prefix j _).trans (steps_none_isPrefix calculator i next))

/-- One share taken out of the sum of the held ones. -/
theorem sum_saturated_append_cons (before after : List Float) (x : Float) :
    ((before ++ x :: after).map saturated).sum
      = saturated x + ((before ++ after).map saturated).sum := by
  simp only [List.map_append, List.map_cons, List.sum_append, List.sum_cons]
  omega

/-- The held shares sum to something as soon as one of them is. -/
theorem sum_saturated_pos_iff (advances : List Float) :
    0 < (advances.map saturated).sum ↔ ∃ x ∈ advances, saturated x ≠ 0 := by
  rw [List.sum_pos_iff_exists_pos_nat]
  simp only [List.mem_map, exists_exists_and_eq_and, Nat.pos_iff_ne_zero]

/-- **When the clock stops an instruction**, in terms of its held shares. -/
theorem samples_eq_timeOverflow_iff_sum (h : i.obstacle follower = none) :
    i.samples calculator follower start = .error (.timeOverflow i.label) ↔
      2 ^ 64 ≤ start.toNat + i.time.toNat ∨
        2 ^ 64 ≤ start.toNat
          + ((i.advances calculator (follower.bind (·.line.first?))).map saturated).sum := by
  rw [samples_eq_timeOverflow_iff h, steps_eq, total_map_toUInt64]

/-- **Every instruction without obstacle reports what does not fit, with one exception**: a share that
is too large, on a clock that stands at zero without it. -/
theorem reportsOverflow (h : i.obstacle follower = none) :
    ReportsOverflow calculator i follower start where
  misfits_iff := by
    constructor
    · intro hreport
      by_contra hnot
      rw [not_or, ← samples_eq_timeOverflow_iff_sum h] at hnot
      obtain ⟨hshare, hquiet⟩ := hnot
      push Not at hshare
      exact hquiet (hreport (Or.inl hshare))
    · rintro (hfits | hover) hmisfits
      · rcases hmisfits with ⟨x, hx, hnot⟩ | ⟨j, -, hj⟩
        · exact absurd (hfits x hx) hnot
        · -- the clock has to show at least the exact time of that sample
          have hle : i.exactTime calculator start j ≤ _ :=
            exactTime_le_of_fits hfits j (follower.bind (·.line.first?))
          exact (samples_eq_timeOverflow_iff h).mpr (Or.inr (by omega))
      · exact (samples_eq_timeOverflow_iff_sum h).mpr hover
  exceeds_iff before x after hadvances hx := by
    have hend := i.time.toNat_lt
    have hstart : start ≠ 0 ↔ 0 < start.toNat := by
      rw [ne_eq, ← UInt64.toNat_inj, UInt64.toNat_zero, Nat.pos_iff_ne_zero]
    rw [samples_eq_timeOverflow_iff_sum h, hadvances, sum_saturated_append_cons,
      Binary64.saturated_of_exceeds hx, ← sum_saturated_pos_iff, hstart]
    omega
  unnoticed_iff before x after hadvances hfits hexceeds := by
    rw [samples_eq_timeOverflow_iff_sum h, hadvances, sum_saturated_append_cons,
      Binary64.saturated_of_not_fits hfits hexceeds, Nat.zero_add]
  time_eq own stop hsamples hfits j sample hsample := by
    have hj : j < i.line.points.length := by
      rw [← Polyline.size, ← length_of_samples hsamples]
      exact (List.getElem?_eq_some_iff.mp hsample).1
    obtain ⟨time, htime, hsum⟩ := exists_getElem?_of_samples hsamples (List.getElem?_eq_getElem hj)
    obtain rfl := Option.some.inj (hsample.symm.trans htime)
    rw [exactTime_of_fits hfits, Sample.time_at, hsum]

/-- One millisecond for a length that is nearly none, over a segment that is not. -/
def capped : Instruction where
  turn := .straight
  name := ""
  line := .ofPoints false [⟨0, 0, none⟩, ⟨0, 1, none⟩]
  distance := ⟨1e-20⟩
  time := 1

theorem reportsOverflow_capped :
    capped.obstacle none = none ∧ ReportsOverflow .plane capped none 0 :=
  ⟨by decide +kernel, reportsOverflow (by decide +kernel)⟩

/-- **A share that does not fit, and a trace all the same**: it ends at the largest time there is, far
from the exact one. -/
theorem misfits_capped :
    capped.obstacle none = none ∧ capped.Misfits .plane 0 ∧
      capped.exactTime .plane 0 1 = 10 ^ 20 ∧
        capped.samples .plane none 0
          = .ok ([⟨0, 0, none, 0⟩, ⟨0, 1, none, 18446744073709551615⟩], 1) := by
  have hshare : nearest? 1e20 = some (10 ^ 20) := by decide +kernel
  have hadvances : capped.advances .plane none = [1e20] := by decide +kernel
  refine ⟨by decide +kernel, Or.inl ⟨1e20, ?_, ?_⟩, by decide +kernel, by decide +kernel⟩
  · rw [hadvances]
    exact List.mem_singleton_self _
  · exact Binary64.not_fits_of_exceeds (Or.inr ⟨_, by norm_num, hshare⟩)

end TurnByTurn.Instruction
