import TurnByTurn.Proofs.Binary64.Values
import TurnByTurn.Proofs.Trace.Order

/-! # How far rounding carries

Every step of an instruction is rounded on its own, and what rounding adds or takes away stays on the clock up
to the end of the instruction. It is half a millisecond a step at most.

* **`FitsClock`** — the shares that a clock can show.
* **`abs_sum_saturated_sub_le`** — a sum of rounded shares, against the exact one.
* **`Instruction.exactShares`** — the exact shares of the segments.
* **`Instruction.abs_time_sub_le`** — the time of a sample, against the exact one. -/

namespace TurnByTurn

open Binary64 (value saturated)
open Milliseconds (total)

/-! ## Sums of rounded shares -/

/-- **A share that a clock can show**: a number from zero on and below `2 ^ 64`. -/
structure FitsClock (x : Float) : Prop where
  isFinite : x.isFinite = true
  nonneg : 0 ≤ value x
  lt : value x < 2 ^ 64

/-- **A sum of rounded shares is off by half a millisecond a share at most.** -/
theorem abs_sum_saturated_sub_le {shares : List Float} (h : ∀ x ∈ shares, FitsClock x) :
    |((shares.map saturated).sum : ℚ) - (shares.map value).sum| ≤ shares.length / 2 := by
  induction shares with
  | nil => simp
  | cons x rest ih =>
      obtain ⟨hx, hrest⟩ := List.forall_mem_cons.mp h
      have hfirst := Binary64.abs_saturated_sub_value_le hx.isFinite hx.nonneg hx.lt
      have hlater := ih hrest
      rw [List.map_cons, List.map_cons, List.sum_cons, List.sum_cons, List.length_cons, Nat.cast_add,
        Nat.cast_succ, abs_le]
      rw [abs_le] at hfirst hlater
      constructor <;> linarith

namespace Instruction

variable {calculator : Calculator} {i : Instruction} {follower : Option Instruction}
  {start stop : Milliseconds} {own : List Sample}

/-! ## Times of samples -/

/-- **The exact shares of the segments of an instruction**: the duration times the segment over the whole
length, computed in doubles and not rounded to whole milliseconds. -/
def exactShares (calculator : Calculator) (i : Instruction) (next : Option Point) : List ℚ :=
  (i.advances calculator next).map value

/-- The shares between its own points come first. -/
theorem advances_none_isPrefix (calculator : Calculator) (i : Instruction) (next : Option Point) :
    i.advances calculator none <+: i.advances calculator next :=
  (segments_none_isPrefix calculator i next).map _

/-- The shares before a sample are those between its own points. -/
theorem take_advances {k : ℕ} (hk : k < i.line.size) (next : Option Point) :
    (i.advances calculator next).take k = (i.advances calculator none).take k := by
  obtain ⟨rest, hrest⟩ := advances_none_isPrefix calculator i next
  rw [← hrest, List.take_append_of_le_length]
  rw [advances, List.length_map, length_segments, Option.toList_none, List.length_nil]
  omega

/-- **Rounding carries half a millisecond a step at most**: the time of the `k`-th sample is that near to the
start plus the exact shares before it, if a clock can show these. -/
theorem abs_time_sub_le (h : i.samples calculator follower start = .ok (own, stop)) {k : ℕ}
    {sample : Sample} (hsample : own[k]? = some sample)
    (hshares : ∀ x ∈ (i.advances calculator (follower.bind (·.line.first?))).take k, FitsClock x) :
    |(sample.time.toNat : ℚ) - (start.toNat
        + ((i.exactShares calculator (follower.bind (·.line.first?))).take k).sum)| ≤ k / 2 := by
  have hk : k < i.line.size := by
    rw [← length_of_samples h]
    exact (List.getElem?_eq_some_iff.mp hsample).1
  obtain ⟨time, htime, hsum⟩ := exists_getElem?_of_samples h (List.getElem?_eq_getElem hk)
  obtain rfl := Option.some.inj (hsample.symm.trans htime)
  rw [take_advances hk] at hshares
  have hlength : (((i.advances calculator none).take k).length : ℚ) ≤ k := by
    exact_mod_cast List.length_take_le k _
  have hdrift := abs_sum_saturated_sub_le hshares
  -- the steps before a sample are the rounded shares before it
  have hsteps : total ((i.steps calculator none).take k)
      = (((i.advances calculator none).take k).map saturated).sum := by
    rw [steps_eq, ← List.map_take, total_map_toUInt64]
  rw [Sample.time_at, hsum, hsteps, exactShares, ← List.map_take, take_advances hk (follower.bind _),
    Nat.cast_add, add_sub_add_left_eq_sub]
  exact hdrift.trans (div_le_div_of_nonneg_right hlength two_pos.le)

/-- Two steps that both round up by a half: the bound is reached. -/
theorem abs_time_sub_le_twoHalves :
    Route.twoHalves.samples .plane none 0 = .ok (Route.overrunningSamples, 1) ∧
      Route.overrunningSamples[2]? = some ⟨0, 2, none, 2⟩ ∧
        (∀ x ∈ (Route.twoHalves.advances .plane none).take 2, FitsClock x) ∧
          |(((2 : Milliseconds).toNat : ℕ) : ℚ) - ((0 : Milliseconds).toNat
            + ((Route.twoHalves.exactShares .plane none).take 2).sum)| ≤ (2 : ℕ) / 2 := by
  have hsamples : Route.twoHalves.samples .plane none 0 = .ok (Route.overrunningSamples, 1) := by
    decide +kernel
  have hshares : ∀ x ∈ (Route.twoHalves.advances .plane none).take 2, FitsClock x := by
    have hhalves : (Route.twoHalves.advances .plane none).take 2 = [0.5, 0.5] := by decide +kernel
    have hvalue : value 0.5 = 1 / 2 := by decide +kernel
    intro x hx
    obtain rfl : x = 0.5 := by simpa [hhalves] using hx
    exact ⟨by decide +kernel, by rw [hvalue]; norm_num, by rw [hvalue]; norm_num⟩
  have hsample : Route.overrunningSamples[2]? = some ⟨0, 2, none, 2⟩ := rfl
  have hbound := abs_time_sub_le hsamples hsample
  rw [Option.bind_none] at hbound
  exact ⟨hsamples, hsample, hshares, hbound hshares⟩

end Instruction

end TurnByTurn
