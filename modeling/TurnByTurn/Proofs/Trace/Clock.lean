import Mathlib.Algebra.BigOperators.Group.List.Basic
import Mathlib.Algebra.Order.BigOperators.Group.List
import Mathlib.Algebra.Order.Ring.Nat
import TurnByTurn.Guidance.Milliseconds

/-! # Clocks in exact terms

A clock of 64 bits either shows the exact prefix sums of its steps or nothing at all.

* **`total times`** — the exact sum of times, however large.
* **`isSome_clock?_iff`** — a clock runs through exactly when the sum of all its steps fits.
* **`exists_getElem?_of_clock?`** — its readings are the exact prefix sums. -/

namespace TurnByTurn.Milliseconds

/-! ## Exact sums -/

/-- **The exact sum of times**, however large. -/
def total (times : List Milliseconds) : ℕ := (times.map UInt64.toNat).sum

@[simp] theorem total_nil : total [] = 0 := rfl

@[simp] theorem total_cons (time : Milliseconds) (times : List Milliseconds) :
    total (time :: times) = time.toNat + total times := by
  simp [total]

@[simp] theorem total_append (times times' : List Milliseconds) :
    total (times ++ times') = total times + total times' := by
  simp [total]

/-- A part from the beginning sums to no more than the whole. -/
theorem total_le_of_isPrefix {times times' : List Milliseconds} (h : times <+: times') :
    total times ≤ total times' := by
  obtain ⟨rest, rfl⟩ := h
  rw [total_append]
  exact Nat.le_add_right _ _

/-- The sum up to the next step. -/
theorem total_take_succ {times : List Milliseconds} {j : ℕ} {time : Milliseconds}
    (h : times[j]? = some time) :
    total (times.take (j + 1)) = total (times.take j) + time.toNat := by
  rw [List.take_add_one, h, total_append, Option.toList_some, total_cons, total_nil, Nat.add_zero]

/-! ## Readings -/

/-- A clock that takes a step shows its start and then runs on from the exact sum. -/
theorem clock?_cons_eq_some_iff {start step : Milliseconds} {steps readings : List Milliseconds} :
    clock? start (step :: steps) = some readings ↔
      ∃ next rest, next.toNat = start.toNat + step.toNat ∧ clock? next steps = some rest ∧
        readings = start :: rest := by
  simp only [clock?, Option.bind_eq_bind, Option.bind_eq_some_iff, add?_eq_some_iff]
  constructor
  · rintro ⟨next, hnext, rest, hrest, h⟩
    exact ⟨next, rest, hnext, hrest, (Option.some.inj h).symm⟩
  · rintro ⟨next, rest, hnext, hrest, rfl⟩
    exact ⟨next, hnext, rest, hrest, rfl⟩

/-- **A clock runs through all its steps exactly when the sum of them fits.** Steps never go back, so
the last reading is the largest. -/
theorem isSome_clock?_iff {start : Milliseconds} {steps : List Milliseconds} :
    (∃ readings, clock? start steps = some readings) ↔ start.toNat + total steps < 2 ^ 64 := by
  induction steps generalizing start with
  | nil =>
      simp only [clock?_nil, total_nil, Nat.add_zero]
      exact ⟨fun _ => start.toNat_lt, fun _ => ⟨_, rfl⟩⟩
  | cons step steps ih =>
      simp only [clock?_cons_eq_some_iff, total_cons]
      constructor
      · rintro ⟨_, next, rest, hnext, hrest, -⟩
        have := ih.mp ⟨rest, hrest⟩
        omega
      · intro h
        obtain ⟨next, hnext⟩ : ∃ next : Milliseconds, next.toNat = start.toNat + step.toNat :=
          ⟨_, UInt64.toNat_ofNat_of_lt' (show _ < 2 ^ 64 by omega)⟩
        obtain ⟨rest, hrest⟩ := ih.mpr (show next.toNat + total steps < 2 ^ 64 by omega)
        exact ⟨_, next, rest, hnext, hrest, rfl⟩

/-- **The readings of a clock are the exact prefix sums of its steps.** -/
theorem exists_getElem?_of_clock? {start : Milliseconds} {steps readings : List Milliseconds}
    (h : clock? start steps = some readings) {j : ℕ} (hj : j ≤ steps.length) :
    ∃ reading, readings[j]? = some reading ∧
      reading.toNat = start.toNat + total (steps.take j) := by
  induction steps generalizing start readings j with
  | nil =>
      obtain rfl : [start] = readings := by simpa using h
      obtain rfl : j = 0 := by simpa using hj
      exact ⟨start, rfl, by simp⟩
  | cons step steps ih =>
      obtain ⟨next, rest, hnext, hrest, rfl⟩ := clock?_cons_eq_some_iff.mp h
      cases j with
      | zero => exact ⟨start, rfl, by simp⟩
      | succ j =>
          obtain ⟨reading, hreading, hsum⟩ := ih hrest (Nat.le_of_succ_le_succ hj)
          refine ⟨reading, by simpa using hreading, ?_⟩
          rw [hsum, hnext, List.take_succ_cons, total_cons, Nat.add_assoc]

end TurnByTurn.Milliseconds
