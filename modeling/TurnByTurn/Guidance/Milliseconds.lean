/-! # Milliseconds

Durations and clock readings of a route are counted in milliseconds of 64 bits. Adding them never
wraps: a sum that does not fit is no sum.

* **`add?`** — the sum, when it fits.
* **`clock?`** — the readings of a clock that starts somewhere and advances by given steps. -/

namespace TurnByTurn

/-- A duration or a clock reading in milliseconds. -/
abbrev Milliseconds := UInt64

namespace Milliseconds

/-- **The sum of two times**, when it fits 64 bits. -/
def add? (a b : Milliseconds) : Option Milliseconds :=
  if a.toNat + b.toNat < 0x10000000000000000 then some (a + b) else none

/-- A sum that fits is the exact sum. -/
theorem add?_eq_some_iff {a b c : Milliseconds} :
    a.add? b = some c ↔ c.toNat = a.toNat + b.toNat := by
  have hc := c.toNat_lt
  unfold add?
  split
  · rename_i h
    have hab : (a + b).toNat = a.toNat + b.toNat := by
      rw [UInt64.toNat_add, Nat.mod_eq_of_lt h]
    simp only [Option.some.injEq, ← UInt64.toNat_inj, hab]
    exact eq_comm
  · simp only [reduceCtorEq, false_iff]
    omega

/-- There is no sum exactly when the exact one needs more than 64 bits. -/
theorem add?_eq_none_iff {a b : Milliseconds} :
    a.add? b = none ↔ 0x10000000000000000 ≤ a.toNat + b.toNat := by
  unfold add?
  split <;> simp <;> omega

/-- **The readings of a clock** that shows `start` and then advances by the given steps, one reading
more than there are steps, when all of them fit. -/
def clock? (start : Milliseconds) : List Milliseconds → Option (List Milliseconds)
  | [] => some [start]
  | step :: steps => do
      let next ← start.add? step
      return start :: (← clock? next steps)

/-- A clock without steps shows its start. -/
@[simp] theorem clock?_nil (start : Milliseconds) : clock? start [] = some [start] := rfl

/-- A clock shows one reading more than it takes steps. -/
theorem length_of_clock? {start : Milliseconds} {steps readings : List Milliseconds}
    (h : clock? start steps = some readings) : readings.length = steps.length + 1 := by
  induction steps generalizing start readings with
  | nil =>
      obtain rfl : [start] = readings := by simpa using h
      rfl
  | cons step steps ih =>
      simp only [clock?, Option.bind_eq_bind, Option.bind_eq_some_iff] at h
      obtain ⟨next, -, rest, hrest, hr⟩ := h
      obtain rfl : start :: rest = readings := by simpa using hr
      simp [ih hrest]

end Milliseconds

end TurnByTurn
