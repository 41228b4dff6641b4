import TurnByTurn.Binary64.Basic

/-! # From doubles to whole numbers

Two ways to reach a whole number from `m · 2 ^ e`, both decided on the exact value.

* **`halfUp m e`** — the nearest whole number, a half going up (away from zero, once the sign is put
  back).
* **`halfEven m e`** — the nearest whole number, a half going to the even neighbour.
* **`toUInt64 x`**, **`toInt64 x`** — `halfUp` of a double, held inside 64 bits: what lies beyond the
  range becomes its nearest end, and NaN becomes zero. -/

namespace TurnByTurn.Binary64

open Float.Model (UnpackedFloat)

/-- The largest number of 64 bits. -/
def maxUInt64 : Nat := 0xffffffffffffffff

/-- The largest signed number of 64 bits. -/
def maxInt64 : Int := 0x7fffffffffffffff

/-- The smallest signed number of 64 bits. -/
def minInt64 : Int := -0x8000000000000000

/-! ## Nearest whole numbers -/

/-- **The whole number nearest to `m · 2 ^ e`, a half going up.** -/
def halfUp (m : Nat) (e : Int) : Nat :=
  if 0 ≤ e then m * Nat.pow 2 e.toNat
  -- the floor after one half is added, all of it doubled to stay whole
  else (2 * m + Nat.pow 2 (-e).toNat) / Nat.pow 2 ((-e).toNat + 1)

/-- A quotient rounded to the nearest whole number, a half going to the even neighbour. -/
def divideEven (numerator denominator : Nat) : Nat :=
  let q := numerator / denominator
  let r := numerator % denominator
  match compare (2 * r) denominator with
  | .lt => q
  | .gt => q + 1
  -- an odd quotient goes up, an even one stays
  | .eq => q + q % 2

/-- **The whole number nearest to `m · 2 ^ e`, a half going to the even neighbour.** -/
def halfEven (m : Nat) (e : Int) : Nat :=
  divideEven (m * Nat.pow 2 e.toNat) (Nat.pow 2 (-e).toNat)

/-- A whole number is its own rounding. -/
@[simp] theorem halfUp_zero_exponent (m : Nat) : halfUp m 0 = m := by simp [halfUp]

/-- **`halfUp` is within a half of the value**, and the half itself goes up: twice the value lies in
`[2 n - 1, 2 n + 1)` for the result `n`. -/
theorem halfUp_spec (m k : Nat) :
    Nat.pow 2 (k + 1) * halfUp m (-k) ≤ 2 * m + Nat.pow 2 k
      ∧ 2 * m + Nat.pow 2 k < Nat.pow 2 (k + 1) * (halfUp m (-k) + 1) := by
  have hk : 0 < Nat.pow 2 (k + 1) := Nat.pow_pos (by decide)
  by_cases h : (0 : Int) ≤ -(k : Int)
  · obtain rfl : k = 0 := by omega
    simp only [halfUp, Int.natCast_zero, Int.neg_zero]
    simp
    omega
  · simp only [halfUp, h, if_false, Int.neg_neg, Int.toNat_natCast]
    exact ⟨Nat.mul_div_le .., Nat.lt_mul_div_succ _ hk⟩

/-! ## Into 64 bits -/

/-- **A double rounded half away from zero into 64 unsigned bits**: what is below zero, and NaN,
becomes zero, and what is too large becomes the largest number. -/
def toUInt64 (x : Float) : UInt64 :=
  match view x with
  | .notANumber => 0
  | .zero _ => 0
  | .infinity .positive => .ofNat maxUInt64
  | .infinity .negative => 0
  | .finite .negative .. => 0
  | .finite .positive m e _ => .ofNat (min (halfUp m e) maxUInt64)

/-- **A double rounded half away from zero into 64 signed bits**, with the same treatment of what
does not fit. -/
def toInt64 (x : Float) : Int :=
  match view x with
  | .notANumber => 0
  | .zero _ => 0
  | .infinity .positive => maxInt64
  | .infinity .negative => minInt64
  | .finite .negative m e _ => max (-(halfUp m e : Int)) minInt64
  | .finite .positive m e _ => min (halfUp m e) maxInt64

end TurnByTurn.Binary64
