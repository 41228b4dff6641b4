import Mathlib.Data.Rat.Floor
import Mathlib.Tactic.FieldSimp
import Mathlib.Tactic.Linarith
import Mathlib.Tactic.Positivity
import Mathlib.Tactic.Ring
import TurnByTurn.Binary64.Rounding

/-! # Exact values and nearest whole numbers

What the rounding of doubles to 64 bits means in rational numbers, said without the bits.

* **`value x`** — the exact value of a double.
* **`halfAway q`** — the whole number nearest to a rational, a half going away from zero.
* **`nearest? x`** — the whole number nearest to a double, however large.
* **`Fits x`**, **`Exceeds x`** — whether that number is one of 64 unsigned bits, or beyond them.
* **`saturated x`**, **`saturatedInt x`** — that number held inside 64 bits, unsigned or signed.

`toNat_toUInt64` ties the rounding of doubles to `saturated`; `saturated_of_lt`,
`saturated_of_exceeds` and `saturated_of_not_fits` say what is kept and what is lost. -/

namespace TurnByTurn.Binary64

open Float.Model (UnpackedFloat)

/-! ## Exact values -/

/-- **The exact value of a double**: `± m · 2 ^ e`, and zero for what has no value. -/
def value (x : Float) : ℚ :=
  match view x with
  | .finite s m e _ => (s.apply m : ℚ) * 2 ^ e
  | _ => 0

/-- **The whole number nearest to `q`, a half going away from zero.** -/
def halfAway (q : ℚ) : ℤ := if 0 ≤ q then ⌊q + 1 / 2⌋ else ⌈q - 1 / 2⌉

/-- **The whole number nearest to a double**, a half going away from zero; there is none for
infinities and for what is no number. -/
def nearest? (x : Float) : Option ℤ :=
  match view x with
  | .notANumber => none
  | .infinity _ => none
  | _ => some (halfAway (value x))

/-- **Whether the nearest whole number is one of 64 unsigned bits.** -/
def Fits (x : Float) : Prop := ∃ n : ℕ, n < 2 ^ 64 ∧ nearest? x = some (n : ℤ)

/-- **Whether the nearest whole number is beyond 64 unsigned bits**, `+∞` included. -/
def Exceeds (x : Float) : Prop :=
  view x = .infinity .positive ∨ ∃ n : ℤ, 2 ^ 64 ≤ n ∧ nearest? x = some n

/-- **The nearest whole number held inside 64 unsigned bits**: the nearest end of the range for what
is outside it, and zero for what is no number. -/
def saturated (x : Float) : ℕ :=
  match view x with
  | .notANumber => 0
  | .infinity .negative => 0
  | .infinity .positive => 2 ^ 64 - 1
  | _ => min (halfAway (value x)).toNat (2 ^ 64 - 1)

/-- **The nearest whole number held inside 64 signed bits**: the nearest end of the range for what is
outside it, and zero for what is no number. -/
def saturatedInt (x : Float) : ℤ :=
  match view x with
  | .notANumber => 0
  | .infinity .negative => -2 ^ 63
  | .infinity .positive => 2 ^ 63 - 1
  | _ => max (min (halfAway (value x)) (2 ^ 63 - 1)) (-2 ^ 63)

/-! ## Halves away from zero -/

@[simp] theorem halfAway_zero : halfAway 0 = 0 := by
  rw [halfAway, if_pos le_rfl, Int.floor_eq_iff]
  norm_num

/-- Nothing above zero rounds below it. -/
theorem halfAway_of_nonpos {q : ℚ} (h : q ≤ 0) : halfAway q ≤ 0 := by
  rcases h.lt_or_eq with hq | rfl
  · rw [halfAway, if_neg (not_le.mpr hq), Int.ceil_le]
    push_cast
    linarith
  · rw [halfAway_zero]

private theorem value_nonneg (m : ℕ) (e : ℤ) : (0 : ℚ) ≤ (m : ℚ) * 2 ^ e :=
  mul_nonneg m.cast_nonneg (zpow_nonneg zero_le_two e)

/-- **`halfUp` is the rounding of the exact value.** -/
theorem halfAway_eq_halfUp (m : ℕ) (e : ℤ) : halfAway ((m : ℚ) * 2 ^ e) = halfUp m e := by
  rw [halfAway, if_pos (value_nonneg m e), Int.floor_eq_iff]
  rcases Int.eq_nat_or_neg e with ⟨k, rfl | rfl⟩
  · -- a whole value is its own rounding
    have hm : halfUp m (k : ℤ) = m * 2 ^ k := by simp [halfUp]
    rw [hm, zpow_natCast]
    push_cast
    constructor <;> linarith
  · -- the bounds of `halfUp_spec`, divided by `2 ^ (k + 1)`
    obtain ⟨hle, hlt⟩ := halfUp_spec m k
    have hk : (0 : ℚ) < 2 ^ k := by positivity
    have hle' : (2 : ℚ) ^ k * (2 * halfUp m (-k)) ≤ 2 * m + 2 ^ k := by
      have := (Nat.cast_le (α := ℚ)).mpr hle
      push_cast [Nat.pow_eq, pow_succ] at this
      linarith
    have hlt' : 2 * (m : ℚ) + 2 ^ k < 2 ^ k * (2 * (halfUp m (-k) + 1)) := by
      have := (Nat.cast_lt (α := ℚ)).mpr hlt
      push_cast [Nat.pow_eq, pow_succ] at this
      linarith
    have hv : (m : ℚ) * 2 ^ (-(k : ℤ)) + 1 / 2 = (2 * m + 2 ^ k) / (2 ^ k * 2) := by
      rw [zpow_neg, zpow_natCast]
      field_simp
    rw [hv]
    constructor
    · rw [le_div_iff₀ (by positivity)]
      push_cast
      linarith
    · rw [div_lt_iff₀ (by positivity)]
      push_cast
      linarith

/-! ## Rounding to 64 unsigned bits -/

/-- A finite double has a nearest whole number. -/
theorem nearest?_of_finite {x : Float} {s m e hm} (hx : view x = .finite s m e hm) :
    nearest? x = some (halfAway (value x)) := by
  rw [nearest?, hx]

/-- The nearest whole number of a finite double is held inside the range. -/
theorem saturated_of_finite {x : Float} {s m e hm} (hx : view x = .finite s m e hm) :
    saturated x = min (halfAway (value x)).toNat (2 ^ 64 - 1) := by
  rw [saturated, hx]

/-- **Rounding to 64 bits in exact terms.** -/
theorem toNat_toUInt64 (x : Float) : (toUInt64 x).toNat = saturated x := by
  cases hx : view x with
  | notANumber => simp [toUInt64, saturated, hx]
  | infinity s => cases s <;> simp [toUInt64, saturated, hx, maxUInt64]
  | zero s => simp [toUInt64, saturated, value, hx]
  | finite s m e hm =>
      rw [saturated_of_finite hx]
      cases s with
      | negative =>
          have hv : value x ≤ 0 := by
            rw [value, hx]
            simp only [UnpackedFloat.Sign.apply, Int.cast_neg, Int.cast_natCast, neg_mul,
              neg_nonpos]
            exact value_nonneg m e
          rw [toUInt64, hx, Int.toNat_of_nonpos (halfAway_of_nonpos hv), Nat.zero_min]
          rfl
      | positive =>
          have hv : halfAway (value x) = halfUp m e := by
            rw [value, hx]
            simp only [UnpackedFloat.Sign.apply, Int.cast_natCast, halfAway_eq_halfUp]
          have hlt : min (halfUp m e) maxUInt64 < 2 ^ 64 :=
            lt_of_le_of_lt (min_le_right _ _) (by decide)
          rw [toUInt64, hx, hv, Int.toNat_natCast]
          exact UInt64.toNat_ofNat_of_lt' hlt

@[simp] theorem saturated_zero : saturated 0 = 0 := by
  rw [← toNat_toUInt64]
  decide

/-- A nearest whole number is held inside the range. -/
theorem saturated_of_nearest? {x : Float} {n : ℤ} (h : nearest? x = some n) :
    saturated x = min n.toNat (2 ^ 64 - 1) := by
  cases hx : view x with
  | notANumber => simp [nearest?, hx] at h
  | infinity s => simp [nearest?, hx] at h
  | zero s =>
      simp only [nearest?, hx, Option.some.injEq] at h
      simp only [saturated, hx, h]
  | finite s m e hm =>
      rw [nearest?_of_finite hx, Option.some.injEq] at h
      rw [saturated_of_finite hx, h]

/-- Only `+∞` has no nearest whole number and does not count as zero. -/
theorem saturated_of_nearest?_eq_none {x : Float} (h : nearest? x = none)
    (hx : view x ≠ .infinity .positive) : saturated x = 0 := by
  cases hv : view x with
  | notANumber => simp only [saturated, hv]
  | infinity s =>
      cases s with
      | negative => simp only [saturated, hv]
      | positive => exact absurd hv hx
  | zero s => simp [nearest?, hv] at h
  | finite s m e hm =>
      rw [nearest?_of_finite hv] at h
      cases h

/-- **What fits is kept.** -/
theorem saturated_of_lt {x : Float} {n : ℕ} (hn : n < 2 ^ 64) (h : nearest? x = some (n : ℤ)) :
    saturated x = n := by
  rw [saturated_of_nearest? h, Int.toNat_natCast, min_eq_left (by omega)]

/-- **What is beyond the range becomes its end.** -/
theorem saturated_of_exceeds {x : Float} (h : Exceeds x) : saturated x = 2 ^ 64 - 1 := by
  rcases h with hx | ⟨n, hn, h⟩
  · simp only [saturated, hx]
  · rw [saturated_of_nearest? h, min_eq_right (by omega)]

/-- What is beyond the range does not fit. -/
theorem not_fits_of_exceeds {x : Float} (h : Exceeds x) : ¬Fits x := by
  rintro ⟨n, hn, hx⟩
  rcases h with hv | ⟨m, hm, hx'⟩
  · simp [nearest?, hv] at hx
  · have hmn : m = n := Option.some.inj (hx'.symm.trans hx)
    omega

/-- **Anything else that does not fit counts as zero**: what is below zero, and what is no number. -/
theorem saturated_of_not_fits {x : Float} (hf : ¬Fits x) (he : ¬Exceeds x) : saturated x = 0 := by
  cases h : nearest? x with
  | none => exact saturated_of_nearest?_eq_none h fun hx => he (Or.inl hx)
  | some n =>
      have hn : n < 0 := by
        by_contra h0
        rcases lt_or_ge n (2 ^ 64) with hlt | hge
        · exact hf ⟨n.toNat, by omega, by rw [h, Int.toNat_of_nonneg (not_lt.mp h0)]⟩
        · exact he (Or.inr ⟨n, hge, h⟩)
      rw [saturated_of_nearest? h, Int.toNat_of_nonpos hn.le, min_eq_left (Nat.zero_le _)]

end TurnByTurn.Binary64
