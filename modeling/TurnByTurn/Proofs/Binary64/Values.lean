import TurnByTurn.Proofs.Binary64.Canonical
import TurnByTurn.Proofs.Binary64.Compare
import TurnByTurn.Proofs.Binary64.Nearest

/-! # Finite doubles and their values

Finite doubles are compared and rounded as the rational numbers that they are. Their form is what makes this
true: of two different exponents the higher one decides, and a fraction needs some of the 53 bits.

* **`compare_view`** — comparing finite doubles compares their values.
* **`lt_iff_value`**, **`le_iff_value`** — the order of finite doubles.
* **`abs_saturated_sub_value_le`** — what fits 64 unsigned bits is moved by a half at most.
* **`toInt64_of_finite`**, **`toInt64_eq`** — rounding to 64 signed bits. -/

namespace TurnByTurn.Binary64

open Float.Model (UnpackedFloat)
open Float.Model.UnpackedFloat

variable {x y : Float} {m n : ℕ} {e f : ℤ} {s : Sign} {q : ℚ}

/-! ## Values -/

/-- A finite double is a zero or has a mantissa and an exponent. -/
theorem view_of_isFinite (h : x.isFinite = true) :
    (∃ s, view x = .zero s) ∨ ∃ s m e hm, view x = .finite s m e hm := by
  change (view x).isFinite = true at h
  cases hx : view x with
  | notANumber =>
      rw [hx] at h
      cases h
  | infinity s =>
      rw [hx] at h
      cases h
  | zero s => exact Or.inl ⟨s, rfl⟩
  | finite s m e hm => exact Or.inr ⟨s, m, e, hm, rfl⟩

/-- What is finite is no infinity. -/
theorem isInf_of_isFinite (h : x.isFinite = true) : x.isInf = false := by
  change (view x).isInf = false
  obtain ⟨s, hx⟩ | ⟨s, m, e, hm, hx⟩ := view_of_isFinite h <;> rw [hx] <;> rfl

/-- Zeros have the value zero. -/
theorem value_of_zero (h : view x = .zero s) : value x = 0 := by
  rw [value, h]

/-- The value of a double above zero. -/
theorem value_of_positive {hm : 0 < m} (h : view x = .finite .positive m e hm) : value x = m * 2 ^ e := by
  rw [value, h]
  rfl

/-- The value of a double below zero. -/
theorem value_of_negative {hm : 0 < m} (h : view x = .finite .negative m e hm) :
    value x = -(m * 2 ^ e) := by
  rw [value, h]
  simp [Sign.apply]

/-- A mantissa with an exponent is above zero. -/
theorem size_pos (hm : 0 < m) (e : ℤ) : (0 : ℚ) < m * 2 ^ e :=
  mul_pos (Nat.cast_pos.mpr hm) (zpow_pos two_pos e)

/-! ## Order -/

/-- **Of two different exponents the higher one decides**, since it comes with a full mantissa. -/
theorem IsCanonical.size_lt (hm : IsCanonical m e) (hn : IsCanonical n f) (h : e < f) :
    (m : ℚ) * 2 ^ e < n * 2 ^ f := by
  have hfull : 2 ^ 52 ≤ n := hn.full.resolve_right (by have := hm.le_exponent; omega)
  have hm' : (m : ℚ) < 2 ^ 53 := by exact_mod_cast hm.lt
  have hn' : (2 : ℚ) ^ 52 ≤ n := by exact_mod_cast hfull
  calc (m : ℚ) * 2 ^ e < 2 ^ 53 * 2 ^ e := mul_lt_mul_of_pos_right hm' (zpow_pos two_pos e)
    _ = 2 ^ 52 * 2 ^ (e + 1) := by rw [zpow_add_one₀ two_ne_zero]; ring
    _ ≤ 2 ^ 52 * 2 ^ f := by
        refine mul_le_mul_of_nonneg_left (zpow_le_zpow_right₀ one_le_two ?_) (by positivity)
        omega
    _ ≤ n * 2 ^ f := mul_le_mul_of_nonneg_right hn' (zpow_pos two_pos f).le

/-- **Canonical forms are compared by exponent and mantissa.** -/
theorem IsCanonical.compare_size (hm : IsCanonical m e) (hn : IsCanonical n f) :
    (compare e f).then (compare m n) = compare ((m : ℚ) * 2 ^ e) (n * 2 ^ f) := by
  rcases lt_trichotomy e f with h | rfl | h
  · rw [compare_lt_iff_lt.mpr h, compare_lt_iff_lt.mpr (hm.size_lt hn h)]
    rfl
  · have hpow : (0 : ℚ) < 2 ^ e := zpow_pos two_pos e
    rw [compare_eq_iff_eq.mpr rfl]
    rcases lt_trichotomy m n with h | rfl | h
    · have h' : (m : ℚ) < n := by exact_mod_cast h
      rw [compare_lt_iff_lt.mpr h, compare_lt_iff_lt.mpr (mul_lt_mul_of_pos_right h' hpow)]
      rfl
    · rw [compare_eq_iff_eq.mpr rfl, compare_eq_iff_eq.mpr rfl]
      rfl
    · have h' : (n : ℚ) < m := by exact_mod_cast h
      rw [compare_gt_iff_gt.mpr h, compare_gt_iff_gt.mpr (mul_lt_mul_of_pos_right h' hpow)]
      rfl
  · rw [compare_gt_iff_gt.mpr h, compare_gt_iff_gt.mpr (hn.size_lt hm h)]
    rfl

/-- Sizes below zero are in the opposite order. -/
theorem compare_neg (a b : ℚ) : compare (-a) (-b) = (compare a b).swap := by
  rcases lt_trichotomy a b with h | rfl | h
  · rw [compare_lt_iff_lt.mpr h, compare_gt_iff_gt.mpr (neg_lt_neg h)]
    rfl
  · rw [compare_eq_iff_eq.mpr rfl, compare_eq_iff_eq.mpr rfl]
    rfl
  · rw [compare_gt_iff_gt.mpr h, compare_lt_iff_lt.mpr (neg_lt_neg h)]
    rfl

/-- **Comparing finite doubles compares their values.** Both zeros have the same value. -/
theorem compare_view (hx : x.isFinite = true) (hy : y.isFinite = true) :
    (view x).compare (view y) = some (compare (value x) (value y)) := by
  obtain ⟨s, hx⟩ | ⟨s, m, e, hm, hx⟩ := view_of_isFinite hx <;>
    obtain ⟨s', hy⟩ | ⟨s', n, f, hn, hy⟩ := view_of_isFinite hy
  · rw [value_of_zero hx, value_of_zero hy, hx, hy, compare_eq_iff_eq.mpr rfl]
    rfl
  · rw [value_of_zero hx, hx]
    cases s' with
    | negative =>
        rw [value_of_negative hy, hy, compare_gt_iff_gt.mpr (neg_lt_zero.mpr (size_pos hn f))]
        rfl
    | positive =>
        rw [value_of_positive hy, hy, compare_lt_iff_lt.mpr (size_pos hn f)]
        rfl
  · rw [value_of_zero hy, hy]
    cases s with
    | negative =>
        rw [value_of_negative hx, hx, compare_lt_iff_lt.mpr (neg_lt_zero.mpr (size_pos hm e))]
        rfl
    | positive =>
        rw [value_of_positive hx, hx, compare_gt_iff_gt.mpr (size_pos hm e)]
        rfl
  · have hsize := (isCanonical_of_view hx).compare_size (isCanonical_of_view hy)
    have hm' := size_pos hm e
    have hn' := size_pos hn f
    cases s <;> cases s'
    · -- below zero the larger size is the smaller value
      rw [value_of_negative hx, value_of_negative hy, hx, hy]
      change some ((compare e f).then (compare m n)).swap = _
      rw [hsize, compare_neg]
    · rw [value_of_negative hx, value_of_positive hy, hx, hy, compare_lt_iff_lt.mpr (by linarith)]
      rfl
    · rw [value_of_positive hx, value_of_negative hy, hx, hy, compare_gt_iff_gt.mpr (by linarith)]
      rfl
    · rw [value_of_positive hx, value_of_positive hy, hx, hy, ← hsize]
      rfl

/-- **Less, of finite doubles**, is less of their values. -/
theorem lt_iff_value (hx : x.isFinite = true) (hy : y.isFinite = true) : x < y ↔ value x < value y := by
  rw [lt_iff_view, UnpackedFloat.lt, compare_view hx hy, ← compare_lt_iff_lt]
  cases compare (value x) (value y) <;> decide

/-- **Less or equal, of finite doubles**, is less or equal of their values. -/
theorem le_iff_value (hx : x.isFinite = true) (hy : y.isFinite = true) : x ≤ y ↔ value x ≤ value y := by
  rw [le_iff_view, UnpackedFloat.le, compare_view hx hy, ← compare_le_iff_le]
  cases compare (value x) (value y) <;> decide

/-! ## Rounding -/

/-- Nothing from zero on rounds below it. -/
theorem halfAway_nonneg (h : 0 ≤ q) : 0 ≤ halfAway q := by
  rw [halfAway, if_pos h]
  exact Int.floor_nonneg.mpr (by linarith)

/-- **Rounding moves a value by a half at most.** -/
theorem abs_halfAway_sub_le (h : 0 ≤ q) : |(halfAway q : ℚ) - q| ≤ 1 / 2 := by
  rw [halfAway, if_pos h, abs_le]
  have hle := Int.floor_le (q + 1 / 2)
  have hlt := Int.lt_floor_add_one (q + 1 / 2)
  constructor <;> linarith

/-- **A double below `2 ^ 64` is rounded to a number of 64 bits.** From `2 ^ 52` on there are no fractions
that could be rounded up to `2 ^ 64`. -/
theorem halfAway_value_lt (hx : x.isFinite = true) (hlt : value x < 2 ^ 64) : halfAway (value x) < 2 ^ 64 := by
  obtain ⟨s, hx⟩ | ⟨s, m, e, hm, hx⟩ := view_of_isFinite hx
  · rw [value_of_zero hx, halfAway_zero]
    norm_num
  · cases s with
    | negative =>
        have hneg : value x ≤ 0 := by
          rw [value_of_negative hx]
          exact (neg_lt_zero.mpr (size_pos hm e)).le
        exact (halfAway_of_nonpos hneg).trans_lt (by norm_num)
    | positive =>
        rw [value_of_positive hx] at hlt ⊢
        rw [halfAway, if_pos (size_pos hm e).le]
        rcases le_or_gt 0 e with he | he
        · -- a whole value is its own rounding
          obtain ⟨k, rfl⟩ := Int.eq_ofNat_of_zero_le he
          rw [zpow_natCast] at hlt ⊢
          have hwhole : ⌊(m : ℚ) * 2 ^ k + 1 / 2⌋ = m * 2 ^ k := by
            rw [Int.floor_eq_iff]
            push_cast
            constructor <;> linarith
          rw [hwhole]
          exact_mod_cast hlt
        · -- a fraction leaves less than 53 bits for the rest
          have hm' : (m : ℚ) < 2 ^ 53 := by exact_mod_cast (isCanonical_of_view hx).lt
          have hpow : (2 : ℚ) ^ e ≤ 1 := zpow_le_one_of_nonpos₀ one_le_two he.le
          have hsize : (m : ℚ) * 2 ^ e ≤ m := mul_le_of_le_one_right m.cast_nonneg hpow
          rw [Int.floor_lt]
          push_cast
          linarith

/-- **What is below `2 ^ 64` is held inside 64 bits without loss**: it is moved by a half at most. -/
theorem abs_saturated_sub_value_le (hx : x.isFinite = true) (h0 : 0 ≤ value x) (hlt : value x < 2 ^ 64) :
    |(saturated x : ℚ) - value x| ≤ 1 / 2 := by
  have hrounded := halfAway_value_lt hx hlt
  have hnonneg := halfAway_nonneg h0
  have hnearest : nearest? x = some ((halfAway (value x)).toNat : ℤ) := by
    rw [Int.toNat_of_nonneg hnonneg]
    obtain ⟨s, hx⟩ | ⟨s, m, e, hm, hx⟩ := view_of_isFinite hx
    · rw [nearest?, hx]
    · exact nearest?_of_finite hx
  rw [saturated_of_lt (by omega) hnearest, ← Int.cast_natCast, Int.toNat_of_nonneg hnonneg]
  exact abs_halfAway_sub_le h0

/-- A size below zero is rounded as the one above it. -/
theorem halfAway_neg (h : 0 < q) : halfAway (-q) = -halfAway q := by
  rw [halfAway, halfAway, if_neg (by linarith), if_pos h.le, ← Int.ceil_neg]
  congr 1
  ring

/-- **Rounding to 64 signed bits**: the nearest whole number, held inside the range. -/
theorem toInt64_of_finite (hx : x.isFinite = true) :
    toInt64 x = max (min (halfAway (value x)) maxInt64) minInt64 := by
  obtain ⟨s, hx⟩ | ⟨s, m, e, hm, hx⟩ := view_of_isFinite hx
  · rw [value_of_zero hx, halfAway_zero, toInt64, hx]
    rfl
  · cases s with
    | negative =>
        rw [value_of_negative hx, halfAway_neg (size_pos hm e), halfAway_eq_halfUp, toInt64, hx]
        simp only [maxInt64, minInt64]
        omega
    | positive =>
        rw [value_of_positive hx, halfAway_eq_halfUp, toInt64, hx]
        simp only [maxInt64, minInt64]
        omega

/-- **Rounding to 64 signed bits in exact terms**, for every double. -/
theorem toInt64_eq (x : Float) : toInt64 x = saturatedInt x := by
  cases hfinite : x.isFinite with
  | true =>
      rw [toInt64_of_finite hfinite]
      obtain ⟨s, hx⟩ | ⟨s, m, e, hm, hx⟩ := view_of_isFinite hfinite
      · rw [saturatedInt, hx]
        rfl
      · rw [saturatedInt, hx]
        rfl
  | false =>
      change (view x).isFinite = false at hfinite
      cases hx : view x with
      | notANumber => rw [toInt64, saturatedInt, hx]
      | infinity s =>
          rw [toInt64, saturatedInt, hx]
          cases s <;> rfl
      | zero s =>
          rw [hx] at hfinite
          cases hfinite
      | finite s m e hm =>
          rw [hx] at hfinite
          cases hfinite

end TurnByTurn.Binary64
