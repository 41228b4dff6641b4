import TurnByTurn.Proofs.Binary64.Values

/-! # Remainders within one turn

What is below the divisor is its own remainder, and the divisor itself leaves nothing.

* **`scaledTo_mul`** — a number in units of a power of two.
* **`remainder_of_lt`**, **`remainder_of_eq`** — remainders of what is not above the divisor.
* **`exists_positiveRemainder_eq`** — from zero up to the divisor, the remainder is the double itself but for
  the divisor, where it is zero. -/

namespace TurnByTurn.Binary64

open Float.Model (UnpackedFloat)

variable {x y : Float} {m n : ℕ} {e f g : ℤ}

/-- **A number in units of a power of two** is what it is a number of. -/
theorem scaledTo_mul (h : g ≤ e) (m : ℕ) : (scaledTo g m e : ℚ) * 2 ^ g = m * 2 ^ e := by
  obtain ⟨k, rfl⟩ : ∃ k : ℕ, e = g + k := ⟨(e - g).toNat, by omega⟩
  have hk : (g + k - g).toNat = k := by omega
  rw [scaledTo, hk, zpow_add₀ two_ne_zero, zpow_natCast, Nat.pow_eq]
  push_cast
  ring

/-- Numbers in one unit are in the order of what they are numbers of. -/
theorem scaledTo_lt_iff :
    scaledTo (min e f) m e < scaledTo (min e f) n f ↔ (m : ℚ) * 2 ^ e < n * 2 ^ f := by
  rw [← scaledTo_mul (min_le_left e f) m, ← scaledTo_mul (min_le_right e f) n,
    mul_lt_mul_iff_left₀ (zpow_pos two_pos _), Nat.cast_lt]

/-- Numbers in one unit are equal when what they are numbers of is. -/
theorem scaledTo_eq_iff :
    scaledTo (min e f) m e = scaledTo (min e f) n f ↔ (m : ℚ) * 2 ^ e = n * 2 ^ f := by
  rw [← scaledTo_mul (min_le_left e f) m, ← scaledTo_mul (min_le_right e f) n,
    mul_left_inj' (zpow_pos two_pos _).ne', Nat.cast_inj]

/-- A double with a value above zero has a mantissa. -/
theorem view_of_value_pos (h : 0 < value x) : ∃ m e hm, view x = .finite .positive m e hm := by
  cases hx : view x with
  | notANumber => simp [value, hx] at h
  | infinity s => simp [value, hx] at h
  | zero s =>
      rw [value_of_zero hx] at h
      exact absurd h (lt_irrefl 0)
  | finite s m e hm =>
      cases s with
      | negative =>
          rw [value_of_negative hx] at h
          have := size_pos hm e
          linarith
      | positive => exact ⟨m, e, hm, rfl⟩

/-- **What is below the divisor is its own remainder.** -/
theorem remainder_of_lt (hx : x.isFinite = true) (h0 : 0 ≤ value x) (hlt : value x < value y) :
    remainder x y = x := by
  obtain ⟨n, f, hn, hy⟩ := view_of_value_pos (h0.trans_lt hlt)
  obtain ⟨s, hx⟩ | ⟨s, m, e, hm, hx⟩ := view_of_isFinite hx
  · rw [remainder, hx, hy]
  · cases s with
    | negative =>
        rw [value_of_negative hx] at h0
        have := size_pos hm e
        linarith
    | positive =>
        rw [value_of_positive hx, value_of_positive hy] at hlt
        rw [remainder, hx, hy]
        exact if_pos (scaledTo_lt_iff.mpr hlt)

/-- **The divisor leaves nothing.** -/
theorem remainder_of_eq (h0 : 0 < value x) (heq : value x = value y) : remainder x y = 0 := by
  obtain ⟨m, e, hm, hx⟩ := view_of_value_pos h0
  obtain ⟨n, f, hn, hy⟩ := view_of_value_pos (heq ▸ h0)
  rw [value_of_positive hx, value_of_positive hy] at heq
  have hscaled := scaledTo_eq_iff.mpr heq
  rw [remainder, hx, hy]
  dsimp only
  rw [if_neg (by rw [hscaled]; exact lt_irrefl _), hscaled, Nat.mod_self]
  rfl

/-- The value of zero. -/
theorem value_zero : value 0 = 0 := value_of_zero view_zero

/-- **From zero up to the divisor** nothing is moved up to the positive side: a double is its own remainder,
and the divisor leaves zero. -/
theorem exists_positiveRemainder_eq (hx : x.isFinite = true) (h0 : 0 ≤ value x) (hpos : 0 < value y)
    (hle : value x ≤ value y) :
    ∃ r : Float, positiveRemainder x y = r ∧ r.isFinite = true ∧
      (value r = value x ∧ value x < value y ∨ value r = 0 ∧ value x = value y) := by
  have hzero : ∀ r : Float, r.isFinite = true → 0 ≤ value r → ¬r < 0 := by
    intro r hr hvalue
    rw [lt_iff_value hr rfl, value_zero]
    exact not_lt.mpr hvalue
  rcases hle.lt_or_eq with hlt | heq
  · refine ⟨x, ?_, hx, Or.inl ⟨rfl, hlt⟩⟩
    rw [positiveRemainder, remainder_of_lt hx h0 hlt]
    exact if_neg (hzero x hx h0)
  · refine ⟨0, ?_, rfl, Or.inr ⟨value_zero, heq⟩⟩
    rw [positiveRemainder, remainder_of_eq (heq ▸ hpos) heq]
    exact if_neg (hzero 0 rfl value_zero.ge)

end TurnByTurn.Binary64
