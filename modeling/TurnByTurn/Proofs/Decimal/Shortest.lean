import TurnByTurn.Proofs.Decimal.Doubles

/-! # Shortest decimals read back

The search for the fewest digits compares natural numbers only. What it finds is near the double that it
was given, so it is rounded to this double again.

* **`compareBinary_eq_lt_iff`** and its siblings — the comparison is that of the values.
* **`contains_iff`** — what the search accepts is near the double.
* **`shortest_near`** — what it finds is near the double. -/

namespace TurnByTurn

open Float.Model (UnpackedFloat)
open Binary64

namespace Decimal

variable {d : Decimal} {m n : ℕ} {e g q : ℤ} {tie : Tie}

/-! ## Comparing -/

/-- A power times the denominator of its exponent is the numerator. -/
theorem zpow_mul_pow_toNat {b : ℚ} (hb : b ≠ 0) (g : ℤ) : b ^ g * b ^ (-g).toNat = b ^ g.toNat := by
  rcases Int.eq_nat_or_neg g with ⟨k, rfl | rfl⟩
  · simp
  · rw [neg_neg, Int.toNat_natCast, zpow_neg, zpow_natCast, Int.toNat_neg_natCast, pow_zero]
    exact inv_mul_cancel₀ (pow_ne_zero k hb)

/-- Both sides of a comparison, multiplied by what makes them whole. -/
theorem compareBinary_eq (d : Decimal) (n : ℕ) (q : ℤ) :
    ∃ (a b : ℕ) (k : ℚ), 0 < k ∧ d.value * k = a ∧ n * 2 ^ q * k = b ∧
      d.compareBinary n q = compare a b := by
  refine ⟨_, _, 2 ^ (-q).toNat * 10 ^ (-d.exponent).toNat, by positivity, ?_, ?_, rfl⟩
  · have hten := zpow_mul_pow_toNat (b := 10) (by norm_num) d.exponent
    simp only [Nat.pow_eq]
    push_cast
    rw [← hten, value]
    ring
  · have htwo := zpow_mul_pow_toNat (b := 2) (by norm_num) q
    simp only [Nat.pow_eq]
    push_cast
    rw [← htwo]
    ring

theorem compareBinary_eq_lt_iff : d.compareBinary n q = .lt ↔ d.value < n * 2 ^ q := by
  obtain ⟨a, b, k, hk, ha, hb, heq⟩ := compareBinary_eq d n q
  rw [heq, Nat.compare_eq_lt, ← mul_lt_mul_iff_left₀ hk, ha, hb, Nat.cast_lt]

theorem compareBinary_eq_gt_iff : d.compareBinary n q = .gt ↔ n * 2 ^ q < d.value := by
  obtain ⟨a, b, k, hk, ha, hb, heq⟩ := compareBinary_eq d n q
  rw [heq, Nat.compare_eq_gt, ← mul_lt_mul_iff_left₀ hk, ha, hb, Nat.cast_lt]

theorem compareBinary_eq_eq_iff : d.compareBinary n q = .eq ↔ d.value = n * 2 ^ q := by
  obtain ⟨a, b, k, hk, ha, hb, heq⟩ := compareBinary_eq d n q
  rw [heq, Nat.compare_eq_eq, ← mul_left_inj' hk.ne', ha, hb, Nat.cast_inj]

/-- **What the search accepts is near the double.** -/
theorem contains_iff : (Neighbourhood.of m e).contains d = true ↔ IsNear m e d.value := by
  have hhigh : ((Neighbourhood.of m e).high : ℚ) = 4 * m + 2 := by
    unfold Neighbourhood.of
    push_cast
    ring
  have hclosed : (Neighbourhood.of m e).closed = true ↔ m % 2 = 0 := decide_eq_true_iff
  have hunit : (Neighbourhood.of m e).unit = e - 2 := rfl
  simp only [Neighbourhood.contains, Bool.and_eq_true, Bool.or_eq_true, beq_iff_eq,
    compareBinary_eq_gt_iff, compareBinary_eq_lt_iff, compareBinary_eq_eq_iff, hclosed, hunit, hhigh]
  constructor
  · rintro ⟨hlow, habove⟩
    refine ⟨?_, ?_, ?_⟩
    · rcases hlow with h | h
      · exact h.le
      · exact h.2.ge
    · rcases habove with h | h
      · exact h.le
      · exact h.2.le
    · rintro (h | h)
      · rcases hlow with hlt | ⟨heven, -⟩
        · exact absurd h hlt.ne'
        · exact heven
      · rcases habove with hlt | ⟨heven, -⟩
        · exact absurd h hlt.ne
        · exact heven
  · intro h
    refine ⟨?_, ?_⟩
    · rcases h.le.lt_or_eq with hlt | heq
      · exact .inl hlt
      · exact .inr ⟨h.even_of_eq (.inl heq.symm), heq.symm⟩
    · rcases h.ge.lt_or_eq with hlt | heq
      · exact .inl hlt
      · exact .inr ⟨h.even_of_eq (.inr heq), heq⟩

/-! ## The search -/

/-- What is found on a grid is near the double. -/
theorem nearestOn_near (h : nearestOn tie m e g = some d) : IsNear m e d.value := by
  rw [← contains_iff]
  unfold nearestOn at h
  simp only at h
  split at h
  · cases h
  · cases h
    assumption
  · cases h
    assumption
  · rename_i hlow hhigh
    split at h
    · cases h
      exact hlow
    · cases h
      exact hhigh
    · cases h
      exact hhigh
    · cases h
      rcases Nat.mod_two_eq_zero_or_one (floorOn g m e) with hparity | hparity
      · rw [hparity]
        exact hlow
      · rw [hparity]
        exact hhigh

/-- Zeros at the end of a coefficient do not count. -/
theorem value_trimmed (d : Decimal) : (trimmed d).value = d.value := by
  fun_induction trimmed d with
  | case1 d h ih =>
      rw [ih, value, value]
      have hd : (d.coefficient : ℚ) = 10 * (d.coefficient / 10 : ℕ) := by
        exact_mod_cast (by omega : d.coefficient = 10 * (d.coefficient / 10))
      rw [hd, zpow_add₀ (by norm_num), zpow_one]
      ring
  | case2 => rfl

/-- The decimal equal to a double. -/
theorem value_exactly (m : ℕ) (e : ℤ) : (exactly m e).value = m * 2 ^ e := by
  unfold value exactly
  simp only [Nat.pow_eq]
  rcases Int.eq_nat_or_neg e with ⟨k, rfl | rfl⟩
  · simp
  · simp only [neg_neg, Int.toNat_natCast, Int.toNat_neg_natCast, pow_zero, mul_one]
    have hten : (10 : ℚ) = 5 * 2 := by norm_num
    rw [zpow_neg, zpow_neg, zpow_natCast, zpow_natCast, hten, mul_pow]
    push_cast
    field_simp

/-- A double is near itself. -/
theorem isNear_self (hm : 0 < m) : IsNear m e (m * 2 ^ e) := by
  have hu : (0 : ℚ) < 2 ^ (e - 2) := zpow_pos two_pos _
  have hself : (m : ℚ) * 2 ^ e = 4 * m * 2 ^ (e - 2) := by
    rw [zpow_sub₀ two_ne_zero]
    field_simp
    norm_num
  rw [hself]
  have hlow : ((Neighbourhood.of m e).low : ℚ) < 4 * m := by
    rcases low_cases (m := m) (e := e) hm with ⟨-, -, hlow⟩ | ⟨-, hlow⟩ <;> rw [hlow] <;> linarith
  refine ⟨(mul_lt_mul_of_pos_right hlow hu).le, mul_le_mul_of_nonneg_right (by linarith) hu.le, ?_⟩
  rintro (h | h)
  · exact absurd (mul_right_cancel₀ hu.ne' h) hlow.ne'
  · exact absurd (mul_right_cancel₀ hu.ne' h) (by linarith)

/-- **What the search finds is near the double.** -/
theorem shortest_near (hm : 0 < m) : IsNear m e (shortest tie m e).value := by
  unfold shortest
  simp only
  rw [value_trimmed]
  cases hfound : (List.range 17).findSome? fun digits =>
      nearestOn tie m e (magnitude m e - (digits + 1 : ℕ)) with
  | none =>
      rw [Option.getD_none, value_exactly]
      exact isNear_self hm
  | some d =>
      obtain ⟨digits, -, hd⟩ := List.exists_of_findSome?_eq_some hfound
      exact nearestOn_near hd

end Decimal

end TurnByTurn
