import TurnByTurn.Proofs.Decimal.Whole

/-! # Whole numbers times powers of ten

Products and quotients of doubles are rounded once, so they are the doubles nearest to the exact ones. Whole
numbers of 53 bits are doubles, and so are the powers of ten up to `10 ^ 22`.

* **`ofRounded_unique`** — a value is rounded in one way.
* **`mul_eq`**, **`div_eq`** — products and quotients are rounded to the nearest double.
* **`Decimal.toDouble_mul_power`**, **`Decimal.toDouble_div_power`** — a decimal of few digits near the point is its
coefficient times or by a power of ten. -/

namespace TurnByTurn.Binary64

open Float.Model (Format UnpackedFloat)
open Float.Model.UnpackedFloat

variable {v : ℚ} {m n r r' : ℕ} {e e' : ℤ} {s : Sign}

/-! ## One way of rounding -/

/-- No value is rounded at two exponents: it is too large for the lower one or too small for the higher. -/
theorem IsScale.le_of_isScale (h : IsScale v e) (h' : IsScale v e') : e' ≤ e := by
  by_contra hlt
  have hle := h.le
  have hfull := h'.full.resolve_left (by omega)
  have hpow : (2 : ℚ) ^ (53 + e) ≤ 2 ^ (52 + e') := zpow_le_zpow_right₀ one_le_two (by omega)
  exact absurd (h.lt.trans_le hpow) hfull.not_gt

/-- **A value is rounded in one way.** -/
theorem ofRounded_unique (hscale : IsScale v e) (hr : IsNearestEven r (v / 2 ^ e)) (hscale' : IsScale v e')
    (hr' : IsNearestEven r' (v / 2 ^ e')) : ofRounded s r e = ofRounded s r' e' := by
  obtain rfl : e = e' := le_antisymm (hscale'.le_of_isScale hscale) (hscale.le_of_isScale hscale')
  rw [hr.unique hr']

/-! ## Products and quotients -/

/-- **A product is rounded to the nearest double.** -/
theorem mul_eq (e f : ℤ) (hm : 0 < m) (hn : 0 < n) (hfull : 2 ^ 52 ≤ m) :
    ∃ r e₁, IsScale (m * 2 ^ e * (n * 2 ^ f)) e₁ ∧ IsNearestEven r (m * 2 ^ e * (n * 2 ^ f) / 2 ^ e₁) ∧
      UnpackedFloat.mul Format.binary64 (.finite s m e hm) (.finite .positive n f hn) = ofRounded s r e₁ := by
  have hlog : 52 ≤ (m * n).log2 :=
    (Nat.le_log2 (Nat.mul_pos hm hn).ne').mpr (hfull.trans (Nat.le_mul_of_pos_right m hn))
  have hvalue : ((m * n : ℕ) : ℚ) * 2 ^ (e + f) = m * 2 ^ e * (n * 2 ^ f) := by
    rw [zpow_add₀ two_ne_zero]
    push_cast
    ring
  have hsign : s * .positive = s := by cases s <;> rfl
  rw [UnpackedFloat.mul, hsign, ← hvalue]
  exact roundWithAccuracy_eq (stands_exact _) (.inl hlog)

/-- **A quotient is rounded to the nearest double.** -/
theorem div_eq (e f : ℤ) (hm : 0 < m) (hn : 0 < n) :
    ∃ r e₁, IsScale (m * 2 ^ e / (n * 2 ^ f)) e₁ ∧ IsNearestEven r (m * 2 ^ e / (n * 2 ^ f) / 2 ^ e₁) ∧
      UnpackedFloat.div Format.binary64 (.finite s m e hm) (.finite .positive n f hn) = ofRounded s r e₁ := by
  obtain ⟨j, hj, hcore⟩ := divCore_eq hm hn e f
  have hvalue : ((m * 2 ^ j : ℕ) : ℚ) / n * 2 ^ (e - f - j) = m * 2 ^ e / (n * 2 ^ f) := by
    rw [zpow_sub₀ two_ne_zero, zpow_sub₀ two_ne_zero, zpow_natCast]
    push_cast
    field_simp
  have hsign : s / .positive = s := by cases s <;> rfl
  rw [UnpackedFloat.div, hsign, ← hvalue]
  simp only [hcore]
  exact roundWithAccuracy_eq (stands_quotient hn) hj

end TurnByTurn.Binary64

namespace TurnByTurn.Decimal

open Float.Model (Format UnpackedFloat)
open Float.Model.UnpackedFloat
open Binary64

variable {c k m : ℕ} {e : ℤ} {d : Decimal}

/-! ## Decimals that are doubles -/

/-- A decimal that is a double becomes it. -/
theorem view_toDouble (hm : IsCanonical m e) (hvalue : d.value = m * 2 ^ e) :
    view (d.toDouble false) = .finite .positive m e hm.pos := by
  have hnear : IsNear m e d.value := hvalue ▸ isNear_self hm.pos
  change view (.ofModel (.pack (UnpackedFloat.ofScientific Format.binary64 d.coefficient d.exponent))) = _
  rw [ofScientific_of_near hnear hm, view_pack hm]

/-- The canonical form of a whole number of 53 bits times a small power of two. -/
theorem exists_canonical (h0 : 0 < c) (hc : c < 2 ^ 53) (hk : k ≤ 22) :
    ∃ m e, IsCanonical m e ∧ 2 ^ 52 ≤ m ∧ (m : ℚ) * 2 ^ e = c * 2 ^ k := by
  have hwhole := isCanonical_whole h0 hc
  have hlog := log2_le hc
  have hfull : 2 ^ 52 ≤ c * 2 ^ (52 - c.log2) := hwhole.full.resolve_right (by omega)
  refine ⟨_, (c.log2 : ℤ) - 52 + k, ⟨hwhole.pos, hwhole.lt, by omega, by omega, .inl hfull⟩, hfull, ?_⟩
  rw [zpow_add₀ two_ne_zero, ← mul_assoc, size_whole hc, zpow_natCast]

/-- **Whole numbers of 53 bits are doubles.** -/
theorem exists_view_whole (h0 : 0 < c) (hc : c < 2 ^ 53) :
    ∃ m e hm, view (toDouble false ⟨c, 0⟩) = .finite .positive m e hm ∧ 2 ^ 52 ≤ m ∧ (m : ℚ) * 2 ^ e = c := by
  obtain ⟨m, e, hm, hfull, hsize⟩ := exists_canonical (k := 0) h0 hc (by omega)
  rw [pow_zero, mul_one] at hsize
  refine ⟨m, e, hm.pos, view_toDouble hm ?_, hfull, hsize⟩
  rw [hsize, value, zpow_zero, mul_one]

/-- **Powers of ten up to the 22nd are doubles**: powers of five with 53 bits, moved by some more. -/
theorem exists_view_power (hk : k ≤ 22) :
    ∃ m e hm, view (toDouble false ⟨1, k⟩) = .finite .positive m e hm ∧ (m : ℚ) * 2 ^ e = 10 ^ k := by
  have hfive : 5 ^ k < 2 ^ 53 := (Nat.pow_le_pow_right (by decide) hk).trans_lt (by decide)
  obtain ⟨m, e, hm, -, hsize⟩ := exists_canonical (Nat.pow_pos (by decide)) hfive hk
  have hten : ((5 ^ k : ℕ) : ℚ) * 2 ^ k = 10 ^ k := by
    push_cast
    rw [← mul_pow]
    norm_num
  rw [hten] at hsize
  refine ⟨m, e, hm.pos, view_toDouble hm ?_, hsize⟩
  rw [hsize, value, zpow_natCast, Nat.cast_one, one_mul]

/-! ## Decimals of few digits -/

/-- A decimal is rounded as any value that is the same. -/
theorem toDouble_eq_of_rounded {u : UnpackedFloat} {r : ℕ} (hc : 0 < d.coefficient) (hlow : -22 ≤ d.exponent)
    (hhigh : d.exponent ≤ 22) (hscale : IsScale d.value e) (hr : IsNearestEven r (d.value / 2 ^ e))
    (hu : u = ofRounded .positive r e) : Float.ofModel (.pack u) = d.toDouble false := by
  obtain ⟨r', e', hscale', hr', hrounded⟩ := ofScientific_eq hc (by omega : d.exponent ≤ 2048) (by omega)
  change _ = Float.ofModel (.pack (UnpackedFloat.ofScientific Format.binary64 d.coefficient d.exponent))
  rw [hu, hrounded, ofRounded_unique hscale hr hscale' hr']

/-- Zero stays zero. -/
theorem zero_mul_power (hk : k ≤ 22) :
    toDouble false ⟨0, 0⟩ * toDouble false ⟨1, k⟩ = toDouble false ⟨0, k⟩ ∧
      toDouble false ⟨0, 0⟩ / toDouble false ⟨1, k⟩ = toDouble false ⟨0, -k⟩ := by
  obtain ⟨m, e, hm, hview, -⟩ := exists_view_power hk
  have hzero : view (toDouble false ⟨0, 0⟩) = .zero .positive := rfl
  constructor
  · change Float.ofModel (.pack (UnpackedFloat.mul Format.binary64 (view (toDouble false ⟨0, 0⟩))
      (view (toDouble false ⟨1, k⟩)))) = _
    rw [hzero, hview]
    rfl
  · change Float.ofModel (.pack (UnpackedFloat.div Format.binary64 (view (toDouble false ⟨0, 0⟩))
      (view (toDouble false ⟨1, k⟩)))) = _
    rw [hzero, hview]
    rfl

/-- **A decimal of few digits before the point** is its coefficient times a power of ten. -/
theorem toDouble_mul_power (hc : c < 2 ^ 53) (hk : k ≤ 22) :
    toDouble false ⟨c, 0⟩ * toDouble false ⟨1, k⟩ = toDouble false ⟨c, k⟩ := by
  rcases Nat.eq_zero_or_pos c with rfl | h0
  · exact (zero_mul_power hk).1
  · obtain ⟨m, e, hm, hx, hfull, hsize⟩ := exists_view_whole h0 hc
    obtain ⟨n, f, hn, hpower, htens⟩ := exists_view_power hk
    obtain ⟨r, e₁, hscale, hr, hmul⟩ := mul_eq (s := .positive) e f hm hn hfull
    have hvalue : (⟨c, k⟩ : Decimal).value = m * 2 ^ e * (n * 2 ^ f) := by
      rw [hsize, htens, value, zpow_natCast]
    rw [← hvalue] at hscale hr
    rw [← toDouble_eq_of_rounded h0 (by dsimp only; omega) (by dsimp only; omega) hscale hr hmul, ← hx, ← hpower]
    rfl

/-- **A decimal of few digits behind the point** is its coefficient divided by a power of ten. -/
theorem toDouble_div_power (hc : c < 2 ^ 53) (hk : k ≤ 22) :
    toDouble false ⟨c, 0⟩ / toDouble false ⟨1, k⟩ = toDouble false ⟨c, -k⟩ := by
  rcases Nat.eq_zero_or_pos c with rfl | h0
  · exact (zero_mul_power hk).2
  · obtain ⟨m, e, hm, hx, -, hsize⟩ := exists_view_whole h0 hc
    obtain ⟨n, f, hn, hpower, htens⟩ := exists_view_power hk
    obtain ⟨r, e₁, hscale, hr, hdiv⟩ := div_eq (s := .positive) e f hm hn
    have hvalue : (⟨c, -k⟩ : Decimal).value = m * 2 ^ e / (n * 2 ^ f) := by
      rw [hsize, htens, value, zpow_neg, zpow_natCast, div_eq_mul_inv]
    rw [← hvalue] at hscale hr
    rw [← toDouble_eq_of_rounded h0 (by dsimp only; omega) (by dsimp only; omega) hscale hr hdiv, ← hx, ← hpower]
    rfl

end TurnByTurn.Decimal
