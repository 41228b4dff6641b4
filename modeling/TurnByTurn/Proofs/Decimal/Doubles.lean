import TurnByTurn.Decimal.Shortest
import TurnByTurn.Proofs.Binary64.RoundEven

/-! # From decimals to doubles

A decimal becomes the double nearest to it, and every decimal in the neighbourhood of a double becomes
this double again.

* **`Decimal.value`** — the number that a decimal stands for.
* **`ofScientific_eq`** — a decimal is rounded to the nearest double.
* **`IsNear m e v`** — the values that are rounded to `m · 2 ^ e`.
* **`ofScientific_of_near`** — a decimal that is near a double becomes this double. -/

namespace TurnByTurn

open Float.Model (Format UnpackedFloat totalExponent)
open Float.Model.UnpackedFloat
open Binary64

variable {v : ℚ} {m r c k : ℕ} {e e₁ g : ℤ} {s : Sign} {accuracy : Accuracy}

/-- **The number that a decimal stands for.** -/
def Decimal.value (d : Decimal) : ℚ := d.coefficient * 10 ^ d.exponent

/-! ## Rounding decimals -/

/-- Above the point, the coefficient is multiplied, with room for all the bits of a mantissa. -/
theorem ofScientific_of_nonneg (hc : 0 < c) (hg : 0 ≤ g) (hle : g ≤ 2048) :
    UnpackedFloat.ofScientific Format.binary64 c g =
      roundWithAccuracy Format.binary64 .positive (c * 2 ^ 53 * 10 ^ g.toNat) (-53) .exact := by
  unfold UnpackedFloat.ofScientific
  rw [dif_neg (by omega), if_neg (by change ¬g > 2048; omega),
    if_neg (by change ¬g < -(2048 + (c.log2 : ℤ)); omega), if_pos hg]
  change roundWithAccuracy Format.binary64 _ (c <<< 53 * 10 ^ g.toNat) (-53 + 0) .exact = _
  rw [Nat.shiftLeft_eq, add_zero]
  rfl

/-- A quotient has as many bits as a mantissa needs, or is at the smallest exponent. -/
theorem divCore_eq {d : ℕ} (hc : 0 < c) (hd : 0 < d) (e f : ℤ) :
    ∃ j : ℕ, (52 ≤ (c * 2 ^ j / d).log2 ∨ e - f - j ≤ -1074) ∧
      divCore Format.binary64 c e d f =
        (c * 2 ^ j / d, e - f - j, accuracyOfFraction (c * 2 ^ j % d) d) := by
  obtain ⟨t, ht⟩ : ∃ t, t = min (e - f) (max ((c.log2 : ℤ) - d.log2 + (e - f) - 53) (-1074)) := ⟨_, rfl⟩
  obtain ⟨j, hj⟩ : ∃ j : ℕ, (j : ℤ) = e - f - t := ⟨(e - f - t).toNat, by omega⟩
  refine ⟨j, ?_, ?_⟩
  · by_cases hsmall : t ≤ -1074
    · exact .inr (by omega)
    · have hquotient : 2 ^ 52 ≤ c * 2 ^ j / d := by
        rw [Nat.le_div_iff_mul_le hd]
        calc 2 ^ 52 * d ≤ 2 ^ 52 * 2 ^ (d.log2 + 1) := Nat.mul_le_mul_left _ Nat.lt_log2_self.le
          _ = 2 ^ (d.log2 + 53) := by rw [← Nat.pow_add]; congr 1; omega
          _ ≤ 2 ^ (c.log2 + j) := Nat.pow_le_pow_right two_pos (by omega)
          _ = 2 ^ c.log2 * 2 ^ j := Nat.pow_add ..
          _ ≤ c * 2 ^ j := Nat.mul_le_mul_right _ (Nat.log2_self_le hc.ne')
      exact .inl ((Nat.le_log2 (by omega)).mpr hquotient)
  · have htarget : min (e - f) (Format.binary64.targetExponent
        (totalExponent c e - totalExponent d f)) = e - f - j := by
      change min (e - f) (max ((c.log2 : ℤ) + 1 + e - ((d.log2 : ℤ) + 1 + f) - 53) (-1074)) = _
      omega
    have hshift : (e - f - (e - f - j)).toNat = j := by omega
    unfold divCore
    simp only [htarget, hshift, Nat.shiftLeft_eq]

/-- Below the point, the coefficient is divided. -/
theorem ofScientific_of_neg (hc : 0 < c) (hg : g < 0) (hge : -(2048 + (c.log2 : ℤ)) ≤ g) {q : ℕ}
    (hcore : divCore Format.binary64 c 0 (10 ^ (-g).toNat) 0 = (q, e, accuracy)) :
    UnpackedFloat.ofScientific Format.binary64 c g =
      roundWithAccuracy Format.binary64 .positive q e accuracy := by
  unfold UnpackedFloat.ofScientific
  rw [dif_neg (by omega), if_neg (by change ¬g > 2048; omega),
    if_neg (by change ¬g < -(2048 + (c.log2 : ℤ)); omega), if_neg (by omega)]
  unfold UnpackedFloat.div
  simp only [hcore]
  rfl

/-- **A decimal is rounded to the nearest double**, unless it is beyond all of them by far. -/
theorem ofScientific_eq (hc : 0 < c) (hle : g ≤ 2048) (hge : -(2048 + (c.log2 : ℤ)) ≤ g) :
    ∃ r e₁, IsScale (c * 10 ^ g) e₁ ∧ IsNearestEven r (c * 10 ^ g / 2 ^ e₁) ∧
      UnpackedFloat.ofScientific Format.binary64 c g = ofRounded .positive r e₁ := by
  rcases le_or_gt 0 g with hg | hg
  · have hm : 52 ≤ (c * 2 ^ 53 * 10 ^ g.toNat).log2 ∨ (-53 : ℤ) ≤ -1074 := by
      have hpos : 0 < 10 ^ g.toNat := Nat.pow_pos (by decide)
      refine .inl ((Nat.le_log2 (by positivity)).mpr ?_)
      calc 2 ^ 52 ≤ 1 * 2 ^ 53 * 1 := by norm_num
        _ ≤ c * 2 ^ 53 * 10 ^ g.toNat := Nat.mul_le_mul (Nat.mul_le_mul_right _ hc) hpos
    have hv : ((c * 2 ^ 53 * 10 ^ g.toNat : ℕ) : ℚ) * 2 ^ (-53 : ℤ) = c * 10 ^ g := by
      obtain ⟨k, rfl⟩ := Int.eq_ofNat_of_zero_le hg
      rw [Int.toNat_natCast, zpow_natCast]
      push_cast
      norm_num
      ring
    rw [ofScientific_of_nonneg hc hg hle, ← hv]
    exact roundWithAccuracy_eq (stands_exact _) hm
  · have hpos : 0 < 10 ^ (-g).toNat := Nat.pow_pos (by decide)
    obtain ⟨j, hj, hcore⟩ := divCore_eq hc hpos 0 0
    rw [sub_self, zero_sub] at hj hcore
    have hv : ((c * 2 ^ j : ℕ) : ℚ) / (10 ^ (-g).toNat : ℕ) * 2 ^ (-(j : ℤ)) = c * 10 ^ g := by
      obtain ⟨k, hk⟩ : ∃ k : ℕ, g = -(k : ℤ) := ⟨(-g).toNat, by omega⟩
      rw [hk, neg_neg, Int.toNat_natCast, zpow_neg, zpow_neg, zpow_natCast, zpow_natCast]
      push_cast
      field_simp
    rw [ofScientific_of_neg hc hg hge hcore, ← hv]
    exact roundWithAccuracy_eq (stands_quotient hpos) hj

/-! ## Neighbourhoods -/

/-- **The values that are rounded to `m · 2 ^ e`**, in quarters of its unit: as near to it as to its
neighbours, and nearer if its mantissa is odd. Below a power of two the neighbour is only half as far. -/
structure IsNear (m : ℕ) (e : ℤ) (v : ℚ) : Prop where
  le : ((Decimal.Neighbourhood.of m e).low : ℚ) * 2 ^ (e - 2) ≤ v
  ge : v ≤ (4 * m + 2) * 2 ^ (e - 2)
  even_of_eq : v = (Decimal.Neighbourhood.of m e).low * 2 ^ (e - 2) ∨ v = (4 * m + 2) * 2 ^ (e - 2) →
    m % 2 = 0

/-- A value near a double is above zero. -/
theorem IsNear.pos (h : IsNear m e v) (hm : 0 < m) : 0 < v := by
  have hlow : 0 < (Decimal.Neighbourhood.of m e).low := by
    simp only [Decimal.Neighbourhood.of]
    split <;> omega
  have hlow' : (0 : ℚ) < (Decimal.Neighbourhood.of m e).low := by exact_mod_cast hlow
  exact lt_of_lt_of_le (mul_pos hlow' (zpow_pos two_pos _)) h.le

/-- Below a power of two the neighbourhood reaches a quarter down, elsewhere a half. -/
theorem low_cases (hm : 0 < m) :
    (m = 2 ^ 52 ∧ -1074 < e ∧ ((Decimal.Neighbourhood.of m e).low : ℚ) = 4 * m - 1) ∨
      ((m ≠ 2 ^ 52 ∨ e ≤ -1074) ∧ ((Decimal.Neighbourhood.of m e).low : ℚ) = 4 * m - 2) := by
  unfold Decimal.Neighbourhood.of
  simp only
  split
  · rename_i hpower
    refine .inl ⟨hpower.1, hpower.2, ?_⟩
    rw [Nat.cast_sub (by omega)]
    push_cast
    ring
  · rename_i hpower
    refine .inr ⟨?_, ?_⟩
    · by_cases he : e ≤ -1074
      · exact .inr he
      · exact .inl fun h => hpower ⟨h, by omega⟩
    · rw [Nat.cast_sub (by omega)]
      push_cast
      ring

/-- Powers in quarters of a unit. -/
theorem zpow_add_eq_mul_quarter (n e : ℤ) : (2 : ℚ) ^ (n + e) = 2 ^ (n + 2) * 2 ^ (e - 2) := by
  rw [← zpow_add₀ two_ne_zero]
  congr 1
  ring

/-- A value near a double is too small for a higher exponent. -/
theorem IsNear.scale_le (h : IsNear m e v) (hm : IsCanonical m e) (hscale : IsScale v e₁) : e₁ ≤ e := by
  by_contra hlt
  have hmantissa : (m : ℚ) + 1 ≤ 2 ^ 53 := by exact_mod_cast hm.lt
  have hfull := hscale.full.resolve_left (by have := hm.le_exponent; omega)
  have hv : 2 ^ 55 * 2 ^ (e - 2) ≤ v := by
    calc (2 : ℚ) ^ 55 * 2 ^ (e - 2) = 2 ^ (53 + e) := by rw [zpow_add_eq_mul_quarter]; norm_num
      _ ≤ 2 ^ (52 + e₁) := zpow_le_zpow_right₀ one_le_two (by omega)
      _ ≤ v := hfull
  have hle := le_of_mul_le_mul_right (hv.trans h.ge) (zpow_pos two_pos _)
  linarith

/-- A lower exponent leaves only the values just below a power of two. -/
theorem IsNear.of_scale_lt (h : IsNear m e v) (hm : IsCanonical m e) (hscale : IsScale v e₁)
    (hlt : e₁ < e) : e₁ = e - 1 ∧ m = 2 ^ 52 := by
  have hle := hscale.le
  have hfull : 2 ^ 52 ≤ m := hm.full.resolve_right (by omega)
  have hfull' : (2 : ℚ) ^ 52 ≤ m := by exact_mod_cast hfull
  have hbound : ∀ n : ℤ, 53 + e₁ ≤ n + e →
      ((Decimal.Neighbourhood.of m e).low : ℚ) < 2 ^ (n + 2) := fun n hn => by
    have hv : v < 2 ^ (n + 2) * 2 ^ (e - 2) := by
      rw [← zpow_add_eq_mul_quarter]
      exact hscale.lt.trans_le (zpow_le_zpow_right₀ one_le_two hn)
    exact lt_of_mul_lt_mul_right (h.le.trans_lt hv) (zpow_pos two_pos _).le
  rcases low_cases (m := m) (e := e) hm.pos with ⟨hm52, -, hlow⟩ | ⟨hpower, hlow⟩
  · refine ⟨?_, hm52⟩
    by_contra hne
    have hlow' := hbound 51 (by omega)
    rw [hlow] at hlow'
    norm_num at hlow'
    linarith
  · exfalso
    have hlow' := hbound 52 (by omega)
    rw [hlow] at hlow'
    norm_num at hlow'
    have hm52 : (m : ℚ) < 2 ^ 52 + 1 := by linarith
    have hm52' : m < 2 ^ 52 + 1 := by exact_mod_cast hm52
    rcases hpower with hpower | hpower <;> omega

/-- At its own exponent, a value near a double is rounded to its mantissa. -/
theorem IsNear.isNearestEven (h : IsNear m e v) (hm : 0 < m) : IsNearestEven m (v / 2 ^ e) := by
  have hu : (0 : ℚ) < 2 ^ (e - 2) := zpow_pos two_pos _
  obtain ⟨w, rfl⟩ : ∃ w, v = w * 2 ^ (e - 2) := ⟨v / 2 ^ (e - 2), by field_simp⟩
  have hlow := le_of_mul_le_mul_right h.le hu
  have hhigh := le_of_mul_le_mul_right h.ge hu
  have heven : w = (Decimal.Neighbourhood.of m e).low ∨ w = 4 * m + 2 → m % 2 = 0 := fun hw =>
    h.even_of_eq (hw.imp (congrArg (· * _)) (congrArg (· * _)))
  have hquarter : w * 2 ^ (e - 2) / 2 ^ e = w / 4 := by
    rw [zpow_sub₀ two_ne_zero]
    field_simp
    norm_num
  rw [hquarter]
  rcases low_cases (m := m) (e := e) hm with ⟨hm52, -, hlowEq⟩ | ⟨-, hlowEq⟩
  · rw [hlowEq] at hlow
    exact ⟨by linarith, by linarith, fun _ => by rw [hm52]; rfl⟩
  · rw [hlowEq] at hlow heven
    refine ⟨by linarith, by linarith, fun hw => heven ?_⟩
    rcases hw with hw | hw
    · exact .inl (by linarith)
    · exact .inr (by linarith)

/-- At the exponent below a power of two, a value near it is rounded up to it. -/
theorem IsNear.isNearestEven_below (h : IsNear (2 ^ 52) e v) (he : -1074 < e)
    (hv : v < 2 ^ (53 + (e - 1))) : IsNearestEven (2 ^ 53) (v / 2 ^ (e - 1)) := by
  have hu : (0 : ℚ) < 2 ^ (e - 2) := zpow_pos two_pos _
  have hexponent : 53 + (e - 1) = 52 + e := by ring
  rw [hexponent, zpow_add_eq_mul_quarter] at hv
  obtain ⟨w, rfl⟩ : ∃ w, v = w * 2 ^ (e - 2) := ⟨v / 2 ^ (e - 2), by field_simp⟩
  have hlow := le_of_mul_le_mul_right h.le hu
  have hhigh := lt_of_mul_lt_mul_right hv hu.le
  have hhalf : w * 2 ^ (e - 2) / 2 ^ (e - 1) = w / 2 := by
    rw [zpow_sub₀ two_ne_zero, zpow_sub₀ two_ne_zero]
    field_simp
  rw [hhalf]
  rcases low_cases (m := 2 ^ 52) (e := e) (by norm_num) with ⟨-, -, hlowEq⟩ | ⟨hpower, -⟩
  · rw [hlowEq] at hlow
    norm_num at hlow hhigh
    refine ⟨?_, ?_, fun _ => rfl⟩ <;> push_cast <;> linarith
  · exact absurd rfl (hpower.resolve_right (by omega))

/-- **A value near a double is rounded to this double.** -/
theorem IsNear.ofRounded_eq (h : IsNear m e v) (hm : IsCanonical m e) (hscale : IsScale v e₁)
    (hr : IsNearestEven r (v / 2 ^ e₁)) : ofRounded s r e₁ = .finite s m e hm.pos := by
  have hle := hscale.le
  rcases (h.scale_le hm hscale).eq_or_lt with rfl | hlt
  · rw [hr.unique (h.isNearestEven hm.pos), ofRounded, dif_neg hm.pos.ne', if_pos hm.lt]
  · obtain ⟨rfl, rfl⟩ := h.of_scale_lt hm hscale hlt
    have hnearest := h.isNearestEven_below (by omega) hscale.lt
    rw [hr.unique hnearest, ofRounded, dif_neg (by norm_num), if_neg (by norm_num)]
    congr 1
    ring

/-- A decimal near a double is not far above all doubles. -/
theorem IsNear.exponent_le (h : IsNear m e (c * 10 ^ g)) (hm : IsCanonical m e) (hc : 0 < c) :
    g ≤ 2048 := by
  by_contra hlt
  have hmantissa : (m : ℚ) + 1 ≤ 2 ^ 53 := by exact_mod_cast hm.lt
  have hu : (0 : ℚ) < 2 ^ (e - 2) := zpow_pos two_pos _
  have hc' : (1 : ℚ) ≤ c := by exact_mod_cast hc
  have hbelow : (c : ℚ) * 10 ^ g < 2 ^ (1024 : ℤ) := by
    have hexponent := hm.exponent_le
    calc (c : ℚ) * 10 ^ g ≤ (4 * m + 2) * 2 ^ (e - 2) := h.ge
      _ < 2 ^ 55 * 2 ^ (e - 2) := mul_lt_mul_of_pos_right (by linarith) hu
      _ = 2 ^ (55 + (e - 2)) := by rw [zpow_add₀ two_ne_zero]; norm_num
      _ ≤ 2 ^ (1024 : ℤ) := zpow_le_zpow_right₀ one_le_two (by omega)
  have habove : (2 : ℚ) ^ (1024 : ℤ) ≤ c * 10 ^ g := by
    obtain ⟨k, rfl⟩ := Int.eq_ofNat_of_zero_le (by omega : 0 ≤ g)
    calc (2 : ℚ) ^ (1024 : ℤ) ≤ 2 ^ (k : ℤ) := zpow_le_zpow_right₀ one_le_two (by omega)
      _ ≤ 10 ^ (k : ℤ) := by
          rw [zpow_natCast, zpow_natCast]
          exact pow_le_pow_left₀ two_pos.le (by norm_num) k
      _ ≤ c * 10 ^ (k : ℤ) := le_mul_of_one_le_left (zpow_pos (by norm_num) _).le hc'
  linarith

/-- A decimal near a double is not far below all doubles. -/
theorem IsNear.le_exponent (h : IsNear m e (c * 10 ^ g)) (hm : IsCanonical m e) :
    -(2048 + (c.log2 : ℤ)) ≤ g := by
  by_contra hlt
  obtain ⟨k, rfl⟩ : ∃ k : ℕ, g = -(k : ℤ) := ⟨(-g).toNat, by omega⟩
  have hlow : (2 : ℚ) ≤ (Decimal.Neighbourhood.of m e).low := by
    have hm' : (1 : ℚ) ≤ m := by exact_mod_cast hm.pos
    rcases low_cases (m := m) (e := e) hm.pos with ⟨-, -, hlow⟩ | ⟨-, hlow⟩ <;> rw [hlow] <;> linarith
  have habove : (2 : ℚ) ^ (-1075 : ℤ) ≤ c * 10 ^ (-(k : ℤ)) := by
    have hexponent := hm.le_exponent
    calc (2 : ℚ) ^ (-1075 : ℤ) ≤ 2 ^ (1 + (e - 2)) := zpow_le_zpow_right₀ one_le_two (by omega)
      _ = 2 * 2 ^ (e - 2) := by rw [zpow_add₀ two_ne_zero, zpow_one]
      _ ≤ (Decimal.Neighbourhood.of m e).low * 2 ^ (e - 2) :=
          mul_le_mul_of_nonneg_right hlow (zpow_pos two_pos _).le
      _ ≤ c * 10 ^ (-(k : ℤ)) := h.le
  have hbelow : (c : ℚ) * 10 ^ (-(k : ℤ)) < 2 ^ (-1075 : ℤ) := by
    have hc : (c : ℚ) < 2 ^ (c.log2 + 1) := by exact_mod_cast Nat.lt_log2_self
    have hten : (10 : ℚ) ^ (-(k : ℤ)) ≤ 2 ^ (-(k : ℤ)) := by
      rw [zpow_neg, zpow_neg, zpow_natCast, zpow_natCast]
      exact inv_anti₀ (by positivity) (pow_le_pow_left₀ two_pos.le (by norm_num) k)
    calc (c : ℚ) * 10 ^ (-(k : ℤ)) ≤ c * 2 ^ (-(k : ℤ)) := mul_le_mul_of_nonneg_left hten c.cast_nonneg
      _ < 2 ^ (c.log2 + 1) * 2 ^ (-(k : ℤ)) := mul_lt_mul_of_pos_right hc (zpow_pos two_pos _)
      _ = 2 ^ (((c.log2 + 1 : ℕ) : ℤ) + -(k : ℤ)) := by rw [zpow_add₀ two_ne_zero, zpow_natCast]
      _ ≤ 2 ^ (-1075 : ℤ) := zpow_le_zpow_right₀ one_le_two (by omega)
  linarith

/-- **A decimal near a double becomes this double.** -/
theorem ofScientific_of_near {d : Decimal} (h : IsNear m e d.value) (hm : IsCanonical m e) :
    UnpackedFloat.ofScientific Format.binary64 d.coefficient d.exponent =
      .finite .positive m e hm.pos := by
  have hc : 0 < d.coefficient := by
    by_contra h0
    have hpos := h.pos hm.pos
    rw [Decimal.value, Nat.eq_zero_of_not_pos h0] at hpos
    simp at hpos
  obtain ⟨r, e₁, hscale, hr, heq⟩ := ofScientific_eq hc (h.exponent_le hm hc) (h.le_exponent hm)
  rw [heq]
  exact h.ofRounded_eq hm hscale hr

namespace Decimal

variable {d : Decimal} {negative : Bool} {x : Float}

/-- The sign of a flag. -/
def signOf (negative : Bool) : Sign := if negative then .negative else .positive

/-- **A decimal near a double becomes this double**, with its sign. -/
theorem toDouble_of_near {hm : 0 < m} (hview : view x = .finite (signOf negative) m e hm)
    (h : IsNear m e d.value) : d.toDouble negative = x := by
  have hcanonical := isCanonical_of_view hview
  have hsize : Float.ofModel (.ofScientific d.coefficient d.exponent) =
      .ofModel (.pack (.finite .positive m e hm)) := by
    unfold Float.Model.ofScientific
    rw [ofScientific_of_near h hcanonical]
  unfold toDouble
  simp only [hsize]
  cases negative with
  | false =>
      rw [if_neg (by simp), ← pack_view x, hview]
      rfl
  | true =>
      change Float.ofModel (.pack (view (.ofModel (.pack (.finite .positive m e hm)))).neg) = x
      rw [view_pack hcanonical, ← pack_view x, hview]
      rfl

/-- Zero becomes the zero of the sign. -/
theorem toDouble_zero (hview : view x = .zero (signOf negative)) (g : ℤ) :
    toDouble negative ⟨0, g⟩ = x := by
  have hsize : Float.ofModel (.ofScientific 0 g) = .ofModel (.pack (.zero .positive)) := rfl
  unfold toDouble
  rw [← pack_view x, hview]
  simp only [hsize]
  cases negative <;> rfl

/-- **Decimals far below the largest double become doubles**, and not infinities. -/
theorem isFinite_toDouble_of_lt (hvalue : d.value < 2 ^ 1000) (hlow : -2048 ≤ d.exponent)
    (hhigh : d.exponent ≤ 2048) : (toDouble negative d).isFinite = true := by
  have hfinite : ∃ u, view (.ofModel (.ofScientific d.coefficient d.exponent)) = u ∧ u.isFinite = true ∧
      (view (.ofModel (.pack u.neg))).isFinite = true := by
    obtain ⟨c, g⟩ := d
    rcases Nat.eq_zero_or_pos c with rfl | hpos
    · have hzero : Float.Model.ofScientific 0 g = .pack (.zero .positive) := rfl
      refine ⟨.zero .positive, ?_, rfl, rfl⟩
      rw [hzero]
      rfl
    · obtain ⟨r, e₁, hscale, hr, heq⟩ := ofScientific_eq hpos hhigh (by omega)
      have he₁ : e₁ ≤ 970 := by
        rcases hscale.full with hsmall | hfull
        · omega
        · have hlt : (2 : ℚ) ^ (52 + e₁) < 2 ^ (1000 : ℤ) := hfull.trans_lt (by exact_mod_cast hvalue)
          have := (zpow_lt_zpow_iff_right₀ one_lt_two).mp hlt
          omega
      unfold Float.Model.ofScientific
      rw [heq]
      rcases hscale.ofRounded_cases (s := .positive) hr he₁ with hzero | ⟨m, e, hm, hfinite⟩
      · rw [hzero]
        exact ⟨_, rfl, rfl, rfl⟩
      · rw [hfinite, view_pack hm]
        exact ⟨_, rfl, rfl, by rw [UnpackedFloat.neg, view_pack hm]; rfl⟩
  obtain ⟨u, hu, hfinite, hneg⟩ := hfinite
  unfold toDouble
  simp only
  cases negative with
  | false =>
      change (view (.ofModel (.ofScientific d.coefficient d.exponent))).isFinite = true
      rw [hu, hfinite]
  | true =>
      change (view (.ofModel (.pack
        (view (.ofModel (.ofScientific d.coefficient d.exponent))).neg))).isFinite = true
      rw [hu, hneg]

end Decimal

end TurnByTurn
