import TurnByTurn.Proofs.Binary64.Canonical

/-! # Rounding to the nearest double

Arithmetic cuts an exact value down to a mantissa and keeps two bits of what it cut: enough to round to
the nearest double, a half going to the even mantissa.

* **`IsNearestEven r v`** — the whole number nearest to a value, a half going to the even one.
* **`Stands em v`** — what the two bits say about a value.
* **`nearestEven_roundedMantissa`** — a cut mantissa is rounded to the nearest whole number. -/

namespace TurnByTurn.Binary64

open Float.Model (Format UnpackedFloat totalExponent)
open Float.Model.UnpackedFloat

variable {v w : ℚ} {m r r' : ℕ} {e : ℤ} {s : Sign} {em : ExtendedMantissa} {accuracy : Accuracy}

/-! ## Nearest whole numbers -/

/-- **The whole number nearest to a value, a half going to the even one.** -/
structure IsNearestEven (r : ℕ) (v : ℚ) : Prop where
  le : (r : ℚ) - 1 / 2 ≤ v
  ge : v ≤ r + 1 / 2
  even_of_half : v = r - 1 / 2 ∨ v = r + 1 / 2 → r % 2 = 0

/-- There is one nearest whole number. -/
theorem IsNearestEven.unique (h : IsNearestEven r v) (h' : IsNearestEven r' v) : r = r' := by
  -- two of them are neighbours, with the value halfway between, and both even
  by_contra hne
  wlog hlt : r < r' generalizing r r'
  · exact this h' h (Ne.symm hne) (by omega)
  have hsucc : r' = r + 1 := by
    have hle : (r' : ℚ) ≤ r + 1 := by linarith [h.ge, h'.le]
    have hle' : r' ≤ r + 1 := by exact_mod_cast hle
    omega
  subst hsucc
  have hv : v = r + 1 / 2 := by
    have hle := h'.le
    push_cast at hle
    linarith [h.ge]
  have heven := h.even_of_half (.inr hv)
  have heven' := h'.even_of_half (.inl (by rw [hv]; push_cast; ring))
  omega

/-! ## Cut mantissas -/

/-- **A cut mantissa stands for a value**: the round bit tells whether at least a half was cut, the sticky
bit whether it was anything else than nothing or a half. -/
def Stands (em : ExtendedMantissa) (v : ℚ) : Prop :=
  match em with
  | ⟨m, false, false⟩ => v = m
  | ⟨m, false, true⟩ => m < v ∧ v < m + 1 / 2
  | ⟨m, true, false⟩ => v = m + 1 / 2
  | ⟨m, true, true⟩ => m + 1 / 2 < v ∧ v < m + 1

/-- A value lies between a cut mantissa and the next one. -/
theorem Stands.bounds (h : Stands em v) : (em.mantissa : ℚ) ≤ v ∧ v < em.mantissa + 1 := by
  obtain ⟨m, round, sticky⟩ := em
  cases round <;> cases sticky <;> simp only [Stands] at h <;> constructor <;> linarith

/-- A mantissa that was not cut stands for itself. -/
theorem stands_exact (m : ℕ) : Stands (.ofMantissaAndAccuracy m .exact) m := rfl

/-- A quotient with what is known of its remainder stands for the fraction. -/
theorem stands_quotient {n d : ℕ} (hd : 0 < d) :
    Stands (.ofMantissaAndAccuracy (n / d) (accuracyOfFraction (n % d) d)) ((n : ℚ) / d) := by
  have hd' : (0 : ℚ) < d := by exact_mod_cast hd
  have hn : (n : ℚ) = d * (n / d : ℕ) + (n % d : ℕ) := by exact_mod_cast (Nat.div_add_mod n d).symm
  have hv : (n : ℚ) / d = (n / d : ℕ) + ((n % d : ℕ) : ℚ) / d := by
    rw [hn]
    field_simp
  have hlt : ((n % d : ℕ) : ℚ) / d < 1 := by
    rw [div_lt_one hd']
    exact_mod_cast Nat.mod_lt n hd
  rw [hv]
  unfold accuracyOfFraction
  split
  · rename_i hzero
    rw [hzero]
    simp [Stands, ExtendedMantissa.ofMantissaAndAccuracy]
  · rename_i hzero
    have hpos : (0 : ℚ) < ((n % d : ℕ) : ℚ) / d :=
      div_pos (by exact_mod_cast Nat.pos_of_ne_zero hzero) hd'
    cases hcompare : compare (2 * (n % d)) d with
    | lt =>
        have hhalf : ((n % d : ℕ) : ℚ) / d < 1 / 2 := by
          rw [div_lt_div_iff₀ hd' two_pos]
          have := Nat.compare_eq_lt.mp hcompare
          exact_mod_cast (by omega : n % d * 2 < 1 * d)
        exact ⟨by linarith, by linarith⟩
    | eq =>
        have hhalf : ((n % d : ℕ) : ℚ) / d = 1 / 2 := by
          rw [div_eq_div_iff hd'.ne' two_ne_zero]
          have := Nat.compare_eq_eq.mp hcompare
          exact_mod_cast (by omega : n % d * 2 = 1 * d)
        change _ = _
        rw [hhalf]
    | gt =>
        have hhalf : 1 / 2 < ((n % d : ℕ) : ℚ) / d := by
          rw [div_lt_div_iff₀ two_pos hd']
          have := Nat.compare_eq_gt.mp hcompare
          exact_mod_cast (by omega : 1 * d < n % d * 2)
        exact ⟨by linarith, by linarith⟩

/-- Cutting off one more bit halves the value. -/
theorem Stands.shiftRightOne (h : Stands em v) : Stands em.shiftRightOne (v / 2) := by
  obtain ⟨m, round, sticky⟩ := em
  have hm : (m : ℚ) = 2 * (m / 2 : ℕ) + (m % 2 : ℕ) := by exact_mod_cast (Nat.div_add_mod m 2).symm
  unfold ExtendedMantissa.shiftRightOne
  rcases Nat.mod_two_eq_zero_or_one m with hparity | hparity <;> rw [hparity] at hm <;>
    cases round <;> cases sticky <;>
    simp only [Stands, hparity, bne_self_eq_false, Nat.reduceBNe, Bool.or_false, Bool.or_true] at h ⊢ <;>
    push_cast at hm <;> first | linarith | (constructor <;> linarith)

/-- Cutting off bits divides the value. -/
theorem Stands.shiftRight (h : Stands em v) (k : ℕ) : Stands (em >>> k) (v / 2 ^ k) := by
  induction k with
  | zero =>
      rw [pow_zero, div_one]
      exact h
  | succ k ih =>
      change Stands (em >>> k).shiftRightOne _
      have hv : v / 2 ^ (k + 1) = v / 2 ^ k / 2 := by rw [pow_succ]; field_simp
      rw [hv]
      exact ih.shiftRightOne

/-- **A cut mantissa is rounded to the nearest whole number.** -/
theorem nearestEven_roundedMantissa (h : Stands em v) : IsNearestEven em.roundedMantissa v := by
  obtain ⟨m, round, sticky⟩ := em
  have hparity : ((m % 2 : ℕ) : ℚ) = 0 ∨ ((m % 2 : ℕ) : ℚ) = 1 := by
    rcases Nat.mod_two_eq_zero_or_one m with hparity | hparity <;> rw [hparity] <;> norm_num
  cases round <;> cases sticky
  · obtain rfl : v = m := h
    change IsNearestEven m m
    exact ⟨by linarith, by linarith, by rintro (h | h) <;> linarith⟩
  · obtain ⟨hlow, hhigh⟩ : m < v ∧ v < m + 1 / 2 := h
    change IsNearestEven m v
    exact ⟨by linarith, by linarith, by rintro (h | h) <;> linarith⟩
  · obtain rfl : v = m + 1 / 2 := h
    change IsNearestEven (m + m % 2) _
    refine ⟨?_, ?_, fun _ => by omega⟩ <;> push_cast <;> rcases hparity with h | h <;> linarith
  · obtain ⟨hlow, hhigh⟩ : m + 1 / 2 < v ∧ v < m + 1 := h
    change IsNearestEven (m + 1) v
    refine ⟨?_, ?_, ?_⟩
    · push_cast; linarith
    · push_cast; linarith
    · rintro (h | h) <;> push_cast at h <;> linarith

/-! ## Nearest doubles -/

/-- **The exponent at which a value is rounded**: it leaves 53 bits before the point, or fewer at the
smallest exponent. -/
structure IsScale (v : ℚ) (e : ℤ) : Prop where
  le : -1074 ≤ e
  lt : v < 2 ^ (53 + e)
  full : e = -1074 ∨ 2 ^ (52 + e) ≤ v

/-- A rounded mantissa of 54 bits is a power of two, and moves up to the next exponent. -/
def ofRounded (s : Sign) (r : ℕ) (e : ℤ) : UnpackedFloat :=
  if h : r = 0 then .zero s
  else if r < 2 ^ 53 then .finite s r e (Nat.pos_of_ne_zero h)
  else .finite s (2 ^ 52) (e + 1) (by decide)

theorem targetExponent_eq (m : ℕ) (e : ℤ) :
    Format.binary64.targetExponent (totalExponent m e) = max (m.log2 + e - 52) (-1074) := by
  change max ((m.log2 : ℤ) + 1 + e - 53) (-1074) = _
  omega

/-- A mantissa that fits stays as it is. -/
theorem shiftToTargetExponent_of_lt (hm : m < 2 ^ 53) (he : -1074 ≤ e) :
    shiftToTargetExponent Format.binary64 m e .exact = (⟨m, false, false⟩, e) := by
  have hlog : m.log2 ≤ 52 := by
    by_cases h0 : m = 0
    · simp [h0]
    · have := (Nat.log2_lt h0).mpr hm
      omega
  have hshift : (Format.binary64.targetExponent (totalExponent m e) - e).toNat = 0 := by
    rw [targetExponent_eq]
    omega
  unfold shiftToTargetExponent shiftToExponent
  simp only [hshift]
  change (ExtendedMantissa.ofMantissaAndAccuracy m .exact, e + 0) = _
  rw [add_zero]
  rfl

/-- A mantissa of 54 bits that is a power of two moves up by one exponent. -/
theorem shiftToTargetExponent_of_carry (he : -1074 ≤ e) :
    shiftToTargetExponent Format.binary64 (2 ^ 53) e .exact = (⟨2 ^ 52, false, false⟩, e + 1) := by
  have hshift : (Format.binary64.targetExponent (totalExponent (2 ^ 53) e) - e).toNat = 1 := by
    rw [targetExponent_eq, Nat.log2_two_pow]
    omega
  unfold shiftToTargetExponent shiftToExponent
  simp only [hshift]
  rfl

/-- A rounded mantissa is put into its final form. -/
theorem roundWithAccuracy_of_shift {e₁ : ℤ} (hle : -1074 ≤ e₁)
    (hshift : shiftToTargetExponent Format.binary64 m e accuracy = (em, e₁))
    (hr : em.roundedMantissa ≤ 2 ^ 53) :
    roundWithAccuracy Format.binary64 s m e accuracy = ofRounded s em.roundedMantissa e₁ := by
  unfold roundWithAccuracy ofRounded
  rw [hshift]
  simp only
  by_cases hlt : em.roundedMantissa < 2 ^ 53
  · rw [shiftToTargetExponent_of_lt hlt hle]
    simp only [hlt, if_true]
  · have heq : em.roundedMantissa = 2 ^ 53 := by omega
    rw [heq, shiftToTargetExponent_of_carry hle]
    rfl

/-- A mantissa gives the exponent at which the values that it begins are rounded. -/
theorem isScale_target (hm : 52 ≤ m.log2 ∨ e ≤ -1074) (hlow : (m : ℚ) ≤ v) (hhigh : v < m + 1) :
    IsScale (v * 2 ^ e) (max ((m.log2 : ℤ) + e - 52) (-1074)) := by
  have hpow : (0 : ℚ) < 2 ^ e := zpow_pos two_pos e
  refine ⟨by omega, ?_, ?_⟩
  · have hlog : m + 1 ≤ 2 ^ (m.log2 + 1) := Nat.lt_log2_self
    have hlog' : (m : ℚ) + 1 ≤ 2 ^ (m.log2 + 1) := by exact_mod_cast hlog
    calc v * 2 ^ e < 2 ^ (m.log2 + 1) * 2 ^ e := mul_lt_mul_of_pos_right (by linarith) hpow
      _ = 2 ^ (((m.log2 + 1 : ℕ) : ℤ) + e) := by rw [zpow_add₀ two_ne_zero, zpow_natCast]
      _ ≤ _ := zpow_le_zpow_right₀ one_le_two (by omega)
  · by_cases hsmall : (m.log2 : ℤ) + e - 52 ≤ -1074
    · exact .inl (max_eq_right hsmall)
    · have h0 : m ≠ 0 := by
        rintro rfl
        simp only [Nat.log2_zero] at hm hsmall
        omega
      have hlog : (2 : ℚ) ^ m.log2 ≤ m := by exact_mod_cast Nat.log2_self_le h0
      have hexp : 52 + max ((m.log2 : ℤ) + e - 52) (-1074) = m.log2 + e := by omega
      refine .inr ?_
      rw [hexp, zpow_add₀ two_ne_zero, zpow_natCast]
      exact mul_le_mul_of_nonneg_right (hlog.trans hlow) hpow.le

/-- What is nearest to a value that fits is at most the power of two above. -/
theorem IsNearestEven.le_of_lt (h : IsNearestEven r v) {n : ℕ} (hv : v < n) : r ≤ n := by
  have hle := h.le
  have hr : (r : ℚ) < n + 1 := by linarith
  have hr' : r < n + 1 := by exact_mod_cast hr
  omega

/-- **An exact value is rounded to the nearest mantissa at its scale.** The mantissa must have enough
bits, or be at the smallest exponent. -/
theorem roundWithAccuracy_eq (hv : Stands (.ofMantissaAndAccuracy m accuracy) v)
    (hm : 52 ≤ m.log2 ∨ e ≤ -1074) :
    ∃ r e₁, IsScale (v * 2 ^ e) e₁ ∧ IsNearestEven r (v * 2 ^ e / 2 ^ e₁) ∧
      roundWithAccuracy Format.binary64 s m e accuracy = ofRounded s r e₁ := by
  obtain ⟨hlow, hhigh⟩ := hv.bounds
  have hmantissa : (ExtendedMantissa.ofMantissaAndAccuracy m accuracy).mantissa = m := by
    cases accuracy with
    | exact => rfl
    | inexact o => cases o <;> rfl
  rw [hmantissa] at hlow hhigh
  have hscale := isScale_target hm hlow hhigh
  have htarget := targetExponent_eq m e
  have hle : e ≤ max ((m.log2 : ℤ) + e - 52) (-1074) := by omega
  generalize max ((m.log2 : ℤ) + e - 52) (-1074) = e₁ at hscale htarget hle
  obtain ⟨k, hk⟩ : ∃ k : ℕ, e₁ = e + k := ⟨(e₁ - e).toNat, by omega⟩
  have hw : v * 2 ^ e / 2 ^ e₁ = v / 2 ^ k := by
    rw [hk, zpow_add₀ two_ne_zero, zpow_natCast]
    field_simp
  have hround := nearestEven_roundedMantissa (hv.shiftRight k)
  refine ⟨_, e₁, hscale, hw ▸ hround, roundWithAccuracy_of_shift hscale.le ?_ ?_⟩
  · have hshift : (e₁ - e).toNat = k := by omega
    unfold shiftToTargetExponent shiftToExponent
    simp only [htarget, hshift]
    rw [hk]
  · refine hround.le_of_lt ?_
    rw [← hw, div_lt_iff₀ (zpow_pos two_pos e₁)]
    have hlt := hscale.lt
    rwa [zpow_add₀ two_ne_zero] at hlt

/-- **What is rounded is a zero or has the canonical form**, unless it is beyond the largest exponent. -/
theorem IsScale.ofRounded_cases (hscale : IsScale v e) (hr : IsNearestEven r (v / 2 ^ e))
    (he : e ≤ 970) :
    ofRounded s r e = .zero s ∨
      ∃ (m : ℕ) (e' : ℤ) (h : IsCanonical m e'), ofRounded s r e = .finite s m e' h.pos := by
  have hle := hscale.le
  unfold ofRounded
  by_cases h0 : r = 0
  · exact .inl (dif_pos h0)
  · rw [dif_neg h0]
    refine .inr ?_
    by_cases hlt : r < 2 ^ 53
    · have hfull : 2 ^ 52 ≤ r ∨ e = -1074 := by
        rcases hscale.full with hsmall | hfull
        · exact .inr hsmall
        · rw [zpow_add₀ two_ne_zero, ← le_div_iff₀ (zpow_pos two_pos e)] at hfull
          have hge := hr.ge
          have hr' : (2 : ℚ) ^ 52 < r + 1 := by
            have : (2 : ℚ) ^ (52 : ℤ) = 2 ^ 52 := by norm_cast
            linarith
          have hr'' : 2 ^ 52 < r + 1 := by exact_mod_cast hr'
          exact .inl (by omega)
      exact ⟨r, e, ⟨Nat.pos_of_ne_zero h0, hlt, hle, by omega, hfull⟩, if_pos hlt⟩
    · exact ⟨2 ^ 52, e + 1, ⟨by decide, by decide, by omega, by omega, .inl le_rfl⟩, if_neg hlt⟩

end TurnByTurn.Binary64
