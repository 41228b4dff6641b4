import TurnByTurn.Proofs.Binary64.Values
import TurnByTurn.Proofs.Decimal.Shortest

/-! # Whole numbers as doubles

Whole numbers of 53 bits are doubles: nothing is rounded when they become ones.

* **`roundWithAccuracy_exact`** — a value that is a double is rounded to it.
* **`value_ofNat`** — a whole number of 53 bits is the value of its double. -/

namespace TurnByTurn.Binary64

open Float.Model (Format UnpackedFloat)
open Float.Model.UnpackedFloat

variable {m n k : ℕ} {e f : ℤ} {s : Sign}

/-- **A value that is a double is rounded to it.** -/
theorem roundWithAccuracy_exact (hm : IsCanonical m e) (hvalue : (n : ℚ) * 2 ^ f = m * 2 ^ e)
    (hn : 52 ≤ n.log2 ∨ f ≤ -1074) :
    roundWithAccuracy Format.binary64 s n f .exact = .finite s m e hm.pos := by
  obtain ⟨r, e₁, hscale, hr, hround⟩ := roundWithAccuracy_eq (s := s) (stands_exact n) hn
  rw [hvalue] at hscale hr
  rw [hround]
  exact (Decimal.isNear_self hm.pos).ofRounded_eq hm hscale hr

/-- The bits that a whole number has not. -/
theorem log2_le (hn : n < 2 ^ 53) : n.log2 ≤ 52 := by
  by_cases h0 : n = 0
  · rw [h0]
    decide
  · have := (Nat.log2_lt h0).mpr hn
    omega

/-- **The canonical form of a whole number**: its bits are moved up to the highest one of 53. -/
theorem isCanonical_whole (h0 : 0 < n) (hn : n < 2 ^ 53) :
    IsCanonical (n * 2 ^ (52 - n.log2)) ((n.log2 : ℤ) - 52) := by
  have hlog := log2_le hn
  have hlow : 2 ^ 52 ≤ n * 2 ^ (52 - n.log2) := by
    calc 2 ^ 52 = 2 ^ n.log2 * 2 ^ (52 - n.log2) := by rw [← pow_add]; congr 1; omega
      _ ≤ n * 2 ^ (52 - n.log2) := Nat.mul_le_mul_right _ (Nat.log2_self_le h0.ne')
  have hhigh : n * 2 ^ (52 - n.log2) < 2 ^ 53 := by
    calc n * 2 ^ (52 - n.log2) < 2 ^ (n.log2 + 1) * 2 ^ (52 - n.log2) :=
          Nat.mul_lt_mul_of_pos_right Nat.lt_log2_self (by positivity)
      _ = 2 ^ 53 := by rw [← pow_add]; congr 1; omega
  exact ⟨by positivity, hhigh, by omega, by omega, .inl hlow⟩

/-- The canonical form of a whole number is that number. -/
theorem size_whole (hn : n < 2 ^ 53) :
    ((n * 2 ^ (52 - n.log2) : ℕ) : ℚ) * 2 ^ ((n.log2 : ℤ) - 52) = n := by
  have hlog := log2_le hn
  obtain ⟨j, hj⟩ : ∃ j, j = 52 - n.log2 := ⟨_, rfl⟩
  have hexponent : (n.log2 : ℤ) - 52 = -(j : ℤ) := by omega
  rw [← hj, hexponent, zpow_neg, zpow_natCast]
  push_cast
  field_simp

/-- A whole number is rounded to its canonical form. -/
theorem round_whole (h0 : 0 < n) (hn : n < 2 ^ 53) :
    UnpackedFloat.round Format.binary64 .positive n 0 =
      .finite .positive (n * 2 ^ (52 - n.log2)) ((n.log2 : ℤ) - 52) (isCanonical_whole h0 hn).pos := by
  have hlog := log2_le hn
  have htarget : Format.binary64.targetExponent (Float.Model.totalExponent n 0) = (n.log2 : ℤ) - 52 := by
    rw [targetExponent_eq]
    omega
  have hshift : ((0 : ℤ) - ((n.log2 : ℤ) - 52)).toNat = 52 - n.log2 := by omega
  have hexponent : (0 : ℤ) - ((52 - n.log2 : ℕ) : ℤ) = (n.log2 : ℤ) - 52 := by omega
  unfold UnpackedFloat.round decreaseExponent
  simp only [htarget, hshift, hexponent, Nat.shiftLeft_eq]
  have hcanonical := isCanonical_whole h0 hn
  refine roundWithAccuracy_exact hcanonical rfl (Or.inl ?_)
  exact (Nat.le_log2 hcanonical.pos.ne').mpr (hcanonical.full.resolve_right (by omega))

/-- A double times one is that double. -/
theorem mul_one_of_view {x : Float} {hm : 0 < m} (hx : view x = .finite s m e hm) : x * 1 = x := by
  have hcanonical := isCanonical_of_view hx
  have hone : view 1 = .finite .positive (2 ^ 52) (-52) (by decide) := rfl
  have hlog : 52 ≤ (m * 2 ^ 52).log2 :=
    (Nat.le_log2 (Nat.mul_pos hm (by decide)).ne').mpr (Nat.le_mul_of_pos_left _ hm)
  have hvalue : ((m * 2 ^ 52 : ℕ) : ℚ) * 2 ^ (e + -52) = m * 2 ^ e := by
    rw [zpow_add₀ two_ne_zero]
    push_cast
    norm_num
    ring
  have hsign : s * .positive = s := by cases s <;> rfl
  change Float.ofModel (.pack (UnpackedFloat.mul Format.binary64 (view x) (view 1))) = x
  rw [hx, hone, UnpackedFloat.mul, hsign, roundWithAccuracy_exact hcanonical hvalue (Or.inl hlog), ← hx,
    pack_view]

/-- A finite double times one is that double. -/
theorem mul_one_of_isFinite {x : Float} (h : x.isFinite = true) : x * 1 = x := by
  obtain ⟨s, hx⟩ | ⟨s, m, e, hm, hx⟩ := view_of_isFinite h
  · have hzero : x = .ofModel (.pack (.zero s)) := by rw [← hx, pack_view]
    subst hzero
    cases s <;> rfl
  · exact mul_one_of_view hx

/-- A whole number above zero is that many times one. -/
theorem view_ofNat (h0 : 0 < n) (hn : n < 2 ^ 53) :
    view (Float.ofNat n) =
      .finite .positive (n * 2 ^ (52 - n.log2)) ((n.log2 : ℤ) - 52) (isCanonical_whole h0 hn).pos := by
  have hnat : n.toUInt64.toNat = n := Nat.mod_eq_of_lt (by omega)
  have hview : view n.toUInt64.toFloat =
      .finite .positive (n * 2 ^ (52 - n.log2)) ((n.log2 : ℤ) - 52) (isCanonical_whole h0 hn).pos := by
    change view (.ofModel (.pack (UnpackedFloat.normalize Format.binary64 (n.toUInt64.toNat : ℤ) 0 .positive))) = _
    rw [hnat, UnpackedFloat.normalize, Int.compare_eq_gt.mpr (by omega : (0 : ℤ) < n), Int.toNat_natCast]
    simp only
    rw [round_whole h0 hn, view_pack (isCanonical_whole h0 hn)]
  have hof : Float.ofNat n = n.toUInt64.toFloat * 1 := by
    change Float.ofScientific n false 0 = _
    unfold Float.ofScientific
    rw [dif_pos ⟨hn, by decide⟩]
    rfl
  rw [hof, mul_one_of_view hview, hview]

/-- **A whole number of 53 bits is the value of its double.** -/
theorem value_ofNat (hn : n < 2 ^ 53) :
    (Float.ofNat n).isFinite = true ∧ value (Float.ofNat n) = n := by
  by_cases h0 : n = 0
  · subst h0
    exact ⟨rfl, (value_of_zero (s := .positive) rfl).trans Nat.cast_zero.symm⟩
  · have hview := view_ofNat (Nat.pos_of_ne_zero h0) hn
    refine ⟨?_, by rw [value_of_positive hview, size_whole hn]⟩
    change (view (Float.ofNat n)).isFinite = true
    rw [hview]
    rfl

end TurnByTurn.Binary64
