import TurnByTurn.Proofs.Decimal.Scaling
import TurnByTurn.Proofs.Json.Literals

/-! # Reading doubles

The double that a number is read as is near the number. It is the nearest one for integers of 64 bits, and for
numbers of few digits not far from the point, as those of coordinates mostly are.

* **`Literal.nearest?`** — the double nearest to a literal.
* **`Literal.double?_of_integer`** — integers are read as the doubles nearest to them.
* **`Literal.double?_eq_nearest?`** — so are numbers of few digits. -/

namespace TurnByTurn.Json.Literal

open Binary64

variable {ds : List Char} {n : ℕ} {l : Literal} {x : Float}

/-! ## Digits -/

/-- More digits make no number smaller. -/
theorem le_ofDigitChars (ds : List Char) (n : ℕ) : n ≤ Nat.ofDigitChars 10 ds n := by
  induction ds generalizing n with
  | nil => exact le_rfl
  | cons c ds ih =>
      rw [Nat.ofDigitChars_cons]
      exact le_trans (by omega) (ih _)

/-- **Digits of a number of 64 bits are all collected.** -/
theorem collect_of_lt (h : Nat.ofDigitChars 10 ds n < 2 ^ 64) :
    collect n ds = (Nat.ofDigitChars 10 ds n, []) := by
  induction ds generalizing n with
  | nil => rfl
  | cons c ds ih =>
      rw [Nat.ofDigitChars_cons] at h ⊢
      have hmore : 10 * n + (c.toNat - '0'.toNat) < 0x10000000000000000 := (le_ofDigitChars ds _).trans_lt h
      rw [collect, if_pos hmore]
      exact ih h

/-- **All digits of a literal count** if they make a number of 64 bits. -/
theorem parts_of_lt (h : naturalOf (l.whole ++ l.fraction) < 2 ^ 64) :
    l.parts = (naturalOf (l.whole ++ l.fraction), l.scale) := by
  have happend : naturalOf (l.whole ++ l.fraction) = Nat.ofDigitChars 10 l.fraction (naturalOf l.whole) :=
    Nat.ofDigitChars_append ..
  rw [happend] at h ⊢
  have hwhole : naturalOf l.whole < 2 ^ 64 := (le_ofDigitChars _ _).trans_lt h
  rw [parts, collect_of_lt hwhole]
  dsimp only
  rw [← naturalOf, collect_of_lt h]
  simp

/-! ## Integers -/

/-- The power zero leaves a double as it is. -/
theorem scaled?_zero (h : x.isFinite = true) : scaled? x (.ofNat 0) = some x := by
  have hone : x * power 0 = x := mul_one_of_isFinite h
  rw [scaled?, if_pos (Nat.zero_le _)]
  dsimp only
  rw [hone, isInf_of_isFinite h, if_neg Bool.false_ne_true]

/-- A number of 64 bits times a small power of ten is far below the largest double. -/
theorem isFinite_toDouble {c : ℕ} {g : ℤ} (negative : Bool) (hc : c < 2 ^ 64) (hlow : -22 ≤ g)
    (hhigh : g ≤ 22) : (Decimal.toDouble negative ⟨c, g⟩).isFinite = true := by
  refine Decimal.isFinite_toDouble_of_lt ?_ (by dsimp only; omega) (by dsimp only; omega)
  have hc' : (c : ℚ) ≤ 2 ^ 64 := by exact_mod_cast hc.le
  calc (c : ℚ) * 10 ^ g ≤ 2 ^ 64 * 10 ^ (22 : ℤ) :=
        mul_le_mul hc' (zpow_le_zpow_right₀ (by norm_num) hhigh) (by positivity) (by positivity)
    _ < 2 ^ 200 := by norm_num
    _ < 2 ^ 1000 := pow_lt_pow_right₀ one_lt_two (by decide)

/-- **Every integer of 64 bits is read as the double nearest to it.** -/
theorem double?_of_integer {n : ℤ} (h : l.number? = some (.integer n)) :
    l.double? = some (Decimal.toDouble (n < 0) ⟨n.natAbs, 0⟩) := by
  obtain ⟨⟨hfraction, hexponent, hn⟩, hlow, hhigh⟩ := number?_eq_integer_iff.mp h
  have hscale : l.scale = 0 := by simp [scale, hfraction, hexponent]
  have hsign : naturalOf l.whole = n.natAbs ∧ l.negative = decide (n < 0) := by
    split at hn
    · rename_i hnegative
      obtain ⟨hpos, rfl⟩ := hn
      exact ⟨by omega, by rw [hnegative, decide_eq_true (by omega)]⟩
    · rename_i hnegative
      subst hn
      exact ⟨by omega, by rw [Bool.not_eq_true _ |>.mp hnegative, decide_eq_false (by omega)]⟩
  have hdigits : naturalOf (l.whole ++ l.fraction) = n.natAbs := by
    rw [hfraction, List.append_nil, hsign.1]
  have hfits : n.natAbs < 2 ^ 64 := by omega
  rw [double?, parts_of_lt (hdigits ▸ hfits), hdigits, hscale, hsign.2]
  change (scaled? _ (.ofNat 0)).map _ = _
  rw [scaled?_zero (isFinite_toDouble false hfits (by decide) (by decide))]
  rfl

/-! ## Few digits -/

/-- **The double nearest to the literal**, unless the literal is beyond all doubles. -/
def nearest? (l : Literal) : Option Float :=
  let x := Decimal.toDouble l.negative ⟨naturalOf (l.whole ++ l.fraction), l.scale⟩
  if x.isInf then none else some x

/-- A number of few digits times a small power of ten is rounded once. -/
theorem scaled?_toDouble {c : ℕ} {g : ℤ} (hc : c < 2 ^ 53) (hlow : -22 ≤ g) (hhigh : g ≤ 22) :
    scaled? (Decimal.toDouble false ⟨c, 0⟩) g = some (Decimal.toDouble false ⟨c, g⟩) := by
  have hfinite := isFinite_toDouble false (by omega : c < 2 ^ 64) hlow hhigh
  cases g with
  | ofNat k =>
      have hk : k ≤ 22 := Int.ofNat_le.mp hhigh
      have hproduct : Decimal.toDouble false ⟨c, 0⟩ * power k = Decimal.toDouble false ⟨c, .ofNat k⟩ :=
        Decimal.toDouble_mul_power hc hk
      rw [scaled?, if_pos (hk.trans (by decide))]
      dsimp only
      rw [hproduct, isInf_of_isFinite hfinite, if_neg Bool.false_ne_true]
  | negSucc k =>
      have hk : k / greatest = 0 ∧ k % greatest = k := by
        rw [greatest]
        omega
      rw [scaled?, hk.1, hk.2, shrink]
      exact congrArg some (Decimal.toDouble_div_power hc (by omega : k + 1 ≤ 22))

/-- **A number of few digits near the point is read as the double nearest to it.** -/
theorem double?_eq_nearest? (hdigits : naturalOf (l.whole ++ l.fraction) < 2 ^ 53) (hlow : -22 ≤ l.scale)
    (hhigh : l.scale ≤ 22) : l.double? = l.nearest? := by
  have hfits : naturalOf (l.whole ++ l.fraction) < 2 ^ 64 := by omega
  rw [double?, parts_of_lt hfits, nearest?]
  dsimp only
  rw [scaled?_toDouble hdigits hlow hhigh, isInf_of_isFinite (isFinite_toDouble _ hfits hlow hhigh),
    if_neg Bool.false_ne_true]
  rfl

end TurnByTurn.Json.Literal
