import Mathlib
import TurnByTurn.Binary64.Basic

/-! # The form of doubles

A finite double is `± m · 2 ^ e` in one way only: the mantissa has 53 bits, or fewer at the smallest
exponent. Taking a double apart gives this form, and putting it together again gives the double.

* **`IsCanonical m e`** — the mantissas and exponents of doubles.
* **`isCanonical_of_view`** — a double taken apart has this form.
* **`view_pack`** — what has this form is found again in the double put together from it.
* **`pack_view`** — a double is put together again from its parts. -/

namespace TurnByTurn.Binary64

open Float.Model (Format UnpackedFloat)
open Float.Model.UnpackedFloat

variable {m : Nat} {e : Int} {s : Sign}

/-- **The mantissas and exponents of doubles**: 53 bits, or fewer at the smallest exponent. -/
structure IsCanonical (m : Nat) (e : Int) : Prop where
  pos : 0 < m
  lt : m < 2 ^ 53
  le_exponent : -1074 ≤ e
  exponent_le : e ≤ 971
  full : 2 ^ 52 ≤ m ∨ e = -1074

/-! ## Taking apart -/

/-- A mantissa with its leading bit. -/
theorem toNat_leading (v : BitVec 52) : (1#1 ++ v).toNat = 2 ^ 52 + v.toNat := by
  rw [BitVec.toNat_append, ← Nat.shiftLeft_add_eq_or_of_lt v.isLt]
  rfl

/-- **A double taken apart has the canonical form.** -/
theorem isCanonical_of_view {x : Float} {hm : 0 < m} (h : view x = .finite s m e hm) :
    IsCanonical m e := by
  let bits : BitVec Format.binary64.numBits := x.toModel.toBits.toBitVec
  have hexponent : (unpackExponent bits).toNat < 2048 := (unpackExponent bits).isLt
  have hmantissa : (unpackMantissa bits).toNat < 2 ^ 52 := (unpackMantissa bits).isLt
  change UnpackedFloat.unpack Format.binary64 bits = .finite s m e hm at h
  unfold UnpackedFloat.unpack at h
  simp only at h
  split at h
  · split at h <;> cases h
  · rename_i hmax
    split at h
    · rename_i hzero
      split at h
      · cases h
      · -- below the full mantissas
        injection h with _ hm' he
        rw [hzero] at he
        subst hm' he
        exact ⟨hm, by omega, by decide, by decide, .inr rfl⟩
    · rename_i hzero
      have hpos : (unpackExponent bits).toNat ≠ 0 := fun h => hzero (BitVec.eq_of_toNat_eq h)
      have hne : (unpackExponent bits).toNat ≠ 2047 := fun h => hmax (BitVec.eq_of_toNat_eq h)
      injection h with _ hm' he
      rw [toNat_leading] at hm'
      change ((unpackExponent bits).toNat : Int) - 1075 = e at he
      exact ⟨hm, by omega, by omega, by omega, .inl (by omega)⟩

/-! ## Putting together -/

/-- The stored exponent of a canonical form: zero where the leading bit is. -/
def storedExponent (m : Nat) (e : Int) : Nat := if 2 ^ 52 ≤ m then (e + 1075).toNat else 0

/-- A canonical form is stored as its sign, its exponent and its mantissa without leading bit. -/
theorem pack_finite (h : IsCanonical m e) :
    UnpackedFloat.pack Format.binary64 (.finite s m e h.pos) =
      packComponents Format.binary64 s (BitVec.ofNat 11 (storedExponent m e)) (BitVec.ofNat 52 m) := by
  have hlog : m.log2 + 1 = Format.binary64.mantissaBits ↔ 2 ^ 52 ≤ m := by
    change m.log2 + 1 = 53 ↔ _
    have hiff := Nat.log2_eq_iff (k := 52) (Nat.ne_of_gt h.pos)
    have hlt := h.lt
    omega
  have hle := h.le_exponent
  have hge := h.exponent_le
  rw [UnpackedFloat.pack]
  simp only
  rw [if_neg]
  · unfold storedExponent
    by_cases hfull : 2 ^ 52 ≤ m
    · rw [if_pos (hlog.mpr hfull), if_pos hfull]
      congr 3
      change e + 1023 + 52 = e + 1075
      omega
    · rw [if_neg (mt hlog.mp hfull), if_neg hfull]
  · change ¬2048 ≤ (e + 1023 + 52).toNat + 1
    omega

/-- Fields are equal only if their numbers are. -/
theorem ofNat_ne_ofNat {w a b : Nat} (ha : a < 2 ^ w) (hb : b < 2 ^ w) (h : a ≠ b) :
    BitVec.ofNat w a ≠ BitVec.ofNat w b := by
  intro heq
  have hnat := congrArg BitVec.toNat heq
  rw [BitVec.toNat_ofNat, BitVec.toNat_ofNat, Nat.mod_eq_of_lt ha, Nat.mod_eq_of_lt hb] at hnat
  exact h hnat

/-- **The canonical form is found again** in the double that is put together from it. -/
theorem view_pack (h : IsCanonical m e) :
    view (.ofModel (.pack (.finite s m e h.pos))) = .finite s m e h.pos := by
  have hlt := h.lt
  have hpos := h.pos
  have hle := h.le_exponent
  have hge := h.exponent_le
  have hfield : storedExponent m e < 2047 := by
    unfold storedExponent
    split <;> omega
  have hexponent : (BitVec.ofNat 11 (storedExponent m e)).toNat = storedExponent m e :=
    Nat.mod_eq_of_lt (by omega)
  have hmax : BitVec.ofNat 11 (storedExponent m e) ≠ -1#11 :=
    ofNat_ne_ofNat (by omega) (by decide) hfield.ne
  change UnpackedFloat.unpack Format.binary64 (UnpackedFloat.pack Format.binary64 (.finite s m e hpos)) = _
  rw [pack_finite h, UnpackedFloat.unpack]
  simp only [unpackMantissa_packComponents, unpackExponent_packComponents, unpackSign_packComponents,
    Sign.ofBitVec_toBitVec]
  rw [if_neg hmax]
  by_cases hfull : 2 ^ 52 ≤ m
  · have hstored : storedExponent m e = (e + 1075).toNat := if_pos hfull
    have hzero : BitVec.ofNat 11 (storedExponent m e) ≠ 0#11 :=
      ofNat_ne_ofNat (by omega) (by decide) (by omega)
    have hmantissa : (1#1 ++ BitVec.ofNat 52 m).toNat = m := by
      rw [toNat_leading, BitVec.toNat_ofNat]
      omega
    rw [if_neg hzero]
    congr 1
    change ((BitVec.ofNat 11 (storedExponent m e)).toNat : Int) - 1075 = e
    omega
  · have he : e = -1074 := h.full.resolve_left hfull
    have hstored : storedExponent m e = 0 := if_neg hfull
    have hmantissa : (BitVec.ofNat 52 m).toNat = m := Nat.mod_eq_of_lt (by omega)
    have hnonzero : BitVec.ofNat 52 m ≠ 0#52 := ofNat_ne_ofNat (by omega) (by decide) hpos.ne'
    rw [if_pos (by rw [hstored]), dif_neg hnonzero]
    congr 1
    change ((BitVec.ofNat 11 (storedExponent m e)).toNat : Int) - 1075 + 1 = e
    omega

/-- **A double is put together again from its parts.** -/
theorem pack_view (x : Float) : Float.ofModel (.pack (view x)) = x := x.ofBits_toBits

end TurnByTurn.Binary64
