import TurnByTurn.Proofs.Binary64.Canonical
import TurnByTurn.Proofs.Binary64.Compare

/-! # Doubles as they are stored

A double is stored in 64 bits, of which the first is its sign. There are two zeros, and a great many
patterns that are no number, of which the doubles of this library are but one. Equality and the order of all
doubles make sense for every pattern.

* **`Pattern`** — 64 bits, with equality and order of the doubles that they stand for.
* **`Pattern.compare_eq_iff`** — the order tells all patterns apart.
* **`pattern`** — the bits of a double.
* **`hasSize_view`** — the kind of a double, told from its bits.
* **`beq_eq_pattern`**, **`totalOrder_eq_pattern`** — doubles are equal, and in order, when their patterns are. -/

namespace TurnByTurn.Binary64

open Float.Model (Format UnpackedFloat)
open Float.Model.UnpackedFloat

/-- **A double as it is stored.** -/
structure Pattern where
  bits : UInt64
deriving DecidableEq

namespace Pattern

variable {p q : Pattern}

/-- The bits after the sign. -/
def size (p : Pattern) : ℕ := p.bits.toNat % 2 ^ 63

/-- The size of the infinities. -/
def infinite : ℕ := 2047 * 2 ^ 52

/-- Whether a pattern is no number: its size is beyond that of the infinities. -/
def IsNaN (p : Pattern) : Prop := infinite < p.size

/-- Whether a pattern is one of the zeros. -/
def IsZero (p : Pattern) : Prop := p.size = 0

instance : DecidablePred IsNaN := fun _ => inferInstanceAs (Decidable (_ < _))

instance : DecidablePred IsZero := fun _ => inferInstanceAs (Decidable (_ = _))

/-- **Equality of doubles**: both zeros are equal, and what is no number equals nothing. -/
instance : BEq Pattern := ⟨fun p q => decide (¬p.IsNaN ∧ ¬q.IsNaN ∧ (p = q ∨ p.IsZero ∧ q.IsZero))⟩

/-- The place in the order of all doubles: with their sign set, patterns grow away from zero. -/
def key (p : Pattern) : ℤ :=
  if p.bits.toNat < 2 ^ 63 then p.bits.toNat else 2 ^ 63 - 1 - p.bits.toNat

/-- **The order of all doubles**, in which every pattern has its place. -/
instance : Ord Pattern := ⟨compareOn key⟩

instance : Std.TransOrd Pattern := inferInstanceAs (Std.TransCmp (compareOn key))

/-- Equality of doubles, spelled out. -/
theorem beq_iff : (p == q) = true ↔ ¬p.IsNaN ∧ ¬q.IsNaN ∧ (p = q ∨ p.IsZero ∧ q.IsZero) :=
  decide_eq_true_iff

/-- No two patterns have one place. -/
theorem key_injective : Function.Injective key := by
  rintro ⟨p⟩ ⟨q⟩ h
  have hp := p.toNat_lt
  have hq := q.toNat_lt
  have hnat : p.toNat = q.toNat := by
    unfold key at h
    dsimp only at h
    split_ifs at h <;> omega
  rw [UInt64.toNat_inj.mp hnat]

/-- **The order tells all patterns apart.** -/
theorem compare_eq_iff : compare p q = .eq ↔ p = q := by
  change compare p.key q.key = .eq ↔ p = q
  rw [compare_eq_iff_eq, key_injective.eq_iff]

/-- What is no number is no zero. -/
theorem IsZero.not_isNaN (h : p.IsZero) : ¬p.IsNaN := by
  rw [IsZero] at h
  rw [IsNaN, h]
  exact Nat.not_lt_zero _

end Pattern

/-! ## The patterns of doubles -/

/-- The bits of a double. -/
def pattern (x : Float) : Pattern := ⟨x.toBits⟩

/-- **Doubles are in the order of their patterns.** -/
theorem totalOrder_eq_pattern (x y : Float) : totalOrder x y = compare (pattern x) (pattern y) := rfl

/-- A double has its own pattern. -/
theorem pattern_injective : Function.Injective pattern := by
  intro x y h
  have hbits : x.toBits = y.toBits := congrArg Pattern.bits h
  rw [← x.ofBits_toBits, hbits, y.ofBits_toBits]

/-- A double is told by its parts. -/
theorem view_injective : Function.Injective view := by
  intro x y h
  rw [← pack_view x, h, pack_view]

/-! ## Kinds of doubles -/

/-- The mantissa is stored in the last 52 bits. -/
theorem toNat_unpackMantissa (b : BitVec Format.binary64.numBits) :
    (unpackMantissa b).toNat = b.toNat % 2 ^ 52 := by
  change (BitVec.extractLsb 51 0 b).toNat = _
  rw [BitVec.extractLsb_toNat]
  rfl

/-- The exponent is stored in the 11 bits before it. -/
theorem toNat_unpackExponent (b : BitVec Format.binary64.numBits) :
    (unpackExponent b).toNat = b.toNat / 2 ^ 52 % 2 ^ 11 := by
  change (BitVec.extractLsb 62 52 b).toNat = _
  rw [BitVec.extractLsb_toNat, Nat.shiftRight_eq_div_pow]

/-- **The sizes of the kinds of doubles.** -/
def HasSize : UnpackedFloat → ℕ → Prop
  | .notANumber, n => Pattern.infinite < n
  | .infinity _, n => n = Pattern.infinite
  | .zero _, n => n = 0
  | .finite .., n => 0 < n ∧ n < Pattern.infinite

/-- **The kind of a double is told from the size of its pattern.** -/
theorem hasSize_view (x : Float) : HasSize (view x) (pattern x).size := by
  let bits : BitVec Format.binary64.numBits := x.toModel.toBits.toBitVec
  have hsize : (pattern x).size = bits.toNat % 2 ^ 63 := rfl
  have hinfinite : Pattern.infinite = 2047 * 2 ^ 52 := rfl
  have hexponent := toNat_unpackExponent bits
  have hmantissa := toNat_unpackMantissa bits
  -- fields are compared as numbers
  have hmax : unpackExponent bits = -1#11 ↔ (unpackExponent bits).toNat = 2047 := BitVec.toNat_inj.symm
  have hmin : unpackExponent bits = 0#11 ↔ (unpackExponent bits).toNat = 0 := BitVec.toNat_inj.symm
  have hnone : unpackMantissa bits = 0#52 ↔ (unpackMantissa bits).toNat = 0 := BitVec.toNat_inj.symm
  change HasSize (UnpackedFloat.unpack Format.binary64 bits) _
  unfold UnpackedFloat.unpack
  simp only
  split
  · rename_i htop
    rw [hmax.mp htop] at hexponent
    split
    · rename_i hzero
      rw [hnone.mp hzero] at hmantissa
      change (pattern x).size = Pattern.infinite
      omega
    · rename_i hsome
      have hpos := mt hnone.mpr hsome
      change Pattern.infinite < (pattern x).size
      omega
  · rename_i htop
    have hlt := mt hmax.mpr htop
    split
    · rename_i hbottom
      rw [hmin.mp hbottom] at hexponent
      split
      · rename_i hzero
        rw [hnone.mp hzero] at hmantissa
        change (pattern x).size = 0
        omega
      · rename_i hsome
        have hpos := mt hnone.mpr hsome
        change 0 < (pattern x).size ∧ (pattern x).size < Pattern.infinite
        omega
    · rename_i hbottom
      have hpos := mt hmin.mpr hbottom
      change 0 < (pattern x).size ∧ (pattern x).size < Pattern.infinite
      omega

/-- **What is no number** has the pattern of one. -/
theorem isNaN_pattern_iff {x : Float} : (pattern x).IsNaN ↔ view x = .notANumber := by
  have hsize := hasSize_view x
  rw [Pattern.IsNaN]
  cases hx : view x with
  | notANumber =>
      rw [hx] at hsize
      exact iff_of_true hsize rfl
  | infinity s =>
      rw [hx] at hsize
      exact iff_of_false (hsize ▸ lt_irrefl _) nofun
  | zero s =>
      rw [hx] at hsize
      exact iff_of_false (Pattern.IsZero.not_isNaN hsize) nofun
  | finite s m e hm =>
      rw [hx] at hsize
      exact iff_of_false hsize.2.not_gt nofun

/-- **A zero** has the pattern of one. -/
theorem isZero_pattern_iff {x : Float} : (pattern x).IsZero ↔ ∃ s, view x = .zero s := by
  have hsize := hasSize_view x
  have hpos : 0 < Pattern.infinite := by decide
  rw [Pattern.IsZero]
  cases hx : view x with
  | notANumber =>
      rw [hx] at hsize
      exact iff_of_false (hpos.trans hsize).ne' nofun
  | infinity s =>
      rw [hx] at hsize
      exact iff_of_false (hsize ▸ hpos.ne') nofun
  | zero s =>
      rw [hx] at hsize
      exact iff_of_true hsize ⟨s, rfl⟩
  | finite s m e hm =>
      rw [hx] at hsize
      exact iff_of_false hsize.1.ne' nofun

/-! ## Equality -/

/-- Signs are equal when they are the same. -/
theorem compare_sign_eq_iff {s s' : Sign} : compare s s' = .eq ↔ s = s' := by
  cases s <;> cases s'
  · exact iff_of_true rfl rfl
  · exact iff_of_false nofun nofun
  · exact iff_of_false nofun nofun
  · exact iff_of_true rfl rfl

/-- **Doubles taken apart are equal** when they are the same or both zeros, and numbers. -/
theorem beq_view_iff (v w : UnpackedFloat) : v.beq w = true ↔
    v ≠ .notANumber ∧ w ≠ .notANumber ∧ (v = w ∨ (∃ s, v = .zero s) ∧ ∃ s, w = .zero s) := by
  rw [UnpackedFloat.beq, beq_iff_eq]
  cases v with
  | notANumber => simp [UnpackedFloat.compare]
  | infinity s => cases w <;> cases s <;> simp [UnpackedFloat.compare, compare_sign_eq_iff]
  | zero s =>
      cases w with
      | notANumber => simp [UnpackedFloat.compare]
      | infinity s' => cases s' <;> simp [UnpackedFloat.compare]
      | zero s' => simp [UnpackedFloat.compare]
      | finite s' n f hn => cases s' <;> simp [UnpackedFloat.compare]
  | finite s m e hm =>
      cases w with
      | notANumber => simp [UnpackedFloat.compare]
      | infinity s' => cases s' <;> simp [UnpackedFloat.compare]
      | zero s' => cases s <;> simp [UnpackedFloat.compare]
      | finite s' n f hn =>
          cases s <;> cases s' <;> simp [UnpackedFloat.compare, Ordering.then_eq_eq, and_comm]

/-- **Doubles are equal when their patterns are.** -/
theorem beq_eq_pattern (x y : Float) : (x == y) = (pattern x == pattern y) := by
  rw [Bool.eq_iff_iff, beq_eq_view, beq_view_iff, Pattern.beq_iff, isNaN_pattern_iff, isNaN_pattern_iff,
    isZero_pattern_iff, isZero_pattern_iff, pattern_injective.eq_iff, view_injective.eq_iff]

end TurnByTurn.Binary64
