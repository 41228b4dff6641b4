import TurnByTurn.Geometry.Meters
import TurnByTurn.Proofs.Binary64.Patterns

/-! # Equality and order of lengths

Lengths are equal as doubles are, but their order is that of all doubles. So the two part where doubles do: what
is no number does not even equal itself, though the order has one place for it, and both zeros are equal, though
one comes before the other. Everywhere else, and for the order alone, all laws hold.

* **`Coheres`** — how far an equality and an order go together.
* **`Binary64.coheres_pattern`** — those of all patterns of doubles do so.
* **`Meters.coheres`** — those of lengths are the ones of their patterns.
* **`Meters.not_beq_self_nan`** — a length that does not equal itself, and equal ones of which one comes first. -/

namespace TurnByTurn

open Binary64 (Pattern pattern)

/-- **How far an equality and an order go together** at three values, when some values are no number and some are
zeros. -/
structure Coheres {α : Type} [BEq α] [Ord α] (isNaN isZero : α → Prop) (a b c : α) : Prop where
  /-- Exactly what is no number does not equal itself. -/
  beq_self_iff : (a == a) = true ↔ ¬isNaN a
  /-- Equality and order say the same of two values, unless these are one that is no number, or different zeros. -/
  agrees_iff : ((a == b) = true ↔ compare a b = .eq) ↔
    ¬(isNaN a ∧ a = b) ∧ ¬(isZero a ∧ isZero b ∧ a ≠ b)
  /-- The order tells all values apart. -/
  compare_eq_iff : compare a b = .eq ↔ a = b
  /-- The order is antisymmetric. -/
  swap : compare b a = (compare a b).swap
  /-- The order is transitive. -/
  lt_trans : compare a b = .lt → compare b c = .lt → compare a c = .lt

/-- What is seen through an injective function goes together as far as what is seen of it. -/
theorem Coheres.comap {α β : Type} [BEq α] [Ord α] [BEq β] [Ord β] {isNaN isZero : β → Prop} {f : α → β}
    {a b c : α} (h : Coheres isNaN isZero (f a) (f b) (f c)) (hf : Function.Injective f)
    (hbeq : ∀ a b, (a == b) = (f a == f b)) (hcompare : ∀ a b, compare a b = compare (f a) (f b)) :
    Coheres (isNaN ∘ f) (isZero ∘ f) a b c where
  beq_self_iff := by
    rw [hbeq]
    exact h.beq_self_iff
  agrees_iff := by
    rw [hbeq, hcompare, h.agrees_iff, ne_eq, ne_eq, hf.eq_iff]
    rfl
  compare_eq_iff := by rw [hcompare, h.compare_eq_iff, hf.eq_iff]
  swap := by
    rw [hcompare, hcompare]
    exact h.swap
  lt_trans := by
    rw [hcompare, hcompare, hcompare]
    exact h.lt_trans

/-- **Equality and order of all doubles**, whatever their pattern. -/
theorem Binary64.coheres_pattern (p q r : Pattern) : Coheres Pattern.IsNaN Pattern.IsZero p q r where
  beq_self_iff := by simp [Pattern.beq_iff]
  agrees_iff := by
    rw [Pattern.beq_iff, Pattern.compare_eq_iff]
    by_cases hpq : p = q
    · subst hpq
      by_cases hnan : p.IsNaN <;> simp [hnan]
    · -- different patterns are equal only as zeros, and these are numbers
      by_cases hzero : p.IsZero ∧ q.IsZero
      · simp [hpq, hzero, hzero.1.not_isNaN, hzero.2.not_isNaN]
      · simp [hpq, hzero]
  compare_eq_iff := Pattern.compare_eq_iff
  swap := Std.OrientedCmp.eq_swap
  lt_trans := Std.TransCmp.lt_trans

namespace Meters

/-- The bits of a length. -/
def bits (a : Meters) : Pattern := pattern a.value

/-- A length has its own bits. -/
theorem bits_injective : Function.Injective bits := by
  rintro ⟨x⟩ ⟨y⟩ h
  exact congrArg mk (Binary64.pattern_injective h)

/-- A length is no number when its value is none. -/
theorem isNaN_bits_iff {a : Meters} : a.bits.IsNaN ↔ a.value.isNaN = true := by
  change (pattern a.value).IsNaN ↔ (Binary64.view a.value).isNaN = true
  rw [Binary64.isNaN_pattern_iff]
  cases Binary64.view a.value <;> simp [Float.Model.UnpackedFloat.isNaN]

/-- The zeros are the lengths that are no length at all. -/
theorem isZero_bits_iff {a : Meters} : a.bits.IsZero ↔ a.isZero = true := by
  have hzero : (pattern 0).IsZero := by decide
  rw [isZero, Binary64.beq_eq_pattern, Pattern.beq_iff]
  constructor
  · intro h
    exact ⟨h.not_isNaN, hzero.not_isNaN, .inr ⟨h, hzero⟩⟩
  · rintro ⟨-, -, heq | ⟨h, -⟩⟩
    · exact (congrArg Pattern.IsZero heq).mpr hzero
    · exact h

/-- **Equality and order of lengths** go together as those of doubles do, as far as their patterns tell. -/
theorem coheres (a b c : Meters) (p q r : Pattern) :
    Coheres (·.value.isNaN = true) (·.isZero = true) a b c ∧ Coheres Pattern.IsNaN Pattern.IsZero p q r ∧
      (a == b) = (a.bits == b.bits) ∧ compare a b = compare a.bits b.bits ∧
        a.partialCompare b = some (compare a b) := by
  have hbeq (a b : Meters) : (a == b) = (a.bits == b.bits) := Binary64.beq_eq_pattern a.value b.value
  have hcompare (a b : Meters) : compare a b = compare a.bits b.bits :=
    Binary64.totalOrder_eq_pattern a.value b.value
  have hnan : Pattern.IsNaN ∘ bits = (·.value.isNaN = true) := funext fun _ => propext isNaN_bits_iff
  have hzero : Pattern.IsZero ∘ bits = (·.isZero = true) := funext fun _ => propext isZero_bits_iff
  refine ⟨?_, Binary64.coheres_pattern p q r, hbeq a b, hcompare a b, rfl⟩
  rw [← hnan, ← hzero]
  exact (Binary64.coheres_pattern a.bits b.bits c.bits).comap bits_injective hbeq hcompare

/-- **Equality and order part**: what is no number does not equal itself, though the order finds no difference,
and zeros are equal, though the order puts one first. -/
theorem not_beq_self_nan :
    ((⟨Binary64.nan⟩ : Meters) == ⟨Binary64.nan⟩) = false ∧
      compare (⟨Binary64.nan⟩ : Meters) ⟨Binary64.nan⟩ = .eq ∧
      ((⟨-0.0⟩ : Meters) == ⟨0⟩) = true ∧ compare (⟨-0.0⟩ : Meters) ⟨0⟩ = .lt := by
  decide

end Meters

end TurnByTurn
