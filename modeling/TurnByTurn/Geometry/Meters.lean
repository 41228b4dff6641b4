import TurnByTurn.Decimal.Layout

/-! # Meters

A length in meters, kept as a double. Equality is that of doubles (`-0` equals `0`, NaN equals
nothing); the order is the one of all doubles, in which every length has its place.

* **`Meters.isValid`** — finite and not negative, what a length should be.
* **`Meters.sum`** — from zero, left to right.
* **`Meters.sorted`** — by the order of all doubles. -/

namespace TurnByTurn

/-- A length in meters. -/
structure Meters where
  value : Float
deriving DecidableEq

namespace Meters

/-- No length at all. -/
def zero : Meters := ⟨0⟩

instance : Inhabited Meters := ⟨zero⟩

instance : Add Meters := ⟨fun a b => ⟨a.value + b.value⟩⟩

instance : Sub Meters := ⟨fun a b => ⟨a.value - b.value⟩⟩

/-- **Equality of doubles**: `-0` equals `0`, and NaN equals nothing. -/
instance : BEq Meters := ⟨fun a b => a.value == b.value⟩

/-- **The order of all doubles**, `-0` below `0` and NaN last. -/
instance : Ord Meters := ⟨fun a b => Binary64.totalOrder a.value b.value⟩

/-- The order as one that may leave lengths unordered. It leaves none. -/
def partialCompare (a b : Meters) : Option Ordering := some (compare a b)

/-- The value of a sum. -/
@[simp] theorem value_add (a b : Meters) : (a + b).value = a.value + b.value := rfl

/-- The value of a difference. -/
@[simp] theorem value_sub (a b : Meters) : (a - b).value = a.value - b.value := rfl

/-- How often one length goes into another. -/
def ratio (a b : Meters) : Float := a.value / b.value

/-- Whether a length is zero, of either sign. -/
def isZero (a : Meters) : Bool := a.value == 0

/-- **Finite and not negative.** -/
def isValid (a : Meters) : Bool := a.value.isFinite && 0 ≤ a.value

/-- **The sum of lengths**, from zero and from left to right: with doubles the order matters. -/
def sum (lengths : List Meters) : Meters := lengths.foldl (· + ·) zero

/-- No lengths sum to zero. -/
@[simp] theorem sum_nil : sum [] = zero := rfl

/-- The last length is added last. -/
theorem sum_concat (lengths : List Meters) (a : Meters) : sum (lengths ++ [a]) = sum lengths + a := by
  simp [sum]

/-- Lengths in the order of all doubles. -/
def sorted (lengths : List Meters) : List Meters :=
  lengths.mergeSort fun a b => (compare a b).isLE

/-- The length in plain decimals, without a unit. -/
def display (a : Meters) : String := Binary64.display a.value

end Meters

end TurnByTurn
