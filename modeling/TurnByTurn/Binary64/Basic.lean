/-! # Doubles seen exactly

A finite double is `± m · 2 ^ e` for a natural `m` and an integer `e`; everything in this library
that rounds, compares or writes a double does so on that pair, never through another rounding.

* **`view x`** — the double taken apart: not a number, an infinity, a zero or `± m · 2 ^ e`.
* **`ofScaled s m e`** — the double nearest to `± m · 2 ^ e`, ties to the even mantissa.
* **`totalKey x`** — an integer that orders all doubles, `-0` below `0` and NaN last.
* **`remainder x y`** — what is left of `x` after whole multiples of `y`, exact.
* **`hypotenuse x y`** — the double nearest to `√(x² + y²)`. -/

namespace TurnByTurn.Binary64

open Float.Model (UnpackedFloat)
open Float.Model.UnpackedFloat (Sign)

/-- **A double taken apart**: not a number, a signed infinity, a signed zero, or a sign with a
positive mantissa and a power of two. -/
abbrev view (x : Float) : UnpackedFloat := x.toModel.unpack

/-- The double that is no number. -/
def nan : Float := Float.ofBits 0x7ff8000000000000

/-- **The double nearest to `± m · 2 ^ e`**, ties to the even mantissa, beyond the largest double an
infinity. -/
def ofScaled (s : Sign) (m : Nat) (e : Int) : Float :=
  .ofModel <| .pack <|
    if m = 0 then .zero s else UnpackedFloat.round Float.Model.Format.binary64 s m e

/-! ## Order of all doubles -/

/-- **The place of a double in the order of all doubles**: the bit pattern read as an integer, with
the negative half turned around, so `-0` comes right before `0` and NaN after `+∞`. -/
def totalKey (x : Float) : Int :=
  let bits := x.toBits.toNat
  -- the sign bit is the highest one, and negative patterns grow away from zero
  if bits < 0x8000000000000000 then bits else 0x7fffffffffffffff - (bits : Int)

/-- The order by `totalKey`. -/
def totalOrder (x y : Float) : Ordering := compare (totalKey x) (totalKey y)

/-! ## Common scale -/

/-- `m · 2 ^ e` as a whole number of units `2 ^ g`, for `g ≤ e`. -/
def scaledTo (g : Int) (m : Nat) (e : Int) : Nat := m * Nat.pow 2 (e - g).toNat

/-- A number is its own multiple of its own unit. -/
@[simp] theorem scaledTo_self (m : Nat) (e : Int) : scaledTo e m e = m := by simp [scaledTo]

/-! ## Remainder -/

/-- **What is left of `x` after taking away whole multiples of `y`.** It has the sign of `x`, is
smaller than `y` in size, and is exact: no rounding takes place. -/
def remainder (x y : Float) : Float :=
  match view x, view y with
  | .notANumber, _ => nan
  | .infinity _, _ => nan
  | _, .notANumber => nan
  | _, .zero _ => nan
  | .zero _, _ => x
  | .finite .., .infinity _ => x
  | .finite s m e _, .finite _ n f _ =>
      -- in the smaller of the two units both are whole numbers
      let g := min e f
      let dividend := scaledTo g m e
      let divisor := scaledTo g n f
      if dividend < divisor then x else ofScaled s (dividend % divisor) g

/-- **The remainder moved up to the positive side**: a negative remainder gains one `y`. For a tiny
negative `x` the sum rounds to `y` itself. -/
def positiveRemainder (x y : Float) : Float :=
  let r := remainder x y
  if r < 0 then r + y else r

/-! ## Hypotenuse -/

/-- **The double nearest to `√(x² + y²)`**, from the exact sum of the squares. An infinite side
outweighs one that is no number. -/
def hypotenuse (x y : Float) : Float :=
  match view x, view y with
  | .infinity _, _ => 1 / 0
  | _, .infinity _ => 1 / 0
  | .notANumber, _ => nan
  | _, .notANumber => nan
  | .zero _, _ => y.abs
  | _, .zero _ => x.abs
  | .finite _ m e _, .finite _ n f _ =>
      -- the sum of the squares is exact, and only its root is rounded
      let g := min e f
      let a := scaledTo g m e
      let b := scaledTo g n f
      if h : 0 < a * a + b * b then
        .ofModel <| .pack <|
          UnpackedFloat.sqrt Float.Model.Format.binary64 (.finite .positive (a * a + b * b) (2 * g) h)
      else 0

end TurnByTurn.Binary64
