import TurnByTurn.Binary64.Rounding

/-! # The fewest decimal digits of a double

Many decimals round to the same double. This module finds the one with the fewest digits, and among
those the one nearest to the double, by exact comparisons of natural numbers.

* **`Decimal`** — `coefficient · 10 ^ exponent`.
* **`Neighbourhood m e`** — the decimals that round to `m · 2 ^ e`.
* **`magnitude m e`** — the number of digits before the decimal point.
* **`shortest tie m e`** — the result of the search. -/

namespace TurnByTurn

/-- A non-negative decimal number, `coefficient · 10 ^ exponent`. -/
structure Decimal where
  coefficient : Nat
  exponent : Int
deriving DecidableEq, Repr

/-- Where a decimal goes that lies exactly halfway between two candidates. -/
inductive Tie where
  | up
  | even
deriving DecidableEq, Repr

namespace Decimal

/-! ## Comparing a decimal with a double -/

/-- **The order of `d` and `n · 2 ^ q`**, after both are multiplied by the powers that make them
whole. -/
def compareBinary (d : Decimal) (n : Nat) (q : Int) : Ordering :=
  compare (d.coefficient * Nat.pow 10 d.exponent.toNat * Nat.pow 2 (-q).toNat)
    (n * Nat.pow 2 q.toNat * Nat.pow 10 (-d.exponent).toNat)

/-- **The decimals that round to one double.** They lie between the midpoints to its two neighbours,
counted here in quarters of its unit, and the midpoints belong to it when its mantissa is even. -/
structure Neighbourhood where
  low : Nat
  high : Nat
  unit : Int
  closed : Bool

/-- The neighbourhood of `m · 2 ^ e`. Below a power of two the next double is only half as far. -/
def Neighbourhood.of (m : Nat) (e : Int) : Neighbourhood where
  -- below a power of two the gap is half as wide, except for the smallest numbers
  low := 4 * m - if m = 0x10000000000000 ∧ -1074 < e then 1 else 2
  high := 4 * m + 2
  unit := e - 2
  closed := m % 2 = 0

/-- Whether `d` rounds to the double whose neighbourhood this is. -/
def Neighbourhood.contains (n : Neighbourhood) (d : Decimal) : Bool :=
  let below := d.compareBinary n.low n.unit
  let above := d.compareBinary n.high n.unit
  (below == .gt || (n.closed && below == .eq)) && (above == .lt || (n.closed && above == .eq))

/-! ## The search -/

/-- **The number of digits of `m · 2 ^ e` before the decimal point**, negative when zeros follow the
point: the least `k` with `m · 2 ^ e < 10 ^ k`. The binary logarithm gives it up to two steps. -/
def magnitude (m : Nat) (e : Int) : Int :=
  -- 0.30103 is the decimal logarithm of two, a little too large
  let guess := (m.log2 + e) * 30103 / 100000
  if compareBinary ⟨1, guess⟩ m e = .gt then guess
  else if compareBinary ⟨1, guess + 1⟩ m e = .gt then guess + 1
  else guess + 2

/-- How often `10 ^ g` goes into `m · 2 ^ e`. -/
def floorOn (g : Int) (m : Nat) (e : Int) : Nat :=
  (m * Nat.pow 2 e.toNat * Nat.pow 10 (-g).toNat)
    / (Nat.pow 2 (-e).toNat * Nat.pow 10 g.toNat)

/-- The multiple of `10 ^ g` nearest to `m · 2 ^ e` among the two around it that round to it. -/
def nearestOn (tie : Tie) (m : Nat) (e g : Int) : Option Decimal :=
  let low := floorOn g m e
  let around := Neighbourhood.of m e
  match around.contains ⟨low, g⟩, around.contains ⟨low + 1, g⟩ with
  | false, false => none
  | true, false => some ⟨low, g⟩
  | false, true => some ⟨low + 1, g⟩
  | true, true =>
      -- both read back, so the midpoint between them decides
      match compareBinary ⟨2 * low + 1, g⟩ (2 * m) e, tie with
      | .gt, _ => some ⟨low, g⟩
      | .lt, _ => some ⟨low + 1, g⟩
      | .eq, .up => some ⟨low + 1, g⟩
      | .eq, .even => some ⟨low + low % 2, g⟩

/-- The decimal without the zeros at the end of its coefficient. -/
def trimmed (d : Decimal) : Decimal :=
  if h : d.coefficient ≠ 0 ∧ d.coefficient % 10 = 0 then
    trimmed ⟨d.coefficient / 10, d.exponent + 1⟩
  else d
termination_by d.coefficient
decreasing_by exact Nat.div_lt_self (by omega) (by decide)

/-- The decimal equal to `m · 2 ^ e`. -/
def exactly (m : Nat) (e : Int) : Decimal :=
  ⟨m * Nat.pow 2 e.toNat * Nat.pow 5 (-e).toNat, -((-e).toNat : Int)⟩

/-- **The shortest decimal that rounds to `m · 2 ^ e`**, the nearest of the shortest ones. Seventeen
digits always suffice; one digit, two digits and so on are tried in turn. -/
def shortest (tie : Tie) (m : Nat) (e : Int) : Decimal :=
  let k := magnitude m e
  trimmed <|
    ((List.range 17).findSome? fun digits => nearestOn tie m e (k - (digits + 1 : Nat))).getD
      (exactly m e)

/-! ## Rounding to a number of digits -/

/-- **The multiple of `10 ^ g` nearest to `m · 2 ^ e`**, a half going to the even neighbour. -/
def roundedOn (g : Int) (m : Nat) (e : Int) : Decimal :=
  ⟨Binary64.divideEven (m * Nat.pow 2 e.toNat * Nat.pow 10 (-g).toNat)
    (Nat.pow 2 (-e).toNat * Nat.pow 10 g.toNat), g⟩

/-- `m · 2 ^ e` rounded to a number of significant digits, a half going to the even neighbour. -/
def significant (digits : Nat) (m : Nat) (e : Int) : Decimal :=
  roundedOn (magnitude m e - digits) m e

/-! ## Back to a double -/

/-- **The double nearest to a decimal**, ties to the even mantissa. -/
def toDouble (negative : Bool) (d : Decimal) : Float :=
  let size := Float.ofModel (.ofScientific d.coefficient d.exponent)
  if negative then -size else size

end Decimal

/-- **A double rounded to a number of significant digits**, and so again a double. What is not finite
stays as it is. -/
def Binary64.significant (digits : Nat) (x : Float) : Float :=
  match view x with
  | .finite .negative m e _ => (Decimal.significant digits m e).toDouble true
  | .finite .positive m e _ => (Decimal.significant digits m e).toDouble false
  | _ => x

end TurnByTurn
