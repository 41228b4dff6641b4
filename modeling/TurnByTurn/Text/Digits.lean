/-! # Decimal digits

* **`digits`** — the digits of a natural number.
* **`padded`** — the same with zeros in front, up to a width.
* **`fraction`** — the decimal point and what comes after it.
* **`naturalOf`** — the natural number that digits write.
* **`takeDigits?`** — a number of a certain count of digits at the beginning of a text. -/

namespace TurnByTurn

/-- The digits of a natural number, without zeros in front. -/
abbrev digits (n : Nat) : List Char := Nat.toDigits 10 n

/-- **The digits of a natural number, at least `width` of them.** -/
def padded (width n : Nat) : List Char :=
  List.replicate (width - (digits n).length) '0' ++ digits n

/-- **A decimal point and the places after it**, the last one not zero. A fraction that is zero has no
point either. -/
def fraction (places n : Nat) : List Char :=
  match ((padded places n).reverse.dropWhile (· = '0')).reverse with
  | [] => []
  | ds => '.' :: ds

/-- **The natural number that digits write.** -/
def naturalOf (ds : List Char) : Nat := Nat.ofDigitChars 10 ds 0

/-- No digits write zero. -/
@[simp] theorem naturalOf_nil : naturalOf [] = 0 := rfl

/-- The last digit counts once, all before it ten times. -/
@[simp] theorem naturalOf_concat (ds : List Char) (c : Char) :
    naturalOf (ds ++ [c]) = 10 * naturalOf ds + (c.toNat - '0'.toNat) := by
  simp [naturalOf, Nat.ofDigitChars]

/-- **Digits read back as the number that they were written for.** -/
@[simp] theorem naturalOf_digits (n : Nat) : naturalOf (digits n) = n :=
  Nat.ofDigitChars_toDigits (by decide) (by decide)

/-- **A number of exactly `count` digits** at the beginning of a text. -/
def takeDigits? (count : Nat) (s : List Char) : Option (Nat × List Char) :=
  let ds := s.take count
  if ds.length = count ∧ ds.all Char.isDigit then some (naturalOf ds, s.drop count) else none

end TurnByTurn
