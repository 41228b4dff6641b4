/-! # Dates

Dates of the Gregorian calendar, which is extended to all years, and their place in the count of days
since 1970-01-01. The count is easiest in years that begin in March, so that the leap day comes last:
400 of them have 146097 days, whatever came before.

* **`Date.isValid`** — whether the date exists.
* **`Date.toDays`** — the days since 1970-01-01.
* **`Date.ofDays`** — the date of a day. -/

namespace TurnByTurn

/-- **A year, a month and a day**, the latter two counted from one. -/
structure Date where
  year : Int
  month : Nat
  day : Nat
deriving DecidableEq, Repr

namespace Date

/-- Whether a year has a leap day. -/
def isLeap (year : Int) : Bool := year % 4 = 0 && (year % 100 ≠ 0 || year % 400 = 0)

/-- The number of days of a month. -/
def daysInMonth (year : Int) (month : Nat) : Nat :=
  if month = 2 then if isLeap year then 29 else 28
  else if month = 4 ∨ month = 6 ∨ month = 9 ∨ month = 11 then 30
  else 31

/-- **Whether the date exists.** -/
def isValid (d : Date) : Bool :=
  1 ≤ d.month && d.month ≤ 12 && 1 ≤ d.day && d.day ≤ daysInMonth d.year d.month

/-! ## Years from March -/

/-- The days before a month, in a year whose first month is March, counted from zero. -/
def daysBeforeMonth (month : Nat) : Nat := (153 * month + 2) / 5

/-- The days before a year of a cycle of 400, years from March. -/
def daysBeforeYear (year : Nat) : Nat := 365 * year + year / 4 - year / 100

/-- The day on which the year 0 begins in March, counted from 1970-01-01. -/
def epoch : Int := -719468

/-- **The days since 1970-01-01.** -/
def toDays (d : Date) : Int :=
  -- January and February belong to the year before
  let year := if d.month ≤ 2 then d.year - 1 else d.year
  let month := (d.month + 9) % 12
  year / 400 * 146097 + daysBeforeYear (year % 400).toNat + daysBeforeMonth month + d.day - 1 + epoch

/-- **The date of a day**, counted from 1970-01-01. -/
def ofDays (days : Int) : Date :=
  let day := (days - epoch) % 146097
  let ofCycle := day.toNat
  -- without its leap days the cycle has years of 365 days
  let year := (ofCycle - ofCycle / 1460 + ofCycle / 36524 - ofCycle / 146096) / 365
  let ofYear := ofCycle - daysBeforeYear year
  let month := (5 * ofYear + 2) / 153
  { year := (days - epoch) / 146097 * 400 + year + if 10 ≤ month then 1 else 0
    month := if month < 10 then month + 3 else month - 9
    day := ofYear - daysBeforeMonth month + 1 }

/-- The day zero. -/
example : toDays ⟨1970, 1, 1⟩ = 0 := by decide

end Date

end TurnByTurn
