import TurnByTurn.Calendar.Date
import TurnByTurn.Text.Digits

/-! # Moments

A moment is an instant of time, exact to the nanosecond. Moments lie so far inside the years -9999 to
9999 that no offset from universal time leads out of them. Their whole seconds, cut off toward the
beginning of 1970, are in a range, so that a moment may be a fraction before the first whole second.

* **`Moment.ofNanoseconds?`** — the moment of a number of nanoseconds.
* **`Moment.later?`** — the moment some time after another.
* **`Moment.text`** — date and time in universal time, as in `2024-06-10T08:00:00.25Z`. -/

namespace TurnByTurn

/-- Nanoseconds of a second. -/
def nanosecondsPerSecond : Nat := 1000000000

/-- Nanoseconds of a millisecond. -/
def nanosecondsPerMillisecond : Nat := 1000000

/-- Nanoseconds of a day. -/
def nanosecondsPerDay : Nat := 86400 * nanosecondsPerSecond

/-- **An instant of time**, in nanoseconds since the beginning of 1970 in universal time. -/
structure Moment where
  nanoseconds : Int
  earliest : -377705023202 * (nanosecondsPerSecond : Int) < nanoseconds
  latest : nanoseconds < 253402207201 * (nanosecondsPerSecond : Int)

namespace Moment

/-- **The moment of a number of nanoseconds**, when it is in range. -/
def ofNanoseconds? (n : Int) : Option Moment :=
  if h : -377705023202 * (nanosecondsPerSecond : Int) < n
      ∧ n < 253402207201 * (nanosecondsPerSecond : Int) then some ⟨n, h.1, h.2⟩ else none

/-- The first whole second that is a moment, counted from the beginning of 1970. -/
def firstSecond : Int := -377705023201

/-- The last whole second that is a moment. -/
def lastSecond : Int := 253402207200

/-- The moment of a number of milliseconds, when it is in range. The range of milliseconds begins and
ends with a whole second. -/
def ofMilliseconds? (n : Int) : Option Moment :=
  if firstSecond * 1000 ≤ n ∧ n ≤ lastSecond * 1000 then ofNanoseconds? (n * nanosecondsPerMillisecond)
  else none

/-- The moment some milliseconds after another, which is not before the first whole second. -/
def later? (m : Moment) (milliseconds : Nat) : Option Moment :=
  let n := m.nanoseconds + milliseconds * nanosecondsPerMillisecond
  -- only the moment of departure may be a fraction earlier than that
  if firstSecond * nanosecondsPerSecond ≤ n then ofNanoseconds? n else none

/-- The milliseconds since the beginning of 1970, cut off toward it. -/
def milliseconds (m : Moment) : Int := m.nanoseconds.tdiv nanosecondsPerMillisecond

/-- A moment is found by its nanoseconds. -/
@[simp] theorem ofNanoseconds?_nanoseconds (m : Moment) : ofNanoseconds? m.nanoseconds = some m := by
  simp only [ofNanoseconds?, dif_pos (And.intro m.earliest m.latest)]

/-! ## Text -/

/-- A year of four digits; years before the year zero have a sign and six. -/
def yearChars (year : Int) : List Char :=
  if year < 0 then '-' :: padded 6 year.natAbs else padded 4 year.natAbs

/-- A date, its parts divided by hyphens. -/
def dateChars (d : Date) : List Char :=
  yearChars d.year ++ '-' :: padded 2 d.month ++ '-' :: padded 2 d.day

/-- The time of a day from its nanoseconds, with a fraction where there is one. -/
def timeChars (n : Nat) : List Char :=
  let seconds := n / nanosecondsPerSecond
  padded 2 (seconds / 3600) ++ ':' :: padded 2 (seconds / 60 % 60) ++ ':' :: padded 2 (seconds % 60)
    ++ fraction 9 (n % nanosecondsPerSecond)

/-- **Date and time of a moment in universal time.** -/
def text (m : Moment) : String :=
  .ofList <|
    dateChars (.ofDays (m.nanoseconds / nanosecondsPerDay))
      ++ 'T' :: timeChars (m.nanoseconds % nanosecondsPerDay).toNat ++ ['Z']

end Moment

end TurnByTurn
