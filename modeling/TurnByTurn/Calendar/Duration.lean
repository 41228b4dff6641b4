import TurnByTurn.Guidance.Milliseconds
import TurnByTurn.Text.Digits

/-! # Durations

A duration for display is a signed number of 64 bits and never negative, so only half of all clock
readings have one.

* **`Duration.ofMilliseconds?`** — the duration of a clock reading.
* **`Duration.text`** — hours, minutes and seconds, as in `PT25H1M1.001S`. -/

namespace TurnByTurn

/-- How many durations there are. -/
def Duration.count : Nat := 0x8000000000000000

/-- **A duration in milliseconds.** -/
structure Duration where
  milliseconds : Nat
  fits : milliseconds < Duration.count

namespace Duration

/-- **The duration of a clock reading**, when it fits. -/
def ofMilliseconds? (time : Milliseconds) : Option Duration :=
  if h : time.toNat < count then some ⟨time.toNat, h⟩ else none

/-- What is said of a clock reading that does not fit. -/
def tooLarge : String := "number too large to fit in target type"

/-- The whole seconds. -/
def seconds (d : Duration) : Nat := d.milliseconds / 1000

/-- The milliseconds beyond the whole seconds. -/
def subsecond (d : Duration) : Nat := d.milliseconds % 1000

/-- A part of the text with its letter, left out when it is zero. -/
def part (chars : List Char) (isZero : Bool) (letter : Char) : List Char :=
  if isZero then [] else chars ++ [letter]

/-- **Hours, minutes and seconds.** What is zero is left out, but not all of it. -/
def text (d : Duration) : String :=
  let hours := d.seconds / 3600
  let minutes := d.seconds / 60 % 60
  let seconds := d.seconds % 60
  let time :=
    part (digits hours) (hours = 0) 'H' ++ part (digits minutes) (minutes = 0) 'M'
      ++ part (digits seconds ++ fraction 3 d.subsecond) (seconds = 0 && d.subsecond = 0) 'S'
  -- something has to follow the letter T
  .ofList ('P' :: 'T' :: if time.isEmpty then ['0', 'S'] else time)

end Duration

end TurnByTurn
