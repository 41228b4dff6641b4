import TurnByTurn.Calendar.Moment

/-! # Reading moments

A moment is written as a date and a time with an offset, or in a zone given in brackets, or as a
number of milliseconds since the beginning of 1970.

* **`Written`** — date, time, offset and zone as they are written.
* **`written?`** — what a text writes.
* **`Written.moment?`** — the moment that is meant.
* **`Moment.read`** — the moment of a text in any of the forms. -/

namespace TurnByTurn

/-! ## Dates -/

namespace Date

/-- A year: four digits, or a sign and six. There is no year minus zero. -/
def takeYear? (s : List Char) : Option (Int × List Char) :=
  match s with
  | '+' :: rest => (takeDigits? 6 rest).map fun (n, rest) => (n, rest)
  | '-' :: rest =>
      match takeDigits? 6 rest with
      | some (0, _) => none
      | some (n, rest) => some (-n, rest)
      | none => none
  | _ => (takeDigits? 4 s).map fun (n, rest) => (n, rest)

/-- What follows the hyphen between two parts of a date, or between two parts written together. -/
def afterHyphen? (hyphens : Bool) (s : List Char) : Option (List Char) :=
  match hyphens, s with
  | false, s => some s
  | true, '-' :: rest => some rest
  | true, _ => none

/-- **A date** with hyphens between all its parts, or with none. -/
def take? (s : List Char) : Option (Date × List Char) := do
  let (year, s) ← takeYear? s
  -- the first hyphen decides about the second
  let hyphens := s.head? = some '-'
  let (month, s) ← takeDigits? 2 (← afterHyphen? hyphens s)
  let (day, s) ← takeDigits? 2 (← afterHyphen? hyphens s)
  let date : Date := ⟨year, month, day⟩
  if date.isValid && -9999 ≤ year && year ≤ 9999 then some (date, s) else none

end Date

/-! ## Times -/

namespace Moment

/-- What follows the colon before a further part of a time. Without colons a further part is told by
its two digits. -/
def afterColon? (colons : Bool) (s : List Char) : Option (List Char) :=
  match colons, s with
  | true, ':' :: rest => some rest
  | true, _ => none
  | false, c :: d :: _ => if c.isDigit && d.isDigit then some s else none
  | false, _ => none

/-- The nanoseconds of a fraction of up to nine digits. Without a decimal sign there is none. -/
def takeFraction? (s : List Char) : Option (Nat × List Char) :=
  match s with
  | [] => some (0, [])
  | c :: rest =>
      if c = '.' ∨ c = ',' then
        let ds := (rest.take 9).takeWhile Char.isDigit
        if ds.isEmpty then none
        else some (naturalOf ds * Nat.pow 10 (9 - ds.length), rest.drop ds.length)
      else some (0, s)

/-- A part of a time, up to a largest value. -/
def takePart? (largest : Nat) (s : List Char) : Option (Nat × List Char) :=
  match takeDigits? 2 s with
  | some (n, rest) => if n ≤ largest then some (n, rest) else none
  | none => none

/-- **A time of day**, in nanoseconds: hours, perhaps minutes, perhaps seconds and a fraction. A leap
second counts as the one before it. -/
def takeTime? (s : List Char) : Option (Nat × List Char) := do
  let (hours, s) ← takePart? 23 s
  -- the first colon decides about the second
  let colons := s.head? = some ':'
  match afterColon? colons s with
  | none => return (hours * 3600 * nanosecondsPerSecond, s)
  | some s =>
      let (minutes, s) ← takePart? 59 s
      match afterColon? colons s with
      | none => return ((hours * 3600 + minutes * 60) * nanosecondsPerSecond, s)
      | some s =>
          let (seconds, s) ← takePart? 60 s
          let (nanoseconds, s) ← takeFraction? s
          -- second 60 is second 59 with the same fraction
          return ((hours * 3600 + minutes * 60 + min seconds 59) * nanosecondsPerSecond + nanoseconds, s)

/-! ## Offsets -/

/-- The size of an offset in seconds: hours, perhaps minutes and, where `finest` allows it, perhaps
seconds, which are rounded. -/
def takeOffsetSize? (finest : Bool) (s : List Char) : Option (Nat × List Char) := do
  let (hours, s) ← takePart? 25 s
  let colons := s.head? = some ':'
  match afterColon? colons s with
  | none => return (hours * 3600, s)
  | some s =>
      let (minutes, s) ← takePart? 59 s
      match if finest then afterColon? colons s else none with
      | none => return (hours * 3600 + minutes * 60, s)
      | some s =>
          let (seconds, s) ← takePart? 59 s
          let (nanoseconds, s) ← takeFraction? s
          let size := hours * 3600 + minutes * 60 + seconds
            + if nanosecondsPerSecond ≤ 2 * nanoseconds then 1 else 0
          if size < 26 * 3600 then return (size, s) else none

/-- **An offset from universal time** in seconds, if one begins here; it begins with its sign. -/
def takeSigned? (finest : Bool) (s : List Char) : Option (Option Int × List Char) :=
  match s with
  | '+' :: rest => (takeOffsetSize? finest rest).map fun (n, rest) => (some (n : Int), rest)
  | '-' :: rest => (takeOffsetSize? finest rest).map fun (n, rest) => (some (-n : Int), rest)
  | _ => some (none, s)

/-- The offset after a time: none, universal time itself, or a signed one. -/
def takeOffset? (s : List Char) : Option (Option Int × List Char) :=
  match s with
  | 'Z' :: rest => some (some 0, rest)
  | 'z' :: rest => some (some 0, rest)
  | _ => takeSigned? true s

/-! ## Brackets -/

/-- A zone in brackets. -/
inductive Zone where
  | offset (seconds : Int)
  | named (name : List Char)
deriving DecidableEq, Repr

/-- What follows an exclamation mark, which may stand at the beginning of brackets. -/
def afterMark (s : List Char) : Bool × List Char :=
  match s with
  | '!' :: rest => (true, rest)
  | _ => (false, s)

/-- Whether a part of a zone's name begins with this character. -/
def startsName (c : Char) : Bool := c.isAlpha || c = '_' || c = '.'

/-- Whether a part of a zone's name goes on with this character. -/
def continuesName (c : Char) : Bool := startsName c || c.isDigit || c = '-' || c = '+'

/-- A name of parts that are divided by slashes. -/
def takeName? (s : List Char) : Option (List Char × List Char) :=
  let parts := s.takeWhile fun c => continuesName c || c = '/'
  let ok := (parts.splitOn '/').all fun part => part.head?.any startsName
  if ok then some (parts, s.drop parts.length) else none

/-- What follows a closing bracket. -/
def afterBracket? (s : List Char) : Option (List Char) :=
  match s with
  | ']' :: rest => some rest
  | _ => none

/-- **A zone in brackets**, if one begins here. Brackets with an equals sign hold something else. -/
def takeZone? (s : List Char) : Option (Option Zone × List Char) :=
  match s with
  | '[' :: rest =>
      match takeSigned? false (afterMark rest).2 with
      | none => none
      | some (some seconds, rest) =>
          (afterBracket? rest).map fun rest => (some (.offset seconds), rest)
      | some (none, inside) =>
          match takeName? inside with
          | none => none
          -- a tag, which is read again from its bracket
          | some (_, '=' :: _) => some (none, s)
          | some (name, rest) => (afterBracket? rest).map fun rest => (some (.named name), rest)
  | _ => some (none, s)

/-- Whether a key begins with this character. -/
def startsKey (c : Char) : Bool := c.isLower || c = '_'

/-- Whether a key goes on with this character. -/
def continuesKey (c : Char) : Bool := startsKey c || c.isDigit || c = '-'

/-- A key, an equals sign and values between hyphens, as they stand in brackets. A key that must be
understood is not, and so refused. -/
def takeTag? (s : List Char) : Option (List Char) :=
  let (critical, s) := afterMark s
  let key := s.takeWhile continuesKey
  match s.drop key.length with
  | '=' :: rest =>
      let values := rest.takeWhile fun c => c.isAlphanum || c = '-'
      if key.head?.any startsKey && (values.splitOn '-').all (!·.isEmpty) && !critical then
        afterBracket? (rest.drop values.length)
      else none
  | _ => none

/-- What follows the brackets at the end of a text; `limit` bounds their number. -/
def afterTags? (limit : Nat) (s : List Char) : Option (List Char) :=
  match limit, s with
  | limit + 1, '[' :: rest => (takeTag? rest).bind (afterTags? limit)
  | _, s => some s

/-! ## Whole texts -/

end Moment

/-- **A moment as it is written.** -/
structure Written where
  date : Date
  /-- The time of day in nanoseconds. -/
  time : Option Nat
  /-- The offset from universal time in seconds. -/
  offset : Option Int
  zone : Option Moment.Zone
deriving DecidableEq, Repr

/-- The time that follows a date, if there is one. Only a time can have an offset. -/
def Moment.takeTimeAndOffset? (s : List Char) : Option (Option Nat × Option Int × List Char) :=
  match s with
  | [] => some (none, none, [])
  | c :: rest =>
      if c = 'T' ∨ c = 't' ∨ c = ' ' then do
        let (time, rest) ← takeTime? rest
        let (offset, rest) ← takeOffset? rest
        return (some time, offset, rest)
      else some (none, none, s)

/-- **What a text writes.** -/
def written? (s : List Char) : Option Written := do
  let (date, s) ← Date.take? s
  let (time, offset, s) ← Moment.takeTimeAndOffset? s
  let (zone, s) ← Moment.takeZone? s
  let rest ← Moment.afterTags? s.length s
  if rest.isEmpty then some ⟨date, time, offset, zone⟩ else none

namespace Moment

/-- The offset of a zone. Of the named ones only universal time is known, and the unknown zone, which
counts as universal time. -/
def Zone.seconds? : Zone → Option Int
  | offset seconds => some seconds
  | named name =>
      let known := ["UTC", "ETC/UNKNOWN"].map String.toList
      if known.contains (name.map Char.toUpper) then some 0 else none

/-- The moment of a date and a time of day at an offset. -/
def at? (date : Date) (time : Nat) (offset : Int) : Option Moment :=
  ofNanoseconds? (date.toDays * nanosecondsPerDay + time - offset * nanosecondsPerSecond)

end Moment

/-- **The moment that is meant.** An offset outweighs a zone; without an offset the zone is needed,
and a missing time is midnight. -/
def Written.moment? (w : Written) : Option Moment :=
  match w.time, w.offset, w.zone with
  | some time, some offset, _ => Moment.at? w.date time offset
  | time, none, some zone => zone.seconds?.bind (Moment.at? w.date (time.getD 0))
  | _, _, _ => none

namespace Moment

/-- A signed number of 64 bits, in decimal digits with an optional sign. -/
def int64? (s : List Char) : Option Int :=
  let (negative, ds) := match s with
    | '-' :: rest => (true, rest)
    | '+' :: rest => (false, rest)
    | _ => (false, s)
  let n : Int := if negative then -naturalOf ds else naturalOf ds
  if ds.isEmpty || !ds.all Char.isDigit then none
  else if -0x8000000000000000 ≤ n ∧ n < 0x8000000000000000 then some n
  else none

/-- What is wrong with the text of a moment. -/
inductive ReadError where
  /-- It has none of the forms. -/
  | invalid
  /-- It is a number of milliseconds beyond all moments. -/
  | outOfRange
deriving DecidableEq, Repr

/-- The sentence for a text that has none of the forms. -/
def invalidMessage : String := "Invalid timestamp"

/-- **The moment of a text**: a date and a time, or else a number of milliseconds. -/
def read (s : String) : Except ReadError Moment :=
  match (written? s.toList).bind Written.moment? with
  | some m => .ok m
  | none =>
      match int64? s.toList with
      | none => .error .invalid
      | some n =>
          match ofMilliseconds? n with
          | some m => .ok m
          | none => .error .outOfRange

end Moment

end TurnByTurn
