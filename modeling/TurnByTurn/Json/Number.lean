import TurnByTurn.Json.Fault

/-! # Numbers in JSON

A number is written with an optional minus, whole digits without leading zeros, and perhaps a fraction
and an exponent. Without fraction and exponent it is an integer, as long as it fits 64 bits, signed or
unsigned. All others are read as doubles. This is done fast: the digits and the power of ten become doubles
each and are multiplied or divided then, so the double that is read is near the number, but not always the
nearest.

* **`Literal`** — a number as it is written.
* **`Literal.read`** — the literal at the beginning of a text.
* **`Literal.double?`** — the double that a literal is read as.
* **`Literal.number?`** — the number that a literal is read as. -/

namespace TurnByTurn.Json

/-- A number: an integer of 64 bits or a double. -/
inductive Number where
  | integer (n : Int)
  | real (x : Float)

/-- **A number as it is written.** -/
structure Literal where
  negative : Bool
  whole : List Char
  fraction : List Char
  /-- The sign and the digits of the exponent. -/
  exponent : Option (Bool × List Char)
deriving DecidableEq, Repr

namespace Literal

/-! ## Reading -/

/-- Digits at the beginning of a text, at least one of them. Where the text ends without one, `atEnd`
tells what that means. -/
def digitsOf (atEnd : Fault) (s : List Char) : Except Fault (List Char × List Char) :=
  match s with
  | [] => .error atEnd
  | c :: _ =>
      if c.isDigit then .ok (s.takeWhile Char.isDigit, s.dropWhile Char.isDigit)
      else .error .malformed

/-- The exponent, if one begins here. -/
def exponentOf (atEnd : Fault) (s : List Char) :
    Except Fault (Option (Bool × List Char) × List Char) :=
  match s with
  | 'e' :: rest => signed rest
  | 'E' :: rest => signed rest
  | _ => .ok (none, s)
where
  /-- The exponent's sign and digits. -/
  signed (s : List Char) : Except Fault (Option (Bool × List Char) × List Char) := do
    let (negative, s) := match s with
      | '-' :: rest => (true, rest)
      | '+' :: rest => (false, rest)
      | _ => (false, s)
    let (ds, rest) ← digitsOf atEnd s
    return (some (negative, ds), rest)

/-- The fraction, if one begins here. -/
def fractionOf (atEnd : Fault) (s : List Char) : Except Fault (List Char × List Char) :=
  match s with
  | '.' :: rest => digitsOf atEnd rest
  | _ => .ok ([], s)

/-- The whole digits: a single zero, or digits that do not start with one. -/
def wholeOf (atEnd : Fault) (s : List Char) : Except Fault (List Char × List Char) :=
  match s with
  | ['0'] => .ok (['0'], [])
  | '0' :: c :: rest => if c.isDigit then .error .malformed else .ok (['0'], c :: rest)
  | _ => digitsOf atEnd s

/-- **The literal at the beginning of a text.** -/
def read (atEnd : Fault) (s : List Char) : Except Fault (Literal × List Char) := do
  let (negative, s) := match s with
    | '-' :: rest => (true, rest)
    | _ => (false, s)
  let (whole, s) ← wholeOf atEnd s
  let (fraction, s) ← fractionOf atEnd s
  let (exponent, s) ← exponentOf atEnd s
  return (⟨negative, whole, fraction, exponent⟩, s)

/-! ## Meaning -/

/-- The exponent of the last written digit. -/
def scale (l : Literal) : Int :=
  (match l.exponent with
    | none => 0
    | some (true, ds) => -(naturalOf ds : Int)
    | some (false, ds) => naturalOf ds) - l.fraction.length

/-- A number with more digits behind it as long as it fits 64 bits, and the digits that are left. -/
def collect (n : Nat) : List Char → Nat × List Char
  | [] => (n, [])
  | c :: rest =>
      let more := 10 * n + (c.toNat - '0'.toNat)
      if more < 0x10000000000000000 then collect more rest else (n, c :: rest)

/-- **The digits that count**, as a number of 64 bits, and its exponent. The digits that are left, before and
after the point, move the exponent only. -/
def parts (l : Literal) : Nat × Int :=
  let (whole, left) := collect 0 l.whole
  let (significand, left') := collect whole l.fraction
  (significand, l.scale + (left.length + left'.length : Nat))

/-- A power of ten as a double. -/
def power (k : Nat) : Float := Decimal.toDouble false ⟨1, k⟩

/-- The exponent of the greatest power of ten among the doubles. -/
def greatest : Nat := 308

/-- A double divided by the greatest power of ten some times, but not when it is zero. -/
def shrink (x : Float) : Nat → Float
  | 0 => x
  | n + 1 => if x == 0 then x else shrink (x / power greatest) n

/-- **A double times a power of ten**, rounded at each step, unless this is beyond all doubles. -/
def scaled? (x : Float) : Int → Option Float
  | .ofNat n =>
      if n ≤ greatest then
        let y := x * power n
        if y.isInf then none else some y
      else if x == 0 then some x
      else none
  | .negSucc n => some (shrink x (n / greatest) / power (n % greatest + 1))

/-- **The double that a literal is read as**, unless the literal is beyond all doubles. -/
def double? (l : Literal) : Option Float :=
  let (significand, exponent) := l.parts
  (scaled? (Decimal.toDouble false ⟨significand, 0⟩) exponent).map fun x => if l.negative then -x else x

/-- **The number that a literal is read as.** Without fraction and exponent it is an integer from
`-2 ^ 63` to `2 ^ 64 - 1`; `-0` and all else is a double, unless the literal is beyond all doubles. -/
def number? (l : Literal) : Option Number :=
  let n := naturalOf l.whole
  if l.fraction.isEmpty && l.exponent.isNone && !l.negative && n < 0x10000000000000000 then some (.integer n)
  else if l.fraction.isEmpty && l.exponent.isNone && l.negative && 0 < n && n ≤ 0x8000000000000000 then
    some (.integer (-n))
  else l.double?.map .real

end Literal

/-- The number at the beginning of a text. -/
def readNumber (s : List Char) : Except Fault (Number × List Char) := do
  let (literal, rest) ← Literal.read .unfinished s
  match literal.number? with
  | some n => return (n, rest)
  | none => throw .malformed

/-! ## What is left -/

namespace Literal

/-- Digits take characters away. -/
theorem length_of_digitsOf {atEnd : Fault} {s ds rest : List Char}
    (h : digitsOf atEnd s = .ok (ds, rest)) : rest.length < s.length := by
  unfold digitsOf at h
  split at h
  · cases h
  · rename_i c tail
    split at h
    · rename_i hc
      simp only [Except.ok.injEq, Prod.mk.injEq] at h
      obtain ⟨-, rfl⟩ := h
      rw [List.dropWhile_cons_of_pos hc, List.length_cons]
      have := (List.dropWhile_suffix (l := tail) Char.isDigit).sublist.length_le
      omega
    · cases h

/-- A fraction takes no characters back. -/
theorem length_of_fractionOf {atEnd : Fault} {s ds rest : List Char}
    (h : fractionOf atEnd s = .ok (ds, rest)) : rest.length ≤ s.length := by
  unfold fractionOf at h
  split at h
  · have := length_of_digitsOf h
    simp only [List.length_cons]
    omega
  · simp only [Except.ok.injEq, Prod.mk.injEq] at h
    obtain ⟨-, rfl⟩ := h
    exact Nat.le_refl _

/-- The sign and the digits of an exponent take characters away. -/
theorem length_of_signed {atEnd : Fault} {s rest : List Char} {e : Option (Bool × List Char)}
    (h : exponentOf.signed atEnd s = .ok (e, rest)) : rest.length < s.length := by
  unfold exponentOf.signed at h
  simp only [bind, Except.bind] at h
  split at h
  · cases h
  · rename_i hds
    have := length_of_digitsOf hds
    simp only [pure, Except.pure, Except.ok.injEq, Prod.mk.injEq] at h
    obtain ⟨-, rfl⟩ := h
    have : (match s with
      | '-' :: rest => (true, rest)
      | '+' :: rest => (false, rest)
      | _ => (false, s)).2.length ≤ s.length := by
      split <;> simp
    omega

/-- An exponent takes no characters back. -/
theorem length_of_exponentOf {atEnd : Fault} {s rest : List Char} {e : Option (Bool × List Char)}
    (h : exponentOf atEnd s = .ok (e, rest)) : rest.length ≤ s.length := by
  unfold exponentOf at h
  split at h
  · have := length_of_signed h
    simp only [List.length_cons]
    omega
  · have := length_of_signed h
    simp only [List.length_cons]
    omega
  · simp only [Except.ok.injEq, Prod.mk.injEq] at h
    obtain ⟨-, rfl⟩ := h
    exact Nat.le_refl _

/-- Whole digits take characters away. -/
theorem length_of_wholeOf {atEnd : Fault} {s ds rest : List Char}
    (h : wholeOf atEnd s = .ok (ds, rest)) : rest.length < s.length := by
  unfold wholeOf at h
  split at h
  · simp only [Except.ok.injEq, Prod.mk.injEq] at h
    obtain ⟨-, rfl⟩ := h
    decide
  · split at h
    · cases h
    · simp only [Except.ok.injEq, Prod.mk.injEq] at h
      obtain ⟨-, rfl⟩ := h
      simp
  · exact length_of_digitsOf h

/-- A literal takes characters away. -/
theorem length_of_read {atEnd : Fault} {s rest : List Char} {l : Literal}
    (h : read atEnd s = .ok (l, rest)) : rest.length < s.length := by
  unfold read at h
  simp only [bind, Except.bind] at h
  split at h
  · cases h
  · rename_i hwhole
    have hw := length_of_wholeOf hwhole
    split at h
    · cases h
    · rename_i hfraction
      have hf := length_of_fractionOf hfraction
      split at h
      · cases h
      · rename_i hexponent
        have he := length_of_exponentOf hexponent
        simp only [pure, Except.pure, Except.ok.injEq, Prod.mk.injEq] at h
        obtain ⟨-, rfl⟩ := h
        have : (match s with
          | '-' :: rest => (true, rest)
          | _ => (false, s)).2.length ≤ s.length := by
          split <;> simp
        omega

end Literal

/-- A number takes characters away. -/
theorem length_of_readNumber {s rest : List Char} {n : Number} (h : readNumber s = .ok (n, rest)) :
    rest.length < s.length := by
  unfold readNumber at h
  simp only [bind, Except.bind] at h
  split at h
  · cases h
  · rename_i hread
    have := Literal.length_of_read hread
    split at h
    · simp only [pure, Except.pure, Except.ok.injEq, Prod.mk.injEq] at h
      obtain ⟨-, rfl⟩ := h
      exact this
    · cases h

end TurnByTurn.Json
