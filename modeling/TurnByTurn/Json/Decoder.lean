import TurnByTurn.Json.Bracket

/-! # Reading a JSON text as a value of a certain type

A `Decoder` reads one value from the beginning of a text. The text is read once, from left to right,
and the first thing that is wrong with it is the answer, be it the text or its shape.

* **`Decoder`** — reads a value whose head is known.
* **`int32`**, **`natural64`**, **`double`**, **`string`** — scalars.
* **`optional`**, **`array`** — values made of others.
* **`document`** — reads a whole text. -/

namespace TurnByTurn.Json

/-- **Reads a value whose head is already read**, and gives what follows it. It never gives back more
than it got. -/
structure Decoder (α : Type) where
  ofHead : Head → List Char → Except Fault (α × List Char)
  length_le : ∀ {head s a rest}, ofHead head s = .ok (a, rest) → rest.length ≤ s.length

namespace Decoder

variable {α β : Type}

/-- **Reads a value from the beginning of a text.** -/
def read (d : Decoder α) (s : List Char) : Except Fault (α × List Char) :=
  match readHead s with
  | .error fault => .error fault
  | .ok (head, rest) => d.ofHead head rest

/-- A value takes characters away. -/
theorem length_of_read {d : Decoder α} {s rest : List Char} {a : α}
    (h : d.read s = .ok (a, rest)) : rest.length < s.length := by
  unfold read at h
  split at h
  · cases h
  · rename_i hhead
    have := length_of_readHead hhead
    have := d.length_le h
    omega

/-- A function of what is read. -/
def map (f : α → β) (d : Decoder α) : Decoder β where
  ofHead head s :=
    match d.ofHead head s with
    | .error fault => .error fault
    | .ok (a, rest) => .ok (f a, rest)
  length_le h := by
    split at h
    · cases h
    · rename_i hd
      simp only [Except.ok.injEq, Prod.mk.injEq] at h
      obtain ⟨-, rfl⟩ := h
      exact d.length_le hd

/-! ## Scalars -/

/-- A value that is all in its head. -/
def scalar (accept : Head → Except Mismatch α) : Decoder α where
  ofHead head s :=
    match accept head with
    | .error m => .error (.mismatch m)
    | .ok a => .ok (a, s)
  length_le h := by
    split at h
    · cases h
    · simp only [Except.ok.injEq, Prod.mk.injEq] at h
      obtain ⟨-, rfl⟩ := h
      exact Nat.le_refl _

/-- **A signed integer of 32 bits.** -/
def int32 : Decoder Int32 := scalar fun
  | .number (.integer n) =>
      if -0x80000000 ≤ n ∧ n < 0x80000000 then .ok (.ofInt n) else .error (.wrongInteger n "i32")
  -- a real number is of the wrong type, even a whole one
  | head => .error (.wrongType head.found "i32")

/-- **A natural number of 64 bits**, called `expected` in messages. -/
def natural64 (expected : String) : Decoder UInt64 := scalar fun
  | .number (.integer n) =>
      if 0 ≤ n ∧ n < 0x10000000000000000 then .ok (.ofNat n.toNat) else .error (.wrongInteger n expected)
  | head => .error (.wrongType head.found expected)

/-- **A double.** An integer stands for the double nearest to it. -/
def double : Decoder Float := scalar fun
  | .number (.real x) => .ok x
  | .number (.integer n) => .ok (Decimal.toDouble (n < 0) ⟨n.natAbs, 0⟩)
  | head => .error (.wrongType head.found "f64")

/-- **A string.** -/
def string : Decoder String := scalar fun
  | .text s => .ok s
  | head => .error (.wrongType head.found "a string")

/-! ## Values made of others -/

/-- **A value or `null`.** -/
def optional (d : Decoder α) : Decoder (Option α) where
  ofHead
    | .null, s => .ok (none, s)
    | head, s => (d.map some).ofHead head s
  length_le {head s a rest} h := by
    split at h
    · simp only [Except.ok.injEq, Prod.mk.injEq] at h
      obtain ⟨-, rfl⟩ := h
      exact Nat.le_refl _
    · exact (d.map some).length_le h

/-- The elements of an array from the given place on, and what follows its closing bracket. -/
def elements (d : Decoder α) (first : Bool) (s : List Char) : Except Fault (List α × List Char) :=
  match h : nextElement first s with
  | .error fault => .error fault
  | .ok (false, rest) => .ok ([], rest)
  | .ok (true, element) =>
      match h' : d.read element with
      | .error fault => .error fault
      | .ok (a, rest) =>
          have := length_of_nextElement h
          have := length_of_read h'
          match elements d false rest with
          | .error fault => .error fault
          | .ok (as, rest) => .ok (a :: as, rest)
termination_by s.length

/-- The elements of an array take characters away. -/
theorem length_of_elements {d : Decoder α} {first : Bool} {s rest : List Char} {as : List α}
    (h : d.elements first s = .ok (as, rest)) : rest.length < s.length := by
  fun_induction elements d first s generalizing as rest with
  | case1 => cases h
  | case2 first s tail hnext =>
      simp only [Except.ok.injEq, Prod.mk.injEq] at h
      obtain ⟨-, rfl⟩ := h
      exact length_of_lastElement hnext
  | case3 => cases h
  | case4 => cases h
  | case5 first s element hnext a tail hread h₁ h₂ as' rest' helements ih =>
      simp only [Except.ok.injEq, Prod.mk.injEq] at h
      obtain ⟨-, rfl⟩ := h
      have := ih helements
      omega

/-- **An array of values.** -/
def array (d : Decoder α) : Decoder (List α) where
  ofHead
    | .array, s => d.elements true s
    | head, _ => .error (.mismatch (.wrongType head.found "a sequence"))
  length_le h := by
    split at h
    · exact Nat.le_of_lt (length_of_elements h)
    · cases h

end Decoder

/-! ## Whole texts -/

/-- **A whole text**: a value with nothing but blanks around it. -/
def document {α : Type} (read : List Char → Except Fault (α × List Char)) (s : String) :
    Except Fault α :=
  match read s.toList with
  | .error fault => .error fault
  | .ok (a, rest) => if (skipBlank rest).isEmpty then .ok a else .error .malformed

end TurnByTurn.Json
