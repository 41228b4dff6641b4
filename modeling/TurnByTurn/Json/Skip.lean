import TurnByTurn.Json.Bracket

/-! # Values that are passed over

A value whose content does not matter still has to be JSON, but its numbers may be of any size and its
escapes may stand for half a character.

* **`passHead`** — what follows a scalar or an opening bracket.
* **`nextValue`** — the next value of an array or of an object.
* **`skipValue`** — what follows a value. -/

namespace TurnByTurn.Json

/-! ## Heads -/

/-- What a head leaves to be read. -/
inductive Content where
  | nothing
  /-- The elements of an array, or the members of an object. -/
  | items (inObject : Bool)

/-- **What follows a scalar or an opening bracket**, and what it leaves to be read. -/
def passHead (s : List Char) : Except Fault (Content × List Char) :=
  match skipBlank s with
  | [] => .error .unfinished
  | '[' :: rest => .ok (.items false, rest)
  | '\x7b' :: rest => .ok (.items true, rest)
  | '"' :: rest =>
      match passText rest with
      | .error fault => .error fault
      | .ok rest => .ok (.nothing, rest)
  | 'n' :: rest => scalar (afterWord ['u', 'l', 'l'] rest)
  | 't' :: rest => scalar (afterWord ['r', 'u', 'e'] rest)
  | 'f' :: rest => scalar (afterWord ['a', 'l', 's', 'e'] rest)
  | c :: rest =>
      if c = '-' || c.isDigit then
        -- the size of the number does not matter here
        match Literal.read .malformed (c :: rest) with
        | .error fault => .error fault
        | .ok (_, rest) => .ok (.nothing, rest)
      else .error .malformed
where
  /-- A word leaves nothing to be read. -/
  scalar : Except Fault (List Char) → Except Fault (Content × List Char)
    | .error fault => .error fault
    | .ok rest => .ok (.nothing, rest)

/-- A word that is passed over takes no characters back. -/
theorem length_of_scalar {word s rest : List Char} {content : Content}
    (h : passHead.scalar (afterWord word s) = .ok (content, rest)) : rest.length ≤ s.length := by
  cases hword : afterWord word s with
  | error fault =>
      rw [hword] at h
      cases h
  | ok rest' =>
      rw [hword] at h
      simp only [passHead.scalar, Except.ok.injEq, Prod.mk.injEq] at h
      obtain ⟨-, rfl⟩ := h
      exact length_of_afterWord hword

/-- A head that is passed over takes characters away. -/
theorem length_of_passHead {s rest : List Char} {content : Content}
    (h : passHead s = .ok (content, rest)) : rest.length < s.length := by
  have hblank := length_skipBlank s
  unfold passHead at h
  split at h
  · cases h
  · rename_i hs
    simp only [Except.ok.injEq, Prod.mk.injEq] at h
    obtain ⟨-, rfl⟩ := h
    rw [hs, List.length_cons] at hblank
    omega
  · rename_i hs
    simp only [Except.ok.injEq, Prod.mk.injEq] at h
    obtain ⟨-, rfl⟩ := h
    rw [hs, List.length_cons] at hblank
    omega
  · rename_i hs
    rw [hs, List.length_cons] at hblank
    split at h
    · cases h
    · rename_i htext
      simp only [Except.ok.injEq, Prod.mk.injEq] at h
      obtain ⟨-, rfl⟩ := h
      have := length_of_passText htext
      omega
  · rename_i hs
    rw [hs, List.length_cons] at hblank
    have := length_of_scalar h
    omega
  · rename_i hs
    rw [hs, List.length_cons] at hblank
    have := length_of_scalar h
    omega
  · rename_i hs
    rw [hs, List.length_cons] at hblank
    have := length_of_scalar h
    omega
  · rename_i hs
    rw [hs] at hblank
    split at h
    · split at h
      · cases h
      · rename_i hnumber
        simp only [Except.ok.injEq, Prod.mk.injEq] at h
        obtain ⟨-, rfl⟩ := h
        have := Literal.length_of_read hnumber
        omega
    · cases h

/-! ## Whole values -/

/-- **Where the next value of an array or of an object begins**, past the key of a member, or the end:
`true` and the value, or `false` and what follows the closing bracket. -/
def nextValue (inObject first : Bool) (s : List Char) : Except Fault (Bool × List Char) :=
  if inObject then
    match nextQuote first s with
    | .error fault => .error fault
    | .ok (false, rest) => .ok (false, rest)
    | .ok (true, rest) =>
        match passText rest with
        | .error fault => .error fault
        | .ok rest =>
            match afterColon rest with
            | .error fault => .error fault
            | .ok rest => .ok (true, rest)
  else nextElement first s

/-- A value begins no earlier than where it was looked for. -/
theorem length_of_nextValue {inObject first more : Bool} {s rest : List Char}
    (h : nextValue inObject first s = .ok (more, rest)) : rest.length ≤ s.length := by
  unfold nextValue at h
  split at h
  · split at h
    · cases h
    · rename_i hquote
      simp only [Except.ok.injEq, Prod.mk.injEq] at h
      obtain ⟨-, rfl⟩ := h
      exact Nat.le_of_lt (length_of_nextQuote hquote)
    · rename_i hquote
      have := length_of_nextQuote hquote
      split at h
      · cases h
      · rename_i htext
        have := length_of_passText htext
        split at h
        · cases h
        · rename_i hcolon
          have := length_of_afterColon hcolon
          simp only [Except.ok.injEq, Prod.mk.injEq] at h
          obtain ⟨-, rfl⟩ := h
          omega
  · exact length_of_nextElement h

/-- The end takes characters away. -/
theorem length_of_lastValue {inObject first : Bool} {s rest : List Char}
    (h : nextValue inObject first s = .ok (false, rest)) : rest.length < s.length := by
  unfold nextValue at h
  split at h
  · split at h
    · cases h
    · rename_i hquote
      simp only [Except.ok.injEq, Prod.mk.injEq] at h
      obtain ⟨-, rfl⟩ := h
      exact length_of_nextQuote hquote
    · split at h
      · cases h
      · split at h <;> cases h
  · exact length_of_lastElement h

/-- What is left of a text after something was taken from it. -/
abbrev Rest (s : List Char) : Type := { rest : List Char // rest.length < s.length }

/-- A rest of a part is a rest of the whole. -/
def Rest.of {part whole : List Char} (h : part.length ≤ whole.length) (rest : Rest part) :
    Rest whole :=
  ⟨rest.1, Nat.lt_of_lt_of_le rest.2 h⟩

mutual

/-- **What follows a value.** -/
def skipValue (s : List Char) : Except Fault (Rest s) :=
  match h : passHead s with
  | .error fault => .error fault
  | .ok (.nothing, rest) => .ok ⟨rest, length_of_passHead h⟩
  | .ok (.items inObject, rest) =>
      have hrest := length_of_passHead h
      match skipItems inObject true rest with
      | .error fault => .error fault
      | .ok after => .ok (after.of (Nat.le_of_lt hrest))
termination_by (s.length, 0)

/-- What follows the elements of an array, or the members of an object, and the closing bracket. -/
def skipItems (inObject first : Bool) (s : List Char) : Except Fault (Rest s) :=
  match h : nextValue inObject first s with
  | .error fault => .error fault
  | .ok (false, rest) => .ok ⟨rest, length_of_lastValue h⟩
  | .ok (true, value) =>
      have hvalue := length_of_nextValue h
      match skipValue value with
      | .error fault => .error fault
      | .ok ⟨rest, hrest⟩ =>
          match skipItems inObject false rest with
          | .error fault => .error fault
          | .ok after => .ok (after.of (by omega))
termination_by (s.length, 1)
decreasing_by all_goals simp only [Prod.lex_def]; omega

end

end TurnByTurn.Json
