import TurnByTurn.Json.Fault

/-! # Strings in JSON

A string stands in double quotes. A backslash begins an escape: a letter for one of the usual control
characters, or `u` with four digits of base sixteen. A character beyond U+FFFF is written as two such
escapes, a leading and a trailing surrogate.

* **`hex4`** — the number of four digits.
* **`unescape`** — the character of an escape.
* **`readText`** — a string after its opening quote.
* **`passText`** — the same where only the end of the string matters. -/

namespace TurnByTurn.Json

/-- The value of a digit of base sixteen. -/
def hexValue? (c : Char) : Option Nat :=
  if '0' ≤ c ∧ c ≤ '9' then some (c.toNat - '0'.toNat)
  else if 'a' ≤ c ∧ c ≤ 'f' then some (c.toNat - 'a'.toNat + 10)
  else if 'A' ≤ c ∧ c ≤ 'F' then some (c.toNat - 'A'.toNat + 10)
  else none

/-- The number of four digits of base sixteen. -/
def hexNumber? (a b c d : Char) : Option Nat := do
  return 4096 * (← hexValue? a) + 256 * (← hexValue? b) + 16 * (← hexValue? c) + (← hexValue? d)

/-- **The number of the four digits at the beginning of a text.** A text with fewer than four bytes
left is unfinished, whatever they are. -/
def hex4 (s : List Char) : Except Fault (Nat × List Char) :=
  match s with
  | a :: b :: c :: d :: rest =>
      match hexNumber? a b c d with
      | some n => .ok (n, rest)
      | none => .error .malformed
  | _ =>
      if (String.ofList s).utf8ByteSize < 4 then .error .unfinished else .error .malformed

/-- Four digits are taken away. -/
theorem length_of_hex4 {s rest : List Char} {n : Nat} (h : hex4 s = .ok (n, rest)) :
    rest.length < s.length := by
  unfold hex4 at h
  split at h
  · split at h
    · simp only [Except.ok.injEq, Prod.mk.injEq] at h
      obtain ⟨-, rfl⟩ := h
      simp only [List.length_cons]
      omega
    · cases h
  · split at h <;> cases h

/-- The character of an escape letter that stands for one character. -/
def escaped? (c : Char) : Option Char :=
  if c = '"' then some '"'
  else if c = '\\' then some '\\'
  else if c = '/' then some '/'
  else if c = 'b' then some '\u0008'
  else if c = 'f' then some '\u000c'
  else if c = 'n' then some '\n'
  else if c = 'r' then some '\r'
  else if c = 't' then some '\t'
  else none

/-- Whether a number is a leading surrogate. -/
def isLeading (n : Nat) : Bool := 0xD800 ≤ n && n ≤ 0xDBFF

/-- Whether a number is a trailing surrogate. -/
def isTrailing (n : Nat) : Bool := 0xDC00 ≤ n && n ≤ 0xDFFF

/-- **The trailing surrogate that has to follow a leading one**, and the character of the two. -/
def trailing (lead : Nat) (s : List Char) : Except Fault (Char × List Char) :=
  match s with
  | [] => .error .unfinished
  -- the second escape may be cut off after its backslash
  | ['\\'] => .error .unfinished
  | '\\' :: 'u' :: rest =>
      match hex4 rest with
      | .error fault => .error fault
      | .ok (n, rest) =>
          if isTrailing n then .ok (.ofNat (0x10000 + 0x400 * (lead - 0xD800) + (n - 0xDC00)), rest)
          else .error .malformed
  | _ => .error .malformed

/-- **The character of an escape**, read after its backslash. Surrogates count only in pairs. -/
def unescape (s : List Char) : Except Fault (Char × List Char) :=
  match s with
  | [] => .error .unfinished
  | 'u' :: rest =>
      match hex4 rest with
      | .error fault => .error fault
      | .ok (n, rest) =>
          if isTrailing n then .error .malformed
          else if isLeading n then trailing n rest
          else .ok (.ofNat n, rest)
  | c :: rest =>
      match escaped? c with
      | some c => .ok (c, rest)
      | none => .error .malformed

/-- A trailing surrogate takes characters away. -/
theorem length_of_trailing {lead : Nat} {s rest : List Char} {c : Char}
    (h : trailing lead s = .ok (c, rest)) : rest.length < s.length := by
  unfold trailing at h
  split at h
  · cases h
  · cases h
  · split at h
    · cases h
    · rename_i hhex
      have := length_of_hex4 hhex
      split at h
      · simp only [Except.ok.injEq, Prod.mk.injEq] at h
        obtain ⟨-, rfl⟩ := h
        simp only [List.length_cons]
        omega
      · cases h
  · cases h

/-- An escape takes characters away. -/
theorem length_of_unescape {s rest : List Char} {c : Char} (h : unescape s = .ok (c, rest)) :
    rest.length < s.length := by
  unfold unescape at h
  split at h
  · cases h
  · split at h
    · cases h
    · rename_i hhex
      have := length_of_hex4 hhex
      split at h
      · cases h
      · split at h
        · have := length_of_trailing h
          simp only [List.length_cons]
          omega
        · simp only [Except.ok.injEq, Prod.mk.injEq] at h
          obtain ⟨-, rfl⟩ := h
          simp only [List.length_cons]
          omega
  · split at h
    · simp only [Except.ok.injEq, Prod.mk.injEq] at h
      obtain ⟨-, rfl⟩ := h
      simp
    · cases h

/-- **The characters of a string**, read after its opening quote, and the text after its closing one.
Control characters have to be escaped. -/
def readChars (s : List Char) : Except Fault (List Char × List Char) :=
  match s with
  | [] => .error .unfinished
  | '"' :: rest => .ok ([], rest)
  | '\\' :: rest =>
      match h : unescape rest with
      | .error fault => .error fault
      | .ok (c, rest') =>
          have := length_of_unescape h
          match readChars rest' with
          | .error fault => .error fault
          | .ok (cs, rest) => .ok (c :: cs, rest)
  | c :: rest =>
      if c.toNat < 0x20 then .error .malformed
      else
        match readChars rest with
        | .error fault => .error fault
        | .ok (cs, rest) => .ok (c :: cs, rest)
termination_by s.length
decreasing_by all_goals simp_wf; try omega

/-- A string takes characters away. -/
theorem length_of_readChars {s cs rest : List Char} (h : readChars s = .ok (cs, rest)) :
    rest.length < s.length := by
  fun_induction readChars s generalizing cs rest with
  | case1 => cases h
  | case2 tail =>
      simp only [Except.ok.injEq, Prod.mk.injEq] at h
      obtain ⟨-, rfl⟩ := h
      simp
  | case3 => cases h
  | case4 => cases h
  | case5 tail c tail' hescape hlength cs' rest' hread ih =>
      simp only [Except.ok.injEq, Prod.mk.injEq] at h
      obtain ⟨-, rfl⟩ := h
      have := ih hread
      simp only [List.length_cons]
      omega
  | case6 => cases h
  | case7 => cases h
  | case8 c tail hquote hbackslash hcontrol cs' rest' hread ih =>
      simp only [Except.ok.injEq, Prod.mk.injEq] at h
      obtain ⟨-, rfl⟩ := h
      have := ih hread
      simp only [List.length_cons]
      omega

/-- **A string**, read after its opening quote. -/
def readText (s : List Char) : Except Fault (String × List Char) :=
  match readChars s with
  | .error fault => .error fault
  | .ok (cs, rest) => .ok (.ofList cs, rest)

/-- A string takes characters away. -/
theorem length_of_readText {s rest : List Char} {t : String} (h : readText s = .ok (t, rest)) :
    rest.length < s.length := by
  unfold readText at h
  split at h
  · cases h
  · rename_i hread
    simp only [Except.ok.injEq, Prod.mk.injEq] at h
    obtain ⟨-, rfl⟩ := h
    exact length_of_readChars hread

/-! ## Strings that are passed over -/

/-- What follows an escape whose character does not matter. -/
def passEscape (s : List Char) : Except Fault (List Char) :=
  match s with
  | [] => .error .unfinished
  | 'u' :: rest =>
      match hex4 rest with
      | .error fault => .error fault
      | .ok (_, rest) => .ok rest
  | c :: rest => if (escaped? c).isSome then .ok rest else .error .malformed

/-- Passing over an escape takes characters away. -/
theorem length_of_passEscape {s rest : List Char} (h : passEscape s = .ok rest) :
    rest.length < s.length := by
  unfold passEscape at h
  split at h
  · cases h
  · split at h
    · cases h
    · rename_i hhex
      have := length_of_hex4 hhex
      simp only [Except.ok.injEq] at h
      subst h
      simp only [List.length_cons]
      omega
  · split at h
    · simp only [Except.ok.injEq] at h
      subst h
      simp
    · cases h

/-- **What follows a string** whose characters do not matter, read after its opening quote. -/
def passText (s : List Char) : Except Fault (List Char) :=
  match s with
  | [] => .error .unfinished
  | '"' :: rest => .ok rest
  | '\\' :: rest =>
      match h : passEscape rest with
      | .error fault => .error fault
      | .ok rest' =>
          have := length_of_passEscape h
          passText rest'
  | c :: rest => if c.toNat < 0x20 then .error .malformed else passText rest
termination_by s.length
decreasing_by all_goals simp_wf; try omega

/-- A string that is passed over takes characters away. -/
theorem length_of_passText {s rest : List Char} (h : passText s = .ok rest) :
    rest.length < s.length := by
  fun_induction passText s generalizing rest with
  | case1 => cases h
  | case2 tail =>
      obtain rfl : tail = rest := by simpa using h
      simp
  | case3 => cases h
  | case4 tail tail' hescape hlength ih =>
      have := ih h
      simp only [List.length_cons]
      omega
  | case5 => cases h
  | case6 c tail hquote hbackslash hcontrol ih =>
      have := ih h
      simp only [List.length_cons]
      omega

end TurnByTurn.Json
