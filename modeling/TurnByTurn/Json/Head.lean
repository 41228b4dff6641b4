import TurnByTurn.Json.Number
import TurnByTurn.Json.Text

/-! # How a JSON value begins

A scalar is known as soon as it is read; of an array and of an object only the bracket is read, and
what they hold comes after it.

* **`skipBlank`** — blanks before a value or a sign.
* **`Head`** — a scalar, or the opening bracket of an array or an object.
* **`readHead`** — the head of the value at the beginning of a text. -/

namespace TurnByTurn.Json

/-! ## Blanks -/

/-- The four blanks of JSON. -/
def isBlank (c : Char) : Bool := c = ' ' || c = '\n' || c = '\t' || c = '\r'

/-- A text without the blanks at its beginning. -/
def skipBlank (s : List Char) : List Char := s.dropWhile isBlank

/-- No blanks, nothing to skip. -/
@[simp] theorem skipBlank_nil : skipBlank [] = [] := rfl

/-- Skipping takes no characters back. -/
theorem length_skipBlank (s : List Char) : (skipBlank s).length ≤ s.length :=
  (List.dropWhile_suffix _).sublist.length_le

/-! ## Heads -/

/-- **How a value begins.** -/
inductive Head where
  | null
  | bool (b : Bool)
  | number (n : Number)
  | text (s : String)
  /-- The opening bracket of an array. -/
  | array
  /-- The opening bracket of an object. -/
  | object

/-- What a head is called in a message. -/
def Head.found : Head → Found
  | null => .null
  | bool b => .bool b
  | number (.integer n) => .integer n
  | number (.real x) => .real x
  | text s => .text s
  | array => .sequence
  | object => .map

/-- What follows the letters of a word. -/
def afterWord : List Char → List Char → Except Fault (List Char)
  | [], s => .ok s
  | _ :: _, [] => .error .unfinished
  | w :: word, c :: rest => if c = w then afterWord word rest else .error .malformed

/-- A word takes no characters back. -/
theorem length_of_afterWord {word s rest : List Char} (h : afterWord word s = .ok rest) :
    rest.length ≤ s.length := by
  fun_induction afterWord word s with
  | case1 s =>
      obtain rfl : s = rest := by simpa using h
      exact Nat.le_refl _
  | case2 => cases h
  | case3 w word tail ih =>
      have := ih h
      simp only [List.length_cons]
      omega
  | case4 => cases h

/-- A head that is a word, of which the first letter is already read. -/
def wordHead (head : Head) (word s : List Char) : Except Fault (Head × List Char) :=
  match afterWord word s with
  | .error fault => .error fault
  | .ok rest => .ok (head, rest)

/-- **The head of the value at the beginning of a text**, after blanks. -/
def readHead (s : List Char) : Except Fault (Head × List Char) :=
  match skipBlank s with
  | [] => .error .unfinished
  | '[' :: rest => .ok (.array, rest)
  | '\x7b' :: rest => .ok (.object, rest)
  | '"' :: rest =>
      match readText rest with
      | .error fault => .error fault
      | .ok (t, rest) => .ok (.text t, rest)
  | 'n' :: rest => wordHead .null ['u', 'l', 'l'] rest
  | 't' :: rest => wordHead (.bool true) ['r', 'u', 'e'] rest
  | 'f' :: rest => wordHead (.bool false) ['a', 'l', 's', 'e'] rest
  | c :: rest =>
      if c = '-' || c.isDigit then
        match readNumber (c :: rest) with
        | .error fault => .error fault
        | .ok (n, rest) => .ok (.number n, rest)
      else .error .malformed

/-- A word takes characters away. -/
theorem length_of_wordHead {head found : Head} {word s rest : List Char}
    (h : wordHead head word s = .ok (found, rest)) : rest.length ≤ s.length := by
  unfold wordHead at h
  split at h
  · cases h
  · rename_i hword
    simp only [Except.ok.injEq, Prod.mk.injEq] at h
    obtain ⟨-, rfl⟩ := h
    exact length_of_afterWord hword

/-- **A head takes characters away.** -/
theorem length_of_readHead {s rest : List Char} {head : Head} (h : readHead s = .ok (head, rest)) :
    rest.length < s.length := by
  have hblank := length_skipBlank s
  unfold readHead at h
  split at h
  · cases h
  · rename_i hs
    simp only [Except.ok.injEq, Prod.mk.injEq] at h
    obtain ⟨-, rfl⟩ := h
    rw [hs, List.length_cons] at hblank
    omega
  · rename_i hs
    simp only [Except.ok.injEq, Prod.mk.injEq] at h
    obtain ⟨-, rfl⟩ := h
    rw [hs, List.length_cons] at hblank
    omega
  · rename_i hs
    rw [hs, List.length_cons] at hblank
    split at h
    · cases h
    · rename_i htext
      simp only [Except.ok.injEq, Prod.mk.injEq] at h
      obtain ⟨-, rfl⟩ := h
      have := length_of_readText htext
      omega
  · rename_i hs
    rw [hs, List.length_cons] at hblank
    have := length_of_wordHead h
    omega
  · rename_i hs
    rw [hs, List.length_cons] at hblank
    have := length_of_wordHead h
    omega
  · rename_i hs
    rw [hs, List.length_cons] at hblank
    have := length_of_wordHead h
    omega
  · rename_i hs
    rw [hs] at hblank
    split at h
    · split at h
      · cases h
      · rename_i hnumber
        simp only [Except.ok.injEq, Prod.mk.injEq] at h
        obtain ⟨-, rfl⟩ := h
        have := length_of_readNumber hnumber
        omega
    · cases h

end TurnByTurn.Json
