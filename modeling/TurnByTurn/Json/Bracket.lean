import TurnByTurn.Json.Head

/-! # Signs inside arrays and objects

Elements are divided by commas and end at the closing bracket; keys and values are divided by colons.

* **`nextElement`** — where the next element of an array begins, or the array's end.
* **`nextQuote`**, **`nextKey`** — the next key of an object, or the object's end.
* **`afterColon`** — what follows the colon after a key. -/

namespace TurnByTurn.Json

/-! ## Arrays -/

/-- **The next element of an array, or its end**: `true` and where the element begins, or `false` and
what follows the closing bracket. All elements but the first come after a comma. -/
def nextElement (first : Bool) (s : List Char) : Except Fault (Bool × List Char) :=
  match skipBlank s with
  | [] => .error .unfinished
  | ']' :: rest => .ok (false, rest)
  | c :: rest =>
      if first then .ok (true, c :: rest)
      else if c = ',' then .ok (true, rest)
      else .error .malformed

/-- An element begins no earlier than where it was looked for. -/
theorem length_of_nextElement {first more : Bool} {s rest : List Char}
    (h : nextElement first s = .ok (more, rest)) : rest.length ≤ s.length := by
  have hblank := length_skipBlank s
  unfold nextElement at h
  split at h
  · cases h
  · rename_i hs
    simp only [Except.ok.injEq, Prod.mk.injEq] at h
    obtain ⟨-, rfl⟩ := h
    rw [hs, List.length_cons] at hblank
    omega
  · rename_i hs
    rw [hs, List.length_cons] at hblank
    split at h
    · simp only [Except.ok.injEq, Prod.mk.injEq] at h
      obtain ⟨-, rfl⟩ := h
      exact hblank
    · split at h
      · simp only [Except.ok.injEq, Prod.mk.injEq] at h
        obtain ⟨-, rfl⟩ := h
        omega
      · cases h

/-- The end of an array takes characters away. -/
theorem length_of_lastElement {first : Bool} {s rest : List Char}
    (h : nextElement first s = .ok (false, rest)) : rest.length < s.length := by
  have hblank := length_skipBlank s
  unfold nextElement at h
  split at h
  · cases h
  · rename_i hs
    simp only [Except.ok.injEq, Prod.mk.injEq] at h
    obtain ⟨-, rfl⟩ := h
    rw [hs, List.length_cons] at hblank
    omega
  · split at h
    · cases h
    · split at h <;> cases h

/-! ## Objects -/

/-- What follows the opening quote of a key. -/
def afterQuote (s : List Char) : Except Fault (Bool × List Char) :=
  match s with
  | [] => .error .unfinished
  | '"' :: rest => .ok (true, rest)
  | _ => .error .malformed

/-- **The next key of an object, or its end**: `true` and what follows the key's opening quote, or
`false` and what follows the closing brace. All keys but the first come after a comma. -/
def nextQuote (first : Bool) (s : List Char) : Except Fault (Bool × List Char) :=
  match skipBlank s with
  | [] => .error .unfinished
  | '\x7d' :: rest => .ok (false, rest)
  | ',' :: rest => if first then .error .malformed else afterQuote (skipBlank rest)
  | c :: rest => if first then afterQuote (c :: rest) else .error .malformed

/-- An opening quote takes a character away. -/
theorem length_of_afterQuote {s rest : List Char} {more : Bool}
    (h : afterQuote s = .ok (more, rest)) : rest.length < s.length := by
  unfold afterQuote at h
  split at h
  · cases h
  · simp only [Except.ok.injEq, Prod.mk.injEq] at h
    obtain ⟨-, rfl⟩ := h
    simp
  · cases h

/-- An opening quote, or the end, takes characters away. -/
theorem length_of_nextQuote {first more : Bool} {s rest : List Char}
    (h : nextQuote first s = .ok (more, rest)) : rest.length < s.length := by
  have hblank := length_skipBlank s
  unfold nextQuote at h
  split at h
  · cases h
  · rename_i hs
    simp only [Except.ok.injEq, Prod.mk.injEq] at h
    obtain ⟨-, rfl⟩ := h
    rw [hs, List.length_cons] at hblank
    omega
  · rename_i tail hs
    rw [hs, List.length_cons] at hblank
    split at h
    · cases h
    · have := length_of_afterQuote h
      have := length_skipBlank tail
      omega
  · rename_i hs
    rw [hs] at hblank
    split at h
    · have := length_of_afterQuote h
      omega
    · cases h

/-- **The next key of an object**, or none and what follows the object. -/
def nextKey (first : Bool) (s : List Char) : Except Fault (Option String × List Char) :=
  match nextQuote first s with
  | .error fault => .error fault
  | .ok (false, rest) => .ok (none, rest)
  | .ok (true, rest) =>
      match readText rest with
      | .error fault => .error fault
      | .ok (t, rest) => .ok (some t, rest)

/-- A key, or the end, takes characters away. -/
theorem length_of_nextKey {first : Bool} {s rest : List Char} {t : Option String}
    (h : nextKey first s = .ok (t, rest)) : rest.length < s.length := by
  unfold nextKey at h
  split at h
  · cases h
  · rename_i hquote
    simp only [Except.ok.injEq, Prod.mk.injEq] at h
    obtain ⟨-, rfl⟩ := h
    exact length_of_nextQuote hquote
  · rename_i hquote
    have := length_of_nextQuote hquote
    split at h
    · cases h
    · rename_i htext
      simp only [Except.ok.injEq, Prod.mk.injEq] at h
      obtain ⟨-, rfl⟩ := h
      have := length_of_readText htext
      omega

/-- **What follows the colon after a key.** -/
def afterColon (s : List Char) : Except Fault (List Char) :=
  match skipBlank s with
  | [] => .error .unfinished
  | ':' :: rest => .ok rest
  | _ => .error .malformed

/-- A colon takes characters away. -/
theorem length_of_afterColon {s rest : List Char} (h : afterColon s = .ok rest) :
    rest.length < s.length := by
  have hblank := length_skipBlank s
  unfold afterColon at h
  split at h
  · cases h
  · rename_i hs
    simp only [Except.ok.injEq] at h
    subst h
    rw [hs, List.length_cons] at hblank
    omega
  · cases h

end TurnByTurn.Json
