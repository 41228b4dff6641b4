import TurnByTurn.Json.Decoder
import TurnByTurn.Json.Skip

/-! # Records

A record is written as an object, with its fields in any order, or as an array, with its fields in the
order of their declaration. While it is read, its fields are collected in a draft.

* **`Field`** — a field of a record whose draft is a `σ`.
* **`Record`** — the fields together, and how a draft becomes a value.
* **`Record.decoder`** — reads a record in either form. -/

namespace TurnByTurn.Json

/-- **A field of a record.** -/
structure Field (σ : Type) where
  key : String
  /-- Whether the draft has the field already. -/
  isSet : σ → Bool
  /-- Whether the field has a default, so that an array may end before it. -/
  hasDefault : Bool
  /-- Reads the field's value, to be put into the draft. -/
  decoder : Decoder (σ → σ)

/-- A field that is kept in an optional place of the draft. -/
def Field.of {σ α : Type} (key : String) (hasDefault : Bool) (decoder : Decoder α)
    (get : σ → Option α) (set : α → σ → σ) : Field σ where
  key := key
  isSet draft := (get draft).isSome
  hasDefault := hasDefault
  decoder := decoder.map set

/-- **A record**: its name in messages, its fields in the order of their declaration, whether other
fields are refused, the draft without any field, and how a draft becomes a value. -/
structure Record (σ α : Type) where
  name : String
  fields : List (Field σ)
  strict : Bool
  blank : σ
  finish : σ → Except Mismatch α

/-- The value of a field that must not be missing. -/
def need {α : Type} (key : String) : Option α → Except Mismatch α
  | some a => .ok a
  | none => .error (.missingField key)

namespace Record

variable {σ α : Type}

/-- The value of a draft, with what follows the record. -/
def done (record : Record σ α) (draft : σ) (rest : List Char) : Except Fault (α × List Char) :=
  match record.finish draft with
  | .error m => .error (.mismatch m)
  | .ok a => .ok (a, rest)

/-- The value of a draft takes no characters back. -/
theorem rest_of_done {record : Record σ α} {draft : σ} {s rest : List Char} {a : α}
    (h : record.done draft s = .ok (a, rest)) : rest = s := by
  unfold done at h
  split at h
  · cases h
  · simp only [Except.ok.injEq, Prod.mk.injEq] at h
    exact h.2.symm

/-! ## Objects -/

/-- The field with a key. -/
def field? (record : Record σ α) (key : String) : Option (Field σ) :=
  record.fields.find? (·.key = key)

/-- **The members of an object** from the given place on, for a draft of those before. A key is judged
before its value is read. -/
def members (record : Record σ α) (draft : σ) (first : Bool) (s : List Char) :
    Except Fault (α × List Char) :=
  match h : nextKey first s with
  | .error fault => .error fault
  | .ok (none, rest) => record.done draft rest
  | .ok (some key, rest) =>
      have := length_of_nextKey h
      match record.field? key with
      | some field =>
          -- a repeated key is refused before its colon is looked for
          if field.isSet draft then .error (.mismatch (.duplicateField key))
          else
            match h₁ : afterColon rest with
            | .error fault => .error fault
            | .ok value =>
                match h₂ : field.decoder.read value with
                | .error fault => .error fault
                | .ok (put, rest) =>
                    have := length_of_afterColon h₁
                    have := Decoder.length_of_read h₂
                    record.members (put draft) false rest
      | none =>
          if record.strict then
            .error (.mismatch (.unknownField key (record.fields.map (·.key))))
          else
            match h₁ : afterColon rest with
            | .error fault => .error fault
            | .ok value =>
                match skipValue value with
                | .error fault => .error fault
                | .ok ⟨rest, _⟩ =>
                    have := length_of_afterColon h₁
                    record.members draft false rest
termination_by s.length

/-- The members of an object take characters away. -/
theorem length_of_members {record : Record σ α} {draft : σ} {first : Bool} {s rest : List Char}
    {a : α} (h : record.members draft first s = .ok (a, rest)) : rest.length < s.length := by
  fun_induction members record draft first s with
  | case1 => cases h
  | case2 draft first s tail hnext =>
      obtain rfl := rest_of_done h
      exact length_of_nextKey hnext
  | case3 => cases h
  | case4 => cases h
  | case5 => cases h
  | case6 =>
      rename_i ih
      have := ih h
      omega
  | case7 => cases h
  | case8 => cases h
  | case9 => cases h
  | case10 =>
      rename_i ih
      have := ih h
      omega

/-! ## Arrays -/

/-- The closing bracket of an array that has given all its fields. -/
def closing (s : List Char) : Except Fault (List Char) :=
  match skipBlank s with
  | [] => .error .unfinished
  | ']' :: rest => .ok rest
  | _ => .error .malformed

/-- A closing bracket takes characters away. -/
theorem length_of_closing {s rest : List Char} (h : closing s = .ok rest) :
    rest.length < s.length := by
  have hblank := length_skipBlank s
  unfold closing at h
  split at h
  · cases h
  · rename_i hs
    simp only [Except.ok.injEq] at h
    subst h
    rw [hs, List.length_cons] at hblank
    omega
  · cases h

/-- **The elements of an array** from the given place on, for the fields that are still to come. The
array may end before fields that have defaults; `read` fields came before. -/
def positions (record : Record σ α) (draft : σ) (read : Nat) (s : List Char) :
    List (Field σ) → Except Fault (α × List Char)
  | [] =>
      match closing s with
      | .error fault => .error fault
      | .ok rest => record.done draft rest
  | field :: fields =>
      match nextElement (read = 0) s with
      | .error fault => .error fault
      | .ok (false, rest) =>
          -- fields with defaults count as read
          match (field :: fields).findIdx? (!·.hasDefault) with
          | some missing =>
              .error (.mismatch (.wrongLength (read + missing) record.name record.fields.length))
          | none => record.done draft rest
      | .ok (true, element) =>
          match field.decoder.read element with
          | .error fault => .error fault
          | .ok (put, rest) => record.positions (put draft) (read + 1) rest fields

/-- The elements of an array take characters away. -/
theorem length_of_positions {record : Record σ α} {draft : σ} {read : Nat} {s rest : List Char}
    {fields : List (Field σ)} {a : α}
    (h : record.positions draft read s fields = .ok (a, rest)) : rest.length < s.length := by
  induction fields generalizing draft read s with
  | nil =>
      unfold positions at h
      split at h
      · cases h
      · rename_i hclose
        obtain rfl := rest_of_done h
        exact length_of_closing hclose
  | cons field fields ih =>
      unfold positions at h
      split at h
      · cases h
      · rename_i hnext
        split at h
        · cases h
        · obtain rfl := rest_of_done h
          exact length_of_lastElement hnext
      · rename_i hnext
        have := length_of_nextElement hnext
        split at h
        · cases h
        · rename_i hread
          have := Decoder.length_of_read hread
          have := ih h
          omega

/-! ## Either form -/

/-- **Reads a record**, as an object or as an array. -/
def decoder (record : Record σ α) : Decoder α where
  ofHead
    | .object, s => record.members record.blank true s
    | .array, s => record.positions record.blank 0 s record.fields
    | head, _ => .error (.mismatch (.wrongType head.found ("struct " ++ record.name)))
  length_le h := by
    split at h
    · exact Nat.le_of_lt (length_of_members h)
    · exact Nat.le_of_lt (length_of_positions h)
    · cases h

end Record

end TurnByTurn.Json
