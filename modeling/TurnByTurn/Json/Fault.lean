import TurnByTurn.Json.Value

/-! # What can be wrong with a JSON text

A text can end too early, be no JSON, or be JSON of the wrong shape.

* **`Fault`** — the three cases.
* **`Mismatch`** — a wrong shape: fields, types, ranges, lengths.
* **`Mismatch.message`** — the sentence for it. -/

namespace TurnByTurn.Json

/-- What was found where something else was expected. -/
inductive Found where
  | null
  | bool (b : Bool)
  | integer (n : Int)
  | real (x : Float)
  | text (s : String)
  | sequence
  | map

/-- **A shape that is not the expected one.** -/
inductive Mismatch where
  | unknownField (name : String) (expected : List String)
  | missingField (name : String)
  | duplicateField (name : String)
  | wrongType (found : Found) (expected : String)
  | wrongInteger (n : Int) (expected : String)
  | wrongLength (length : Nat) (record : String) (elements : Nat)
  | unknownVariant (name : String) (expected : List String)

/-- **What is wrong with a JSON text.** -/
inductive Fault where
  /-- The text ends too early. -/
  | unfinished
  /-- The text is no JSON, or goes on after its value. -/
  | malformed
  /-- The text has another shape than expected. -/
  | mismatch (m : Mismatch)

/-- A word in backquotes. -/
def backquoted (s : String) : String := "\x60" ++ s ++ "\x60"

/-- What was found, in words. -/
def Found.describe : Found → String
  | null => "null"
  | bool b => "boolean " ++ backquoted (.ofList (Value.boolChars b))
  | integer n => "integer " ++ backquoted (.ofList (Value.integerChars n))
  | real x => "floating point " ++ backquoted (.ofList (Value.realChars x))
  | text s => "string " ++ Text.quoted s
  | sequence => "sequence"
  | map => "map"

/-- A choice of names, in words. -/
def choice : List String → String
  | [] => ""
  | [a] => backquoted a
  | [a, b] => backquoted a ++ " or " ++ backquoted b
  | names => "one of " ++ ", ".intercalate (names.map backquoted)

/-- **The sentence that tells which shape was not met.** -/
def Mismatch.message : Mismatch → String
  | unknownField name expected =>
      "unknown field " ++ backquoted name ++ ", expected " ++ choice expected
  | missingField name => "missing field " ++ backquoted name
  | duplicateField name => "duplicate field " ++ backquoted name
  | wrongType found expected => "invalid type: " ++ found.describe ++ ", expected " ++ expected
  | wrongInteger n expected =>
      "invalid value: " ++ (Found.integer n).describe ++ ", expected " ++ expected
  | wrongLength length record elements =>
      "invalid length " ++ toString length ++ ", expected struct " ++ record ++ " with "
        ++ toString elements ++ (if elements = 1 then " element" else " elements")
  | unknownVariant name expected =>
      "unknown variant " ++ backquoted name ++ ", expected " ++ choice expected

end TurnByTurn.Json
