import TurnByTurn.Decimal.Layout
import TurnByTurn.Text.Quoted

/-! # JSON values and their text

* **`Json.Value`** — a tree of objects, arrays and scalars; the fields of an object keep their order.
* **`Value.compact`** — the text without any blank.
* **`Value.pretty`** — the text on lines, two blanks deeper at every level. -/

namespace TurnByTurn.Json

/-- **A JSON value.** The fields of an object keep their order. -/
inductive Value where
  | null
  | bool (b : Bool)
  | integer (n : Int)
  | real (x : Float)
  | text (s : String)
  | array (elements : List Value)
  | object (fields : List (String × Value))

/-- **Numbers in JSON**: positional for `d.ddd · 10 ^ e` with `e` from -5 to 15, whole numbers with
`.0`, and the even one of two equally near decimals. -/
def numberLayout : Layout := ⟨some (-5, 15), true, .even⟩

namespace Value

/-- A value that may be absent. -/
def ofOption {α : Type} (write : α → Value) : Option α → Value
  | none => null
  | some a => write a

/-! ## Scalars -/

/-- A character inside a string: quotes, backslashes and control characters are escaped. -/
def escape (c : Char) : List Char :=
  if c = '"' then ['\\', '"']
  else if c = '\\' then ['\\', '\\']
  else if c = '\u0008' then ['\\', 'b']
  else if c = '\u000c' then ['\\', 'f']
  else if c = '\n' then ['\\', 'n']
  else if c = '\r' then ['\\', 'r']
  else if c = '\t' then ['\\', 't']
  else if c.toNat < 0x20 then
    ['\\', 'u', '0', '0', Text.hexDigit (c.toNat / 16), Text.hexDigit c.toNat]
  else [c]

/-- A string with its quotes. -/
def textChars (s : String) : List Char := '"' :: s.toList.flatMap escape ++ ['"']

/-- A whole number. -/
def integerChars (n : Int) : List Char :=
  if n < 0 then '-' :: digits n.natAbs else digits n.natAbs

/-- A double; what is not finite has no number in JSON and becomes `null`. -/
def realChars (x : Float) : List Char :=
  match numberLayout.write x with
  | some s => s.toList
  | none => ['n', 'u', 'l', 'l']

/-- The truth values. -/
def boolChars : Bool → List Char
  | true => ['t', 'r', 'u', 'e']
  | false => ['f', 'a', 'l', 's', 'e']

/-! ## Compact text -/

mutual

/-- **The text of a value without any blank.** -/
def compactChars : Value → List Char
  | null => ['n', 'u', 'l', 'l']
  | bool b => boolChars b
  | integer n => integerChars n
  | real x => realChars x
  | text s => textChars s
  | array elements => '[' :: compactElements elements ++ [']']
  | object fields => '\x7b' :: compactFields fields ++ ['\x7d']

/-- Elements with commas between them. -/
def compactElements : List Value → List Char
  | [] => []
  | [v] => compactChars v
  | v :: rest => compactChars v ++ ',' :: compactElements rest

/-- Fields with commas between them. -/
def compactFields : List (String × Value) → List Char
  | [] => []
  | [(key, v)] => textChars key ++ ':' :: compactChars v
  | (key, v) :: rest => textChars key ++ ':' :: compactChars v ++ ',' :: compactFields rest

end

/-- The text of a value without any blank. -/
def compact (v : Value) : String := .ofList (compactChars v)

/-! ## Text on lines -/

/-- The beginning of a line at a depth. -/
def newLine (depth : Nat) : List Char := '\n' :: List.replicate (2 * depth) ' '

mutual

/-- **The text of a value on lines**, at the given depth. Empty arrays and objects stay on theirs. -/
def prettyChars (depth : Nat) : Value → List Char
  | null => ['n', 'u', 'l', 'l']
  | bool b => boolChars b
  | integer n => integerChars n
  | real x => realChars x
  | text s => textChars s
  | array [] => ['[', ']']
  | array (v :: rest) => '[' :: prettyElements (depth + 1) (v :: rest) ++ newLine depth ++ [']']
  | object [] => ['\x7b', '\x7d']
  | object (f :: rest) =>
      '\x7b' :: prettyFields (depth + 1) (f :: rest) ++ newLine depth ++ ['\x7d']

/-- Elements, each on a line of its own. -/
def prettyElements (depth : Nat) : List Value → List Char
  | [] => []
  | [v] => newLine depth ++ prettyChars depth v
  | v :: rest => newLine depth ++ prettyChars depth v ++ ',' :: prettyElements depth rest

/-- Fields, each on a line of its own. -/
def prettyFields (depth : Nat) : List (String × Value) → List Char
  | [] => []
  | [(key, v)] => newLine depth ++ textChars key ++ ':' :: ' ' :: prettyChars depth v
  | (key, v) :: rest =>
      newLine depth ++ textChars key ++ ':' :: ' ' :: prettyChars depth v
        ++ ',' :: prettyFields depth rest

end

/-- The text of a value on lines. -/
def pretty (v : Value) : String := .ofList (prettyChars 0 v)

end Value

end TurnByTurn.Json
