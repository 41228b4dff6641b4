import TurnByTurn.Settings.Lines
import TurnByTurn.Text.Ranges
import TurnByTurn.Text.WordRanges

/-! # The bindings of a settings file

A binding gives a value to a name: `NAME=value`, perhaps after the word `export`. Values may be quoted,
and may refer to other names as `$NAME` or `$` with the name in braces.

* **`Part`** — a character or a reference.
* **`Binding`** — a name and its value.
* **`Settings.bindings`** — the bindings of a text, up to the first mistake. -/

namespace TurnByTurn.Settings

/-- A part of a value. -/
inductive Part where
  | character (c : Char)
  | reference (name : List Char)
deriving DecidableEq, Repr

/-- **A name and its value.** -/
structure Binding where
  name : String
  value : List Part
deriving DecidableEq, Repr

/-! ## Values -/

/-- The character that a backslash makes of the one after it. -/
def unescape? (c : Char) : Option Char :=
  if c = 'n' then some '\n'
  else if c ∈ ['\\', '\'', '"', '$', ' '] then some c
  else none

/-- Whether a character belongs to the name of a reference: a letter or a number of any script. -/
def isNameChar (c : Char) : Bool := Text.inRanges Text.wordRanges c.toNat

/-- After the value only blanks and a comment may come. -/
def ended : List Char → Option (List Part)
  | [] => some []
  | c :: rest => if c = ' ' ∨ c = '\t' then ended rest else if c = '#' then some [] else none

mutual

/-- **The pieces of a value**; `quoted` says whether a double quote is open. A quote that is never closed
is a mistake. -/
def pieces (quoted : Bool) : List Char → Option (List Part)
  | [] => if quoted then none else some []
  | c :: rest =>
      if c = '$' then reference quoted [] rest
      else if c = '\\' then escaped quoted rest
      else if c = '"' then pieces (!quoted) rest
      -- blanks and single quotes are ordinary inside double quotes
      else if quoted then (pieces quoted rest).map (.character c :: ·)
      else if c = '\'' then single rest
      else if c = ' ' ∨ c = '\t' then ended rest
      else (pieces quoted rest).map (.character c :: ·)

/-- The pieces after a backslash. -/
def escaped (quoted : Bool) : List Char → Option (List Part)
  | [] => if quoted then none else some []
  | c :: rest =>
      match unescape? c with
      | some c => (pieces quoted rest).map (.character c :: ·)
      | none => none

/-- The pieces after a single quote, up to the next one without any escape. -/
def single : List Char → Option (List Part)
  | [] => none
  | c :: rest => if c = '\'' then pieces false rest else (single rest).map (.character c :: ·)

/-- The pieces after a dollar sign and the beginning of a name. The character after the name is an
ordinary one, whatever it is. -/
def reference (quoted : Bool) (name : List Char) : List Char → Option (List Part)
  | [] => if quoted then none else some [.reference name]
  | c :: rest =>
      if isNameChar c then reference quoted (name ++ [c]) rest
      else if c = '\x7b' ∧ name = [] then braced quoted [] rest
      -- one reference right after another
      else if c = '$' then (reference quoted [] rest).map (.reference name :: ·)
      else (pieces quoted rest).map fun ps => .reference name :: .character c :: ps

/-- The pieces after a dollar sign, an opening brace and the beginning of a name. -/
def braced (quoted : Bool) (name : List Char) : List Char → Option (List Part)
  | [] => none
  | c :: rest =>
      if c = '\x7d' then (pieces quoted rest).map (.reference name :: ·)
      else braced quoted (name ++ [c]) rest

end

/-! ## Lines -/

/-- The name at the beginning of a line and what follows it and the blanks after it. -/
def takeName? (s : List Char) : Option (List Char × List Char) :=
  match s with
  | [] => none
  | c :: _ =>
      if c.isAlpha || c = '_' then
        let inName (c : Char) : Bool := c.isAlphanum || c = '_' || c = '.'
        some (s.takeWhile inName, Text.trimStart (s.dropWhile inName))
      else none

/-- The name that gets a value, and what follows the equals sign and the blanks after it. The word
`export` before the name is passed over, but may itself be the name. -/
def takeTarget? (s : List Char) : Option (List Char × List Char) :=
  match takeName? s with
  | some (name, '=' :: rest) => some (name, Text.trimStart rest)
  | some (['e', 'x', 'p', 'o', 'r', 't'], rest) =>
      match takeName? rest with
      | some (name, '=' :: rest) => some (name, Text.trimStart rest)
      | _ => none
  | _ => none

/-- What a line says. -/
inductive Statement where
  | nothing
  | binding (b : Binding)
  | mistake
deriving DecidableEq, Repr

/-- **What a line says.** -/
def statement (line : List Char) : Statement :=
  match Text.trim line with
  | [] => .nothing
  | '#' :: _ => .nothing
  | line =>
      match takeTarget? line with
      | none => .mistake
      | some (name, []) => .binding ⟨.ofList name, []⟩
      | some (name, '#' :: _) => .binding ⟨.ofList name, []⟩
      | some (name, value) =>
          match pieces false value with
          | some ps => .binding ⟨.ofList name, ps⟩
          | none => .mistake

/-- The bindings of lines, up to the first mistake. -/
def bindingsOf : List (Option (List Char)) → List Binding
  | [] => []
  | none :: _ => []
  | some line :: rest =>
      match statement line with
      | .nothing => bindingsOf rest
      | .binding b => b :: bindingsOf rest
      | .mistake => []

/-- **The bindings of a settings file**, up to the first mistake. -/
def bindings (s : String) : List Binding := bindingsOf (lines s.toList)

end TurnByTurn.Settings
