import TurnByTurn.Text.Blank

/-! # The lines of a settings file

A line of a settings file goes on over line feeds inside quotes and after a backslash, and ends where a
comment begins.

* **`Reading`** — what the characters so far leave open.
* **`Settings.lines`** — the lines, up to one that never ends. -/

namespace TurnByTurn.Settings

/-- **What the characters of a line so far leave open.** -/
inductive Reading where
  | plain
  /-- After a blank, where a comment may begin. -/
  | blank
  /-- After a backslash. -/
  | escape
  | single
  | singleEscape
  | double
  | doubleEscape
deriving DecidableEq, Repr

namespace Reading

/-- What is open after a character outside quotes. -/
def outside (c : Char) : Reading :=
  if c = '\\' then escape else if c = '"' then double else if c = '\'' then single else plain

/-- **What is open after one more character**; none where a comment begins. -/
def next (r : Reading) (c : Char) : Option Reading :=
  match r with
  | plain => some (if Text.isBlank c && c ≠ '\n' && c ≠ '\r' then blank else outside c)
  | blank => if c = '#' then none else some (outside c)
  | escape => some plain
  | single => some (if c = '\\' then singleEscape else if c = '\'' then plain else single)
  | singleEscape => some single
  | double => some (if c = '\\' then doubleEscape else if c = '"' then plain else double)
  | doubleEscape => some double

/-- The characters before a comment, and what they leave open; none if there is a comment. -/
def scan (r : Reading) : List Char → List Char × Option Reading
  | [] => ([], some r)
  | c :: rest =>
      match r.next c with
      | none => ([], none)
      | some r => (c :: (r.scan rest).1, (r.scan rest).2)

end Reading

/-- The parts of a text that end in line feeds, and what comes after the last one. -/
def physicalLines (s : List Char) : List (List Char) :=
  go [] s
where
  /-- The parts when the characters in `line`, the last one first, are already read. -/
  go (line : List Char) : List Char → List (List Char)
    | [] => if line.isEmpty then [] else [line.reverse]
    | '\n' :: rest => ('\n' :: line).reverse :: go [] rest
    | c :: rest => go (c :: line) rest

/-- A line without the line feed at its end. -/
def chomp (line : List Char) : List Char :=
  match line.reverse with
  | '\n' :: '\r' :: rest => rest.reverse
  | '\n' :: rest => rest.reverse
  | _ => line

/-- The lines that begin with what is already read; a line that never ends is none. -/
def gather (r : Reading) (start : List Char) : List (List Char) → List (Option (List Char))
  | [] => if r = .plain then [] else [none]
  | part :: rest =>
      -- a line that is all comment opens no quotes
      if (Text.trimStart (start ++ part)).head? = some '#' then some [] :: gather .plain [] rest
      else
        match r.scan part with
        | (before, none) => some (start ++ before) :: gather .plain [] rest
        | (_, some .plain) => some (chomp (start ++ part)) :: gather .plain [] rest
        | (_, some r) => gather r (start ++ part) rest

/-- **The lines of a settings file.** A line whose quotes are never closed is none. -/
def lines (s : List Char) : List (Option (List Char)) :=
  gather .plain [] (physicalLines (match s with | '\uFEFF' :: rest => rest | _ => s))

end TurnByTurn.Settings
