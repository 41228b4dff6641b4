import TurnByTurn.Text.Marks
import TurnByTurn.Text.Unprintable

/-! # Quoted text

A text in double quotes for use inside a message, with escapes for everything that would not show.

* **`quoted`** — the text in quotes. -/

namespace TurnByTurn.Text

/-- A digit of base sixteen, with small letters. -/
def hexDigit (n : Nat) : Char := (Nat.toDigits 16 (n % 16)).headD '0'

/-- **Whether a character would not show as itself** between quotes: it cannot be printed, is ignored, or
joins the character before it. -/
def isHidden (c : Char) : Bool := isMark c || isIgnorable c || isUnprintable c

/-- A character as it stands between the quotes. -/
def quotedChar (c : Char) : List Char :=
  if c = '\u0000' then ['\\', '0']
  else if c = '\t' then ['\\', 't']
  else if c = '\r' then ['\\', 'r']
  else if c = '\n' then ['\\', 'n']
  else if c = '"' then ['\\', '"']
  else if c = '\\' then ['\\', '\\']
  else if isHidden c then
    ['\\', 'u', '\x7b'] ++ Nat.toDigits 16 c.toNat ++ ['\x7d']
  else [c]

/-- **The text in double quotes.** -/
def quoted (s : String) : String := .ofList ('"' :: s.toList.flatMap quotedChar ++ ['"'])

end TurnByTurn.Text
