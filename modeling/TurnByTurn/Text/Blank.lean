import TurnByTurn.Text.Ranges

/-! # White space and lines

White space is the Unicode property of that name, 25 characters. Lines end in a line feed, before
which a carriage return belongs to the line's end.

* **`isBlank`** — the property.
* **`trim`** — a text without the white space around it.
* **`lines`** — the lines of a text. -/

namespace TurnByTurn.Text

/-- The code points of white space. -/
def blankRanges : List (Nat × Nat) := [
  (0x9, 0xD), (0x20, 0x20), (0x85, 0x85), (0xA0, 0xA0), (0x1680, 0x1680), (0x2000, 0x200A),
  (0x2028, 0x2029), (0x202F, 0x202F), (0x205F, 0x205F), (0x3000, 0x3000)]

/-- Whether a character is white space. -/
def isBlank (c : Char) : Bool := inRanges blankRanges c.toNat

/-- A text without the white space at its beginning. -/
def trimStart (s : List Char) : List Char := s.dropWhile isBlank

/-- A text without the white space at its end. -/
def trimEnd (s : List Char) : List Char := (s.reverse.dropWhile isBlank).reverse

/-- **A text without the white space around it.** -/
def trim (s : List Char) : List Char := trimEnd (trimStart s)

@[simp] theorem trimStart_nil : trimStart [] = [] := rfl

@[simp] theorem trimEnd_nil : trimEnd [] = [] := rfl

@[simp] theorem trim_nil : trim [] = [] := rfl

/-- A blank at the end does not change what is left. -/
theorem trimEnd_concat_of_isBlank {c : Char} (s : List Char) (h : isBlank c = true) :
    trimEnd (s ++ [c]) = trimEnd s := by simp [trimEnd, h]

/-! ## Lines -/

/-- The lines of a text of which the characters in `line`, the last one first, are already read. -/
def linesAfter (line : List Char) : List Char → List (List Char)
  | [] => if line.isEmpty then [] else [line.reverse]
  | '\n' :: rest =>
      (match line with
        | '\r' :: start => start.reverse
        | start => start.reverse) :: linesAfter [] rest
  | c :: rest => linesAfter (c :: line) rest

/-- **The lines of a text.** A line feed ends a line, together with a carriage return before it; a
text that ends in one has no further line. -/
def lines (s : List Char) : List (List Char) := linesAfter [] s

/-- The empty text has no line. -/
@[simp] theorem lines_nil : lines [] = [] := rfl

end TurnByTurn.Text
