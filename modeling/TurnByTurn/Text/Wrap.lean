import TurnByTurn.Text.Cluster
import TurnByTurn.Text.Width

/-! # Lines of limited width

A line that is too wide is divided at its blanks, and a word that is too wide for a line of its own
between its clusters.

* **`Line.room`** — the columns that are left for a word.
* **`Filling.place`** — a word after the lines that are there.
* **`wrap`** — a line, divided if it is too wide. -/

namespace TurnByTurn.Text

/-! ## Lines -/

/-- **A line that is being filled**, and its columns. -/
structure Line where
  /-- Its characters, the last one first. -/
  backward : List Char := []
  columns : Nat := 0

namespace Line

/-- The characters of the line. -/
def toList (l : Line) : List Char := l.backward.reverse

/-- The line with a word after it, and a blank between them unless the line is empty. -/
def add (l : Line) (word : List Char) : Line :=
  if l.backward.isEmpty then ⟨word.reverse, width word⟩
  else ⟨word.reverse ++ ' ' :: l.backward, l.columns + 1 + width word⟩

/-- **The columns that are left for a word.** -/
def room (limit : Nat) (l : Line) : Nat :=
  if l.backward.isEmpty then limit else limit - l.columns - 1

end Line

/-! ## Words -/

/-- How many characters of whole clusters fit into some columns, besides those already counted. -/
def fittingLength (counted room : Nat) : List (List Char) → Nat
  | [] => counted
  | cluster :: rest =>
      if width cluster ≤ room then
        fittingLength (counted + cluster.length) (room - width cluster) rest
      else counted

/-- How many characters of a word fit into some columns. -/
def headLength (room : Nat) (word : List Char) : Nat := fittingLength 0 room (clusters word)

/-! ## Filling -/

/-- **Lines that are complete**, the last one first, **and the line that is being filled.** -/
structure Filling where
  complete : List (List Char) := []
  line : Line := {}

namespace Filling

/-- A line after complete ones. It is complete as well when it has no more than one column left for
characters. -/
def settle (limit : Nat) (complete : List (List Char)) (line : Line) : Filling :=
  if limit - 2 < line.columns then ⟨line.toList :: complete, {}⟩ else ⟨complete, line⟩

/-- A word at the beginning of a line. As much of it as fits is a line of its own, and be it a single
character, as long as the rest is too wide. -/
def start (limit : Nat) (complete : List (List Char)) (word : List Char) : Filling :=
  if _h : width word ≤ limit then settle limit complete (Line.add {} word)
  else
    let n := max 1 (headLength limit word)
    start limit (word.take n :: complete) (word.drop n)
termination_by word.length
decreasing_by
  have : word ≠ [] := by
    rintro rfl
    simp at _h
  have := List.length_pos_iff.2 this
  simp only [List.length_drop]
  omega

/-- **A word after the lines that are there.** A word that is too wide for any line begins on the line
that is being filled, unless hardly anything is left there. -/
def place (limit : Nat) (f : Filling) (word : List Char) : Filling :=
  let longer := f.line.add word
  let room := f.line.room limit
  if longer.columns ≤ limit then settle limit f.complete longer
  else if f.line.backward.isEmpty then start limit f.complete word
  else if 2 < room ∧ limit < width word then
    let n := headLength room word
    start limit ((f.line.add (word.take n)).toList :: f.complete) (word.drop n)
  else start limit (f.line.toList :: f.complete) word

/-- All lines, in their order. -/
def toList (f : Filling) : List (List Char) :=
  if f.line.backward.isEmpty then f.complete.reverse
  else (f.line.toList :: f.complete).reverse

end Filling

/-- **A line, divided if it is too wide.** -/
def wrap (limit : Nat) (line : List Char) : List (List Char) :=
  if width line ≤ limit then [line]
  else ((line.splitOn ' ').foldl (Filling.place limit) {}).toList

end TurnByTurn.Text
