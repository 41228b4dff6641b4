/-! # Sets of code points

A property of characters is kept as ascending ranges of code points.

* **`inRanges`** — membership. The search stops at the first range that begins too late. -/

namespace TurnByTurn.Text

/-- **Whether a code point lies in one of the ascending ranges.** -/
def inRanges : List (Nat × Nat) → Nat → Bool
  | [], _ => false
  | (first, last) :: ranges, c =>
      if c < first then false else if c ≤ last then true else inRanges ranges c

end TurnByTurn.Text
