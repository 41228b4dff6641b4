import TurnByTurn.Text.Ranges
import TurnByTurn.Text.CaseRanges

/-! # Small letters

The small form of a text after the full Unicode rules: most capitals have one small letter, the
capital I with a dot has two characters, and a capital sigma at the end of a word takes its final
form.

* **`lowerChar`** — the small letter of one character.
* **`lowercase`** — the small form of a text. -/

namespace TurnByTurn.Text

/-- The small letter's code point, found among ascending ranges. -/
def lowerIn : List CaseRange → Nat → Nat
  | [], c => c
  | range :: ranges, c =>
      if c < range.first then c
      else if c ≤ range.last ∧ (c - range.first) % range.step = 0 then (c + range.shift).toNat
      else lowerIn ranges c

/-- **The small letter of a character**, the character itself where there is none. -/
def lowerChar (c : Char) : Char := .ofNat (lowerIn lowercaseRanges c.toNat)

/-- Whether a character is passed over in the search for a word's end. -/
def isCaseIgnorable (c : Char) : Bool := inRanges caseIgnorableRanges c.toNat

/-- Whether a character that is not passed over has a case. -/
def isCased (c : Char) : Bool := inRanges casedRanges c.toNat

/-- Whether a letter follows, past the characters that are passed over. -/
def letterFollows (rest : List Char) : Bool :=
  match rest.dropWhile isCaseIgnorable with
  | [] => false
  | c :: _ => isCased c

/-- The small form of the rest of a text; the flag says whether a letter came before it. -/
def lowercaseAfter (letterBefore : Bool) : List Char → List Char
  | [] => []
  | c :: rest =>
      -- only the sigma depends on its neighbours
      let small :=
        if c = 'Σ' then [if letterBefore && !letterFollows rest then 'ς' else 'σ']
        else if c = 'İ' then ['i', '\u0307']
        else [lowerChar c]
      small ++ lowercaseAfter (if isCaseIgnorable c then letterBefore else isCased c) rest

/-- **The small form of a text.** A sigma that ends a word — a letter before it and none after it —
is written `ς`. -/
def lowercase (s : String) : String := .ofList (lowercaseAfter false s.toList)

/-- The empty text is small. -/
@[simp] theorem lowercaseAfter_nil (letterBefore : Bool) : lowercaseAfter letterBefore [] = [] := rfl

end TurnByTurn.Text
