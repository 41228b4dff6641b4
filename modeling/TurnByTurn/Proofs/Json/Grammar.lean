import Mathlib.Data.List.Forall2
import TurnByTurn.Json.Number

/-! # The grammar of JSON

A JSON text is a tree that is written down with blanks where they may stand. One tree has many texts:
strings can be escaped in several ways, and a number keeps the digits that it was written with.

* **`Node`** — what a text holds: scalars, arrays, and objects with their members in order.
* **`Literal.Spells`** — the ways to write a number.
* **`SpellsText`** — the ways to write a string.
* **`Spells`** — the ways to write a tree.
* **`IsDocument`** — the ways to write a whole text. -/

namespace TurnByTurn.Json

/-- **What a JSON text holds.** The members of an object keep their order, and a key may come twice. -/
inductive Node where
  | null
  | bool (b : Bool)
  | number (literal : Literal)
  | text (s : String)
  | array (elements : List Node)
  | object (members : List (String × Node))

/-- Blanks, as many as there are. -/
def AreBlanks (s : List Char) : Prop := ∀ c ∈ s, c ∈ [' ', '\n', '\t', '\r']

/-! ## Numbers -/

/-- Digits, at least one of them. -/
def AreDigits (ds : List Char) : Prop := ds ≠ [] ∧ ∀ c ∈ ds, c.isDigit = true

/-- **The digits of a whole number**: no zero stands before another digit. -/
def AreWholeDigits (ds : List Char) : Prop := AreDigits ds ∧ (ds.head? = some '0' → ds = ['0'])

/-- The digits of a fraction come after a point. -/
inductive SpellsFraction : List Char → List Char → Prop
  | absent : SpellsFraction [] []
  | present {ds : List Char} : AreDigits ds → SpellsFraction ds ('.' :: ds)

/-- The sign of an exponent: a plus may stand or not. -/
inductive SpellsSign : Bool → List Char → Prop
  | unsigned : SpellsSign false []
  | plus : SpellsSign false ['+']
  | minus : SpellsSign true ['-']

/-- The sign and the digits of an exponent come after a letter of either case. -/
inductive SpellsExponent : Option (Bool × List Char) → List Char → Prop
  | absent : SpellsExponent none []
  | present {letter : Char} {negative : Bool} {sign ds : List Char} : letter = 'e' ∨ letter = 'E' →
      SpellsSign negative sign → AreDigits ds →
        SpellsExponent (some (negative, ds)) (letter :: (sign ++ ds))

/-- **The ways to write a number.** -/
inductive Literal.Spells : Literal → List Char → Prop
  | mk {whole fraction fractionText exponentText : List Char} {exponent : Option (Bool × List Char)}
      (negative : Bool) : AreWholeDigits whole → SpellsFraction fraction fractionText →
      SpellsExponent exponent exponentText →
        Spells ⟨negative, whole, fraction, exponent⟩
          ((if negative then ['-'] else []) ++ (whole ++ (fractionText ++ exponentText)))

/-! ## Strings -/

/-- A digit of base sixteen and its value, in either case. -/
def IsHexDigit (c : Char) (value : ℕ) : Prop :=
  "0123456789abcdef".toList[value]? = some c ∨ "0123456789ABCDEF".toList[value]? = some c

/-- Four digits of base sixteen and their value. -/
inductive AreHexDigits : List Char → ℕ → Prop
  | mk {a b c d : Char} {i j k l : ℕ} : IsHexDigit a i → IsHexDigit b j → IsHexDigit c k →
      IsHexDigit d l → AreHexDigits [a, b, c, d] (4096 * i + 256 * j + 16 * k + l)

/-- The letters that stand for a character after a backslash. -/
def escapeLetters : List (Char × Char) :=
  [('"', '"'), ('\\', '\\'), ('/', '/'), ('b', '\u0008'), ('f', '\u000c'), ('n', '\n'), ('r', '\r'),
    ('t', '\t')]

/-- **The ways to write a character inside a string**: as it is, unless it is a quote, a backslash or a
control character; by a letter after a backslash; by its number in base sixteen; or, beyond U+FFFF, by a
leading and a trailing surrogate. -/
inductive SpellsChar : Char → List Char → Prop
  | plain {c : Char} : c ≠ '"' → c ≠ '\\' → 0x20 ≤ c.toNat → SpellsChar c [c]
  | letter {letter c : Char} : (letter, c) ∈ escapeLetters → SpellsChar c ['\\', letter]
  | number {ds : List Char} {n : ℕ} : AreHexDigits ds n → ¬(0xD800 ≤ n ∧ n ≤ 0xDFFF) →
      SpellsChar (.ofNat n) ('\\' :: 'u' :: ds)
  | pair {ds es : List Char} {lead trail : ℕ} : AreHexDigits ds lead → AreHexDigits es trail →
      0xD800 ≤ lead ∧ lead ≤ 0xDBFF → 0xDC00 ≤ trail ∧ trail ≤ 0xDFFF →
        SpellsChar (.ofNat (0x10000 + 0x400 * (lead - 0xD800) + (trail - 0xDC00)))
          ('\\' :: 'u' :: (ds ++ '\\' :: 'u' :: es))

/-- Characters inside a string, one after the other. -/
inductive SpellsChars : List Char → List Char → Prop
  | nil : SpellsChars [] []
  | cons {c : Char} {cs part rest : List Char} : SpellsChar c part → SpellsChars cs rest →
      SpellsChars (c :: cs) (part ++ rest)

/-- **The ways to write a string**, in its quotes. -/
inductive SpellsText : String → List Char → Prop
  | mk {s : String} {inner : List Char} : SpellsChars s.toList inner →
      SpellsText s ('"' :: (inner ++ ['"']))

/-! ## Values -/

mutual

/-- **The ways to write a tree**, without the blanks around it. -/
inductive Spells : Node → List Char → Prop
  | null : Spells .null ['n', 'u', 'l', 'l']
  | true : Spells (.bool true) ['t', 'r', 'u', 'e']
  | false : Spells (.bool false) ['f', 'a', 'l', 's', 'e']
  | number {l : Literal} {s : List Char} : l.Spells s → Spells (.number l) s
  | text {t : String} {s : List Char} : SpellsText t s → Spells (.text t) s
  | array {ts : List Node} {inner : List Char} : SpellsElements ts inner →
      Spells (.array ts) ('[' :: (inner ++ [']']))
  | object {ms : List (String × Node)} {inner : List Char} : SpellsMembers ms inner →
      Spells (.object ms) ('\x7b' :: (inner ++ ['\x7d']))

/-- What stands between the brackets of an array: elements with commas between them. -/
inductive SpellsElements : List Node → List Char → Prop
  | nil {blank : List Char} : AreBlanks blank → SpellsElements [] blank
  | last {t : Node} {before s after : List Char} : AreBlanks before → Spells t s → AreBlanks after →
      SpellsElements [t] (before ++ (s ++ after))
  | cons {t next : Node} {ts : List Node} {before s after rest : List Char} : AreBlanks before →
      Spells t s → AreBlanks after → SpellsElements (next :: ts) rest →
        SpellsElements (t :: next :: ts) (before ++ (s ++ (after ++ ',' :: rest)))

/-- What stands between the braces of an object: members with commas between them. -/
inductive SpellsMembers : List (String × Node) → List Char → Prop
  | nil {blank : List Char} : AreBlanks blank → SpellsMembers [] blank
  | last {m : String × Node} {s after : List Char} : SpellsMember m s → AreBlanks after →
      SpellsMembers [m] (s ++ after)
  | cons {m next : String × Node} {ms : List (String × Node)} {s after rest : List Char} :
      SpellsMember m s → AreBlanks after → SpellsMembers (next :: ms) rest →
        SpellsMembers (m :: next :: ms) (s ++ (after ++ ',' :: rest))

/-- A member of an object: a key, a colon and a value. -/
inductive SpellsMember : String × Node → List Char → Prop
  | mk {key : String} {t : Node} {before keyText between beforeValue s : List Char} :
      AreBlanks before → SpellsText key keyText → AreBlanks between → AreBlanks beforeValue →
        Spells t s →
          SpellsMember (key, t) (before ++ (keyText ++ (between ++ ':' :: (beforeValue ++ s))))

end

/-- **The ways to write a whole text**: a tree with blanks around it. -/
inductive IsDocument : Node → List Char → Prop
  | mk {t : Node} {before s after : List Char} : AreBlanks before → Spells t s → AreBlanks after →
      IsDocument t (before ++ (s ++ after))

end TurnByTurn.Json
