import TurnByTurn.Text.Joint

/-! # The columns of a text

How many columns a text takes in a line of fixed-width type. The text is measured from its end, since
it is the later character that changes how the earlier one is drawn.

* **`Following`** — what comes after a place: a joint, and selectors before it.
* **`columns`** — what one character adds.
* **`width`** — the columns of a text. -/

namespace TurnByTurn.Text

/-- **What comes after a place**: how the characters there begin, and which selectors stand before
them. -/
structure Following where
  joint : Joint := .none
  /-- Whether the selector of wide quotation marks stands there. -/
  wideQuote : Bool := false
  /-- Whether the selector of plain signs stands there. -/
  textStyle : Bool := false
  /-- Whether the selector of pictures stands there. -/
  pictureStyle : Bool := false
deriving DecidableEq, Repr

namespace Following

/-- What remains where a selector finds nothing to select. -/
def kept (f : Following) : Following := if f.joint.survivesSelector then f else {}

/-- The selector of pictures before what follows. Before a joined picture it belongs to one more of
them. -/
def withPictureStyle (f : Following) : Following :=
  if f.joint.survivesSelector || f.joint.isJoinedPicture then { f with pictureStyle := true }
  else { pictureStyle := true }

/-- The selector of plain signs before what follows. -/
def withTextStyle (f : Following) : Following := { f.kept with textStyle := true }

/-- The selector of wide quotation marks before what follows. -/
def withWideQuote (f : Following) : Following := { f.kept with wideQuote := true }

/-- What follows when no picture was there for its selector. -/
def withoutPictureStyle (f : Following) : Following :=
  if f.pictureStyle then { f.kept with pictureStyle := false } else f

end Following

/-- Whether a character is a mark that is ignored inside letters that are drawn as one. -/
def isIgnoredMark (c : Char) : Bool :=
  inRanges [(0x34F, 0x34F), (0x17B4, 0x17B5), (0x180B, 0x180D), (0x180F, 0x180F),
    (0xFE00, 0xFE0F), (0xE0100, 0xE01EF)] c.toNat

/-- Whether a character is a quotation mark that has a wide form. -/
def isCurlyQuote (c : Char) : Bool := c ∈ ['\u2018', '\u2019', '\u201C', '\u201D']

/-- What a character adds when no selector changes it. -/
def plainColumns (f : Following) (c : Char) : Int × Following :=
  if f.joint.isPatient && c = '\u200D' then (0, { f with joint := f.joint.joined })
  else if f.joint.isPatient && isIgnoredMark c then (0, f)
  else
    match f.joint.join? c with
    | some (n, joint) => (n, { joint })
    | none => ((Joint.alone c).1, { joint := (Joint.alone c).2 })

/-- What a character adds that is no picture by a selector. -/
def unpicturedColumns (f : Following) (c : Char) : Int × Following :=
  -- neither ASCII nor a control character is changed by what follows
  if c.toNat ≤ 0xA0 then (1, {})
  else if c = '\uFE0F' then (0, f.withPictureStyle)
  else if c = '\uFE0E' then (0, f.withTextStyle)
  else if c = '\uFE01' then (0, f.withWideQuote)
  else if f.textStyle && hasTextStyle c then (1, {})
  else if f.wideQuote && isCurlyQuote c then (2, {})
  -- selectors that find nothing to select do not hinder what joins
  else plainColumns { f with textStyle := false, wideQuote := false } c

/-- **What one character adds to the columns of what follows it**, and what then follows. -/
def columns (f : Following) (c : Char) : Int × Following :=
  if f.pictureStyle && hasPictureStyle c then
    (if f.joint.isJoinedPicture then 0 else 2, { joint := .picture })
  else unpicturedColumns f.withoutPictureStyle c

/-- The columns of characters, and what they are to those before them. -/
def measure (cs : List Char) : Int × Following :=
  cs.foldr (fun c (n, f) => (n + (columns f c).1, (columns f c).2)) (0, {})

/-- Nothing takes no columns. -/
@[simp] theorem measure_nil : measure [] = (0, {}) := rfl

/-- The first character is measured after all others. -/
@[simp] theorem measure_cons (c : Char) (cs : List Char) :
    measure (c :: cs) =
      ((measure cs).1 + (columns (measure cs).2 c).1, (columns (measure cs).2 c).2) := rfl

/-- **The columns of a text.** -/
def width (cs : List Char) : Nat := (measure cs).1.toNat

/-- An empty text takes no columns. -/
@[simp] theorem width_nil : width [] = 0 := rfl

end TurnByTurn.Text
