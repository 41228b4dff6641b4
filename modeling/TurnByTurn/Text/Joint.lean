import TurnByTurn.Text.Pictures
import TurnByTurn.Text.WidthRanges

/-! # Characters that are drawn as one

Some characters change how many columns the one before them takes, because both are drawn as one
picture or as one letter. A text is measured from its end, and a `Joint` says what the characters
already measured make of the one before them.

* **`Joint`** — how the characters after a place begin.
* **`Joint.alone`** — a character that joins nothing after it.
* **`Joint.join?`** — a character that is drawn as one with what comes after it. -/

namespace TurnByTurn.Text

/-- **How the characters after a place begin**, as far as it matters to the one before them. -/
inductive Joint where
  /-- With nothing that could be joined. -/
  | none
  /-- With a tone of skin. -/
  | tone
  /-- With a single letter of a flag. -/
  | flagLetter
  /-- With several letters of flags. -/
  | flagLetters
  /-- With a picture. -/
  | picture
  /-- With a joiner and a picture. -/
  | joinedPicture
  /-- With the frame of a key, a joiner and a picture. -/
  | joinedKey
  /-- With a letter of a flag, a joiner and a picture. -/
  | joinedFlagLetter
  /-- With whole flags, a joiner and a picture. -/
  | joinedFlags
  /-- With a letter of a flag, whole flags, a joiner and a picture. -/
  | joinedFlagsAndLetter
  /-- With some letters of tags, the end of the tags, a joiner and a picture. -/
  | tagLetters (count : Nat)
  /-- With some digits of tags, perhaps letters after them, the end of the tags, a joiner and a picture. -/
  | tagDigits (count : Nat)
  /-- With an odd number of Kirat Rai signs E. -/
  | oddE
  /-- With an even number of Kirat Rai signs E. -/
  | evenE
  /-- With an Arabic Alef. -/
  | alef
  /-- With a Hebrew Lamed, perhaps after a joiner. -/
  | lamed (joined : Bool)
  /-- With a Buginese Ya, perhaps after a joiner. -/
  | ya (joined : Bool)
  /-- With a Buginese sign I, a joiner and a Ya. -/
  | signIAndYa
  /-- With a Tifinagh consonant, perhaps after a joiner. -/
  | consonant (joined : Bool)
  /-- With the joiner of Tifinagh letters and a consonant. -/
  | joinerAndConsonant
  /-- With the second part of a Lisu tone. -/
  | secondTone
  /-- With an Old Turkic I, perhaps after a joiner. -/
  | orkhonI (joined : Bool)
  /-- With a Khmer letter that can be written below another. -/
  | subscript
deriving DecidableEq, Repr

namespace Joint

/-! ## Letters -/

/-- Whether a character is an Arabic Lam. -/
def isLam (c : Char) : Bool :=
  inRanges [(0x644, 0x644), (0x6B5, 0x6B8), (0x76A, 0x76A), (0x8A6, 0x8A6), (0x8C7, 0x8C7)] c.toNat

/-- Whether a character is an Arabic Alef. -/
def isAlef (c : Char) : Bool :=
  inRanges [(0x622, 0x623), (0x625, 0x625), (0x627, 0x627), (0x671, 0x673), (0x675, 0x675),
    (0x773, 0x774), (0x870, 0x882)] c.toNat

/-- Whether a character is a Tifinagh consonant. -/
def isConsonant (c : Char) : Bool := inRanges [(0x2D31, 0x2D65), (0x2D6F, 0x2D6F)] c.toNat

/-- Whether a character is a Khmer letter that can be written below another. -/
def isSubscript (c : Char) : Bool :=
  inRanges [(0x1780, 0x1782), (0x1784, 0x1787), (0x1789, 0x178C), (0x178E, 0x1793),
    (0x1795, 0x1798), (0x179B, 0x179D), (0x17A0, 0x17A0), (0x17A2, 0x17A2), (0x17A7, 0x17A7),
    (0x17AB, 0x17AC), (0x17AF, 0x17AF)] c.toNat

/-! ## Single characters -/

/-- **The columns of a character that joins nothing after it**, and what it is to the character before. -/
def alone (c : Char) : Nat × Joint :=
  if isFlat c then (0, none)
  else if isTone c then (2, tone)
  else if isPicture c then (2, picture)
  else if isFlagLetter c then (1, flagLetter)
  else if isAlef c then (1, alef)
  else if isSubscript c then (1, subscript)
  else if isConsonant c then (1, consonant false)
  else if c = '\u05DC' then (1, lamed false)
  else if c = '\u1A10' then (1, ya false)
  else if c = '\uA4FC' ∨ c = '\uA4FD' then (1, secondTone)
  else if c.toNat = 0x10C03 then (1, orkhonI false)
  else if c.toNat = 0x16D67 then (1, oddE)
  else if c.toNat = 0x16D68 then (1, evenE)
  -- the sign Beyyal is an abbreviation of three letters
  else if c = '\u17D8' then (3, none)
  else (if isWide c then 2 else 1, none)

/-! ## Joining -/

/-- Whether a joiner can be put before what begins here, and pictures can be joined by it. -/
def takesJoiner : Joint → Bool
  | tone => true
  | flagLetters => true
  | picture => true
  | joinedFlags => true
  | joinedFlagsAndLetter => true
  | _ => false

/-- Whether characters that are ignored, and joiners, may stand before what begins here and do no harm. -/
def isPatient : Joint → Bool
  | lamed _ => true
  | ya _ => true
  | signIAndYa => true
  | consonant _ => true
  | joinerAndConsonant => true
  | secondTone => true
  | orkhonI _ => true
  | subscript => true
  | _ => false

/-- What begins with a joiner before a letter. -/
def joined : Joint → Joint
  | lamed _ => lamed true
  | ya _ => ya true
  | consonant _ => consonant true
  | orkhonI _ => orkhonI true
  | joint => joint

/-- Whether a picture is joined to another before it. -/
def isJoinedPicture : Joint → Bool
  | joinedPicture => true
  | joinedKey => true
  | _ => false

/-- Whether a selector before what begins here leaves it as it is. -/
def survivesSelector (joint : Joint) : Bool := joint.isPatient || joint = alef

/-- A character before a joiner and a picture. -/
def joinPicture? (c : Char) : Option (Int × Joint) :=
  if c = '\u20E3' then some (0, joinedKey)
  else if isFlagLetter c then some (1, joinedFlagLetter)
  else if isTone c then some (0, tone)
  else if c.toNat = 0xE007F then some (0, tagLetters 0)
  else if isPicture c then some (0, picture)
  else Option.none

/-- A character before tags: another tag, or the flag that they belong to. Up to six letters, or three
digits before at most four letters, make a region. -/
def joinTags? (letters digits : Nat) (c : Char) : Option (Int × Joint) :=
  let isLetter := 0xE0061 ≤ c.toNat && c.toNat ≤ 0xE007A
  let isDigit := 0xE0030 ≤ c.toNat && c.toNat ≤ 0xE0039
  if digits = 0 && isLetter && letters < 6 then some (0, tagLetters (letters + 1))
  else if isDigit && letters ≤ 4 && digits < 3 then some (0, tagDigits (digits + 1))
  else if c.toNat = 0x1F3F4 && (if digits = 0 then 3 ≤ letters else digits = 3) then
    some (0, picture)
  else Option.none

/-- **What a character adds that is drawn as one with what comes after it**; none if it is not. Less
than nothing is added where the columns after it were more than both take together. -/
def join? (joint : Joint) (c : Char) : Option (Int × Joint) :=
  if joint.takesJoiner && c = '\u200D' then some (0, joinedPicture)
  else
    match joint with
    | tone => if isToneBase c then some (0, picture) else Option.none
    | flagLetter => if isFlagLetter c then some (1, flagLetters) else Option.none
    | flagLetters => if isFlagLetter c then some (1, flagLetters) else Option.none
    | joinedPicture => joinPicture? c
    -- the second letter completes a flag, which is joined; the third begins another one
    | joinedFlagLetter => if isFlagLetter c then some (-1, joinedFlags) else Option.none
    | joinedFlagsAndLetter => if isFlagLetter c then some (-1, joinedFlags) else Option.none
    | joinedFlags => if isFlagLetter c then some (3, joinedFlagsAndLetter) else Option.none
    | tagLetters count => joinTags? count 0 c
    | tagDigits count => joinTags? 0 count c
    | oddE =>
        if c.toNat = 0x16D63 ∨ c.toNat = 0x16D69 then some (0, none)
        else if c.toNat = 0x16D67 then some (0, evenE)
        else if c.toNat = 0x16D68 then some (1, oddE)
        else Option.none
    | evenE => if c.toNat = 0x16D63 then some (0, none) else Option.none
    | alef =>
        if isLam c then some (0, none)
        else if isPassedByArabic c then some (0, alef)
        else Option.none
    | lamed true => if c = '\u05D0' then some (0, none) else Option.none
    | ya true => if c = '\u1A17' then some (0, signIAndYa) else Option.none
    | signIAndYa => if c = '\u1A15' then some (0, none) else Option.none
    | consonant joined =>
        if c = '\u2D7F' then some (1, joinerAndConsonant)
        else if joined && isConsonant c then some (0, none)
        else Option.none
    | joinerAndConsonant => if isConsonant c then some (-1, none) else Option.none
    | secondTone => if '\uA4F8' ≤ c ∧ c ≤ '\uA4FB' then some (0, none) else Option.none
    | orkhonI true => if c.toNat = 0x10C32 then some (0, none) else Option.none
    | subscript => if c = '\u17D2' then some (-1, none) else Option.none
    | _ => Option.none

end Joint

end TurnByTurn.Text
