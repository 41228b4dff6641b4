import TurnByTurn.Text.ClusterRanges

/-! # Clusters

A cluster is what a reader takes for one character: a letter with its marks, a syllable, a flag. A text
is divided between two characters unless a rule keeps them together.

* **`Ending`** — how the characters before a place end.
* **`Ending.join?`** — a character that belongs to the cluster before it.
* **`clusters`** — the clusters of a text. -/

namespace TurnByTurn.Text

/-- **How the characters before a place end**, as far as it matters to the one after it. -/
inductive Ending where
  /-- With nothing that another character could belong to. -/
  | none
  /-- With a carriage return. -/
  | carriageReturn
  /-- With a character that only marks belong to. -/
  | other
  /-- With a sign that belongs to what follows it. -/
  | preceding
  /-- With the first consonants of a Korean syllable. -/
  | lead
  /-- With the vowels of a Korean syllable. -/
  | vowel
  /-- With the last consonants of a Korean syllable. -/
  | final
  /-- With the first letter of a flag. -/
  | flagLetter
  /-- With a picture, perhaps with marks. -/
  | picture
  /-- With a picture, perhaps with marks, and a joiner. -/
  | joinedPicture
  /-- With a consonant that can be linked, perhaps with marks. -/
  | conjunct
  /-- With a consonant, marks and among them a linker. -/
  | linked
deriving DecidableEq, Repr

/-! ## Korean syllables -/

/-- Whether a character is a first consonant. -/
def isLead (c : Char) : Bool := inRanges [(0x1100, 0x115F), (0xA960, 0xA97C)] c.toNat

/-- Whether a character is a vowel, or a Kirat Rai vowel, which is put together in the same way. -/
def isVowel (c : Char) : Bool :=
  inRanges [(0x1160, 0x11A7), (0xD7B0, 0xD7C6), (0x16D63, 0x16D63), (0x16D67, 0x16D6A)] c.toNat

/-- Whether a character is a last consonant. -/
def isFinal (c : Char) : Bool := inRanges [(0x11A8, 0x11FF), (0xD7CB, 0xD7FB)] c.toNat

/-- Whether a character is a whole syllable. -/
def isSyllable (c : Char) : Bool := 0xAC00 ≤ c.toNat && c.toNat ≤ 0xD7A3

/-- Whether a character is a whole syllable without last consonants. There are 28 syllables with the
same beginning, and the first of them is the open one. -/
def isOpenSyllable (c : Char) : Bool := isSyllable c && (c.toNat - 0xAC00) % 28 = 0

/-! ## What belongs to what -/

namespace Ending

/-- How a text ends whose last cluster is a single character. -/
def alone (c : Char) : Ending :=
  if c = '\r' then carriageReturn
  else if isControl c then none
  else if isLead c then lead
  else if isVowel c || isOpenSyllable c then vowel
  else if isFinal c || isSyllable c then final
  else if isFlagLetter c then flagLetter
  else if isPictorial c then picture
  else if isConjunct c then conjunct
  else if isPreceding c then preceding
  else other

/-- How a text ends after a mark or a joiner. -/
def extend (c : Char) : Ending → Ending
  | picture => if c = '\u200D' then joinedPicture else picture
  | conjunct => if isLinker c then linked else if c = '\u200C' then other else conjunct
  | linked => if c = '\u200C' then other else linked
  | _ => other

/-- **How a text ends after a character that belongs to the cluster before it**; none if it begins
another one. -/
def join? (ending : Ending) (c : Char) : Option Ending :=
  if ending = carriageReturn then if c = '\n' then some none else Option.none
  else if ending = none || isControl c then Option.none
  else if isExtending c then some (ending.extend c)
  else if isSpacingMark c then some other
  else
    match ending with
    | preceding => some (alone c)
    | lead => if isLead c || isVowel c || isSyllable c then some (alone c) else Option.none
    | vowel => if isVowel c || isFinal c then some (alone c) else Option.none
    | final => if isFinal c then some final else Option.none
    -- the second letter completes the flag
    | flagLetter => if isFlagLetter c then some other else Option.none
    | joinedPicture => if isPictorial c then some picture else Option.none
    | linked => if isConjunct c then some conjunct else Option.none
    | _ => Option.none

/-- Nothing belongs to a cluster where none has begun. -/
@[simp] theorem join?_none (c : Char) : none.join? c = Option.none := by simp [join?]

end Ending

/-! ## Division -/

/-- The clusters of the text before a place, and how it ends. -/
structure Clusters where
  /-- The clusters, the last one first, and of each the last character first. -/
  backward : List (List Char) := []
  ending : Ending := .none

namespace Clusters

/-- The clusters in their order. -/
def toList (s : Clusters) : List (List Char) := (s.backward.map List.reverse).reverse

/-- The clusters with one more character. -/
def push (s : Clusters) (c : Char) : Clusters :=
  match s.ending.join? c, s.backward with
  | some ending, last :: before => ⟨(c :: last) :: before, ending⟩
  | some ending, [] => ⟨[[c]], ending⟩
  | none, before => ⟨[c] :: before, .alone c⟩

/-- A character is put at the end of the text. -/
@[simp] theorem flatten_toList_push (s : Clusters) (c : Char) :
    (s.push c).toList.flatten = s.toList.flatten ++ [c] := by
  unfold push
  split <;> simp_all [toList]

/-- Characters are put at the end of the text. -/
theorem flatten_toList_foldl_push (s : Clusters) (cs : List Char) :
    (cs.foldl push s).toList.flatten = s.toList.flatten ++ cs := by
  induction cs generalizing s with
  | nil => simp
  | cons c rest ih => simp [ih]

end Clusters

/-- **The clusters of a text.** -/
def clusters (cs : List Char) : List (List Char) := (cs.foldl Clusters.push {}).toList

/-- Clusters are parts of the text, in its order and without gaps. -/
@[simp] theorem flatten_clusters (cs : List Char) : (clusters cs).flatten = cs := by
  simpa [clusters, Clusters.toList] using Clusters.flatten_toList_foldl_push {} cs

end TurnByTurn.Text
