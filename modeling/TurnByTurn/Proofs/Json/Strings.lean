import TurnByTurn.Proofs.Json.Grammar
import TurnByTurn.Json.Text

/-! # Reading strings

A string is read back from each of its texts, whichever characters are escaped and how.

* **`hex4_append`** — four digits of base sixteen are read as their value.
* **`unescape_of_letter`**, **`unescape_of_number`**, **`unescape_of_pair`** — the three kinds of escapes.
* **`readChars_append`** — a character is read from each of its texts, and the rest after it.
* **`readText_of_spells`** — a string is read from each of its texts. -/

namespace TurnByTurn.Json

variable {c : Char} {ds es part rest s : List Char} {n lead trail : ℕ} {t : String}

/-! ## Digits of base sixteen -/

/-- A digit of base sixteen has its value. -/
theorem IsHexDigit.hexValue?_eq (h : IsHexDigit c n) : hexValue? c = some n := by
  have hlower : ∀ i : Fin 16, hexValue? ("0123456789abcdef".toList[i]) = some i := by decide
  have hupper : ∀ i : Fin 16, hexValue? ("0123456789ABCDEF".toList[i]) = some i := by decide
  rcases h with h | h
  · obtain ⟨hn, rfl⟩ := List.getElem?_eq_some_iff.mp h
    exact hlower ⟨n, hn⟩
  · obtain ⟨hn, rfl⟩ := List.getElem?_eq_some_iff.mp h
    exact hupper ⟨n, hn⟩

/-- Four digits of base sixteen are read as their value. -/
theorem hex4_append (h : AreHexDigits ds n) : hex4 (ds ++ rest) = .ok (n, rest) := by
  cases h with
  | mk ha hb hc hd =>
      simp only [List.cons_append, List.nil_append, hex4, hexNumber?, ha.hexValue?_eq,
        hb.hexValue?_eq, hc.hexValue?_eq, hd.hexValue?_eq]
      rfl

/-! ## Escapes -/

/-- An escape letter is read as the character that it stands for. -/
theorem unescape_of_letter {letter : Char} (h : (letter, c) ∈ escapeLetters) :
    unescape (letter :: rest) = .ok (c, rest) := by
  simp only [escapeLetters, List.mem_cons, Prod.mk.injEq, List.not_mem_nil, or_false] at h
  rcases h with h | h | h | h | h | h | h | h <;> obtain ⟨rfl, rfl⟩ := h <;> rfl

/-- A number in base sixteen is read as its character, unless it is a surrogate. -/
theorem unescape_of_number (h : AreHexDigits ds n) (hn : ¬(0xD800 ≤ n ∧ n ≤ 0xDFFF)) :
    unescape ('u' :: (ds ++ rest)) = .ok (.ofNat n, rest) := by
  have htrailing : isTrailing n = false := by
    simp only [isTrailing, Bool.and_eq_false_iff, decide_eq_false_iff_not]
    omega
  have hleading : isLeading n = false := by
    simp only [isLeading, Bool.and_eq_false_iff, decide_eq_false_iff_not]
    omega
  simp only [unescape, hex4_append h, htrailing, hleading, Bool.false_eq_true, if_false]

/-- A leading and a trailing surrogate are read as their character. -/
theorem unescape_of_pair (hds : AreHexDigits ds lead) (hes : AreHexDigits es trail)
    (hlead : 0xD800 ≤ lead ∧ lead ≤ 0xDBFF) (htrail : 0xDC00 ≤ trail ∧ trail ≤ 0xDFFF) :
    unescape ('u' :: (ds ++ '\\' :: 'u' :: (es ++ rest)))
      = .ok (.ofNat (0x10000 + 0x400 * (lead - 0xD800) + (trail - 0xDC00)), rest) := by
  have hnotTrailing : isTrailing lead = false := by
    simp only [isTrailing, Bool.and_eq_false_iff, decide_eq_false_iff_not]
    omega
  have hleading : isLeading lead = true := by
    simp only [isLeading, Bool.and_eq_true, decide_eq_true_iff]
    exact hlead
  have htrailing : isTrailing trail = true := by
    simp only [isTrailing, Bool.and_eq_true, decide_eq_true_iff]
    exact htrail
  simp only [unescape, hex4_append hds, hnotTrailing, hleading, Bool.false_eq_true, if_false,
    if_true, trailing, hex4_append hes, htrailing]

/-! ## Characters and strings -/

/-- The closing quote ends a string. -/
theorem readChars_quote : readChars ('"' :: rest) = .ok ([], rest) := by
  unfold readChars
  rfl

/-- An escape is read as its character, and then the rest. -/
theorem readChars_backslash (h : unescape s = .ok (c, rest)) :
    readChars ('\\' :: s) = (readChars rest).map fun read => (c :: read.1, read.2) := by
  rw [readChars]
  split
  · rename_i heq
    rw [h] at heq
    cases heq
  · rename_i heq
    rw [h] at heq
    cases heq
    cases readChars rest <;> rfl

/-- **A character is read from each of its texts**, and then the rest. -/
theorem readChars_append (h : SpellsChar c part) :
    readChars (part ++ rest) = (readChars rest).map fun read => (c :: read.1, read.2) := by
  cases h with
  | plain hquote hbackslash hcontrol =>
      rw [List.singleton_append, readChars]
      · rw [if_neg (by omega)]
        cases readChars rest <;> rfl
      · exact fun heq => hquote heq
      · exact fun heq => hbackslash heq
  | letter hletter => exact readChars_backslash (unescape_of_letter hletter)
  | number hds hn => exact readChars_backslash (unescape_of_number hds hn)
  | pair hds hes hlead htrail =>
      rw [List.cons_append, List.cons_append, List.append_assoc]
      exact readChars_backslash (unescape_of_pair hds hes hlead htrail)

/-- Characters are read from each of their texts, up to the closing quote. -/
theorem readChars_of_spells {cs inner : List Char} (h : SpellsChars cs inner) :
    readChars (inner ++ '"' :: rest) = .ok (cs, rest) := by
  induction h with
  | nil => exact readChars_quote
  | cons hc _ ih =>
      rw [List.append_assoc, readChars_append hc, ih]
      rfl

/-- **A string is read from each of its texts**, after its opening quote. -/
theorem readText_of_spells {inner : List Char} (h : SpellsChars t.toList inner) :
    readText (inner ++ '"' :: rest) = .ok (t, rest) := by
  rw [readText, readChars_of_spells h]
  simp only [String.ofList_toList]

end TurnByTurn.Json
