import Mathlib
import TurnByTurn.Proofs.Json.Grammar

/-! # Reading numbers

A number is read back from each of its texts, as long as what follows cannot belong to it.

* **`Ends`** — what may follow a value.
* **`Literal.read_of_spells`** — a literal is read from its texts.
* **`Literal.IsInteger`** — the integer that a literal is written as.
* **`Literal.number?_eq_integer_iff`** — which literals count as integers. -/

namespace TurnByTurn.Json

/-- **What may follow a value**: nothing, a blank, a comma or a closing bracket. -/
def Ends (s : List Char) : Prop :=
  ∀ c ∈ s.head?, c ∈ [' ', '\n', '\t', '\r', ',', ']', '\x7d']

/-- What does not begin with a digit. -/
def StartsNoDigit (s : List Char) : Prop := ∀ c ∈ s.head?, c.isDigit = false

theorem Ends.startsNoDigit {s : List Char} (h : Ends s) : StartsNoDigit s := by
  intro c hc
  have hmem := h c hc
  simp only [List.mem_cons, List.not_mem_nil, or_false] at hmem
  rcases hmem with rfl | rfl | rfl | rfl | rfl | rfl | rfl <;> rfl

namespace Literal

variable {atEnd : Fault} {ds s rest : List Char} {l : Literal}

/-! ## Parts of a number -/

/-- Digits are read up to what is none. -/
theorem digitsOf_append (hds : AreDigits ds) (hrest : StartsNoDigit rest) :
    digitsOf atEnd (ds ++ rest) = .ok (ds, rest) := by
  obtain ⟨hne, hdigits⟩ := hds
  obtain ⟨d, ds, rfl⟩ := List.exists_cons_of_ne_nil hne
  have htake : rest.takeWhile Char.isDigit = [] := by
    cases rest with
    | nil => rfl
    | cons c rest => simp [hrest c rfl]
  have hdrop : rest.dropWhile Char.isDigit = rest := by
    cases rest with
    | nil => rfl
    | cons c rest => simp [hrest c rfl]
  rw [List.cons_append, digitsOf, if_pos (hdigits d List.mem_cons_self), ← List.cons_append,
    List.takeWhile_append_of_pos hdigits, List.dropWhile_append_of_pos hdigits, htake, hdrop,
    List.append_nil]

/-- Whole digits are read up to what is no digit. -/
theorem wholeOf_append (hds : AreWholeDigits ds) (hrest : StartsNoDigit rest) :
    wholeOf atEnd (ds ++ rest) = .ok (ds, rest) := by
  obtain ⟨hdigits, hzero⟩ := hds
  by_cases h0 : ds.head? = some '0'
  · rw [hzero h0]
    cases rest with
    | nil => rfl
    | cons c rest =>
        change (if c.isDigit then _ else _) = _
        rw [if_neg (by simpa using hrest c rfl)]
  · rw [← @digitsOf_append atEnd ds rest hdigits hrest]
    obtain ⟨d, ds, rfl⟩ := List.exists_cons_of_ne_nil hdigits.1
    have hd : d ≠ '0' := fun h => h0 (by rw [h]; rfl)
    rw [List.cons_append]
    unfold wholeOf
    split
    · rename_i heq
      exact absurd (List.cons.inj heq).1 hd
    · rename_i heq
      exact absurd (List.cons.inj heq).1 hd
    · rfl

/-- A fraction is read up to what is no digit, and none where no point stands. -/
theorem fractionOf_append {fraction text : List Char} (h : SpellsFraction fraction text)
    (hrest : StartsNoDigit rest) (hpoint : rest.head? ≠ some '.') :
    fractionOf atEnd (text ++ rest) = .ok (fraction, rest) := by
  cases h with
  | absent =>
      unfold fractionOf
      split
      · rename_i heq
        rw [List.nil_append] at heq
        rw [heq] at hpoint
        exact absurd rfl hpoint
      · rfl
  | present hds => exact digitsOf_append hds hrest

/-- The sign and the digits of an exponent are read up to what is no digit. -/
theorem signed_append {negative : Bool} {sign : List Char} (hsign : SpellsSign negative sign)
    (hds : AreDigits ds) (hrest : StartsNoDigit rest) :
    exponentOf.signed atEnd (sign ++ ds ++ rest) = .ok (some (negative, ds), rest) := by
  have hread : digitsOf atEnd (ds ++ rest) = .ok (ds, rest) := digitsOf_append hds hrest
  cases hsign with
  | unsigned =>
      obtain ⟨d, ds, rfl⟩ := List.exists_cons_of_ne_nil hds.1
      have hd := hds.2 d List.mem_cons_self
      rw [List.nil_append] at *
      unfold exponentOf.signed
      split
      rename_i _ _ heq
      split at heq
      · rename_i hminus
        rw [(List.cons.inj hminus).1] at hd
        exact absurd hd (by decide)
      · rename_i hplus
        rw [(List.cons.inj hplus).1] at hd
        exact absurd hd (by decide)
      · obtain ⟨rfl, rfl⟩ := Prod.mk.inj heq
        rw [hread]
        rfl
  | plus =>
      change (digitsOf atEnd (ds ++ rest)).bind _ = _
      rw [hread]
      rfl
  | minus =>
      change (digitsOf atEnd (ds ++ rest)).bind _ = _
      rw [hread]
      rfl

/-- An exponent is read up to what is no digit, and none where no letter of one stands. -/
theorem exponentOf_append {exponent : Option (Bool × List Char)} {text : List Char}
    (h : SpellsExponent exponent text) (hrest : Ends rest) :
    exponentOf atEnd (text ++ rest) = .ok (exponent, rest) := by
  cases h with
  | absent =>
      unfold exponentOf
      split
      · rename_i heq
        rw [List.nil_append] at heq
        exact absurd (hrest 'e' (by rw [heq]; rfl)) (by decide)
      · rename_i heq
        rw [List.nil_append] at heq
        exact absurd (hrest 'E' (by rw [heq]; rfl)) (by decide)
      · rfl
  | present hletter hsign hds =>
      rcases hletter with rfl | rfl
      · exact signed_append hsign hds hrest.startsNoDigit
      · exact signed_append hsign hds hrest.startsNoDigit

/-! ## Whole numbers -/

/-- What may follow the digits before an exponent. -/
theorem startsNoDigit_of_exponent {exponent : Option (Bool × List Char)} {text : List Char}
    (h : SpellsExponent exponent text) (hrest : Ends rest) :
    StartsNoDigit (text ++ rest) ∧ (text ++ rest).head? ≠ some '.' := by
  cases h with
  | absent =>
      refine ⟨hrest.startsNoDigit, fun hpoint => ?_⟩
      exact absurd (hrest '.' hpoint) (by decide)
  | present hletter _ _ =>
      rcases hletter with rfl | rfl
      · exact ⟨by rintro c ⟨rfl⟩; decide, by simp⟩
      · exact ⟨by rintro c ⟨rfl⟩; decide, by simp⟩

/-- What may follow the whole digits. -/
theorem startsNoDigit_of_fraction {fraction text : List Char} (h : SpellsFraction fraction text)
    (hrest : StartsNoDigit rest) : StartsNoDigit (text ++ rest) := by
  cases h with
  | absent => exact hrest
  | present _ => rintro c ⟨rfl⟩; decide

/-- **A literal is read from each of its texts.** -/
theorem read_of_spells (h : l.Spells s) (hrest : Ends rest) :
    read atEnd (s ++ rest) = .ok (l, rest) := by
  cases h with
  | @mk whole fraction fractionText exponentText exponent negative hwhole hfraction hexponent =>
      obtain ⟨hdigit, hpoint⟩ := startsNoDigit_of_exponent hexponent hrest
      have hreadWhole : wholeOf atEnd (whole ++ (fractionText ++ (exponentText ++ rest))) =
          .ok (whole, fractionText ++ (exponentText ++ rest)) :=
        wholeOf_append hwhole (startsNoDigit_of_fraction hfraction hdigit)
      have hreadFraction : fractionOf atEnd (fractionText ++ (exponentText ++ rest)) =
          .ok (fraction, exponentText ++ rest) := fractionOf_append hfraction hdigit hpoint
      have hreadExponent : exponentOf atEnd (exponentText ++ rest) = .ok (exponent, rest) :=
        exponentOf_append hexponent hrest
      simp only [List.append_assoc]
      unfold read
      cases negative with
      | true =>
          simp only [if_true, List.cons_append, List.nil_append, bind, Except.bind, hreadWhole,
            hreadFraction, hreadExponent]
          rfl
      | false =>
          simp only [Bool.false_eq_true, if_false, List.nil_append]
          split
          · rename_i hminus
            obtain ⟨d, ds, rfl⟩ := List.exists_cons_of_ne_nil hwhole.1.1
            have hd := hwhole.1.2 d List.mem_cons_self
            rw [(List.cons.inj hminus).1] at hd
            exact absurd hd (by decide)
          · simp only [bind, Except.bind, hreadWhole, hreadFraction, hreadExponent]
            rfl

/-- The first character of a number is a minus or a digit. -/
theorem exists_cons_of_spells (h : l.Spells s) :
    ∃ c rest, s = c :: rest ∧ (c = '-' ∨ c.isDigit = true) := by
  cases h with
  | @mk whole fraction fractionText exponentText exponent negative hwhole hfraction hexponent =>
      cases negative with
      | true => exact ⟨'-', _, rfl, Or.inl rfl⟩
      | false =>
          obtain ⟨d, ds, rfl⟩ := List.exists_cons_of_ne_nil hwhole.1.1
          exact ⟨d, _, rfl, Or.inr (hwhole.1.2 d List.mem_cons_self)⟩

/-! ## Integers -/

/-- **The integer that a literal is written as**, without a fraction and without an exponent. `-0` is none:
it stands for the zero below zero, which only doubles have. -/
def IsInteger (l : Literal) (n : ℤ) : Prop :=
  l.fraction = [] ∧ l.exponent = none ∧
    if l.negative then 0 < naturalOf l.whole ∧ n = -naturalOf l.whole else n = naturalOf l.whole

/-- A literal is written as one integer only. -/
theorem IsInteger.unique {n n' : ℤ} (h : l.IsInteger n) (h' : l.IsInteger n') : n = n' := by
  obtain ⟨-, -, h⟩ := h
  obtain ⟨-, -, h'⟩ := h'
  split at h <;> simp_all

/-- A number without fraction and exponent is an integer, as far as it fits. -/
theorem number?_natural (whole : List Char) : number? ⟨false, whole, [], none⟩ =
    if naturalOf whole < 0x10000000000000000 then some (.integer (naturalOf whole))
    else (double? ⟨false, whole, [], none⟩).map .real := by
  simp [number?]

/-- So is one below zero, `-0` apart. -/
theorem number?_negative (whole : List Char) : number? ⟨true, whole, [], none⟩ =
    if 0 < naturalOf whole ∧ naturalOf whole ≤ 0x8000000000000000 then
      some (.integer (-naturalOf whole))
    else (double? ⟨true, whole, [], none⟩).map .real := by
  simp [number?]

/-- A number with a fraction or with an exponent is a double. -/
theorem number?_of_real (h : ¬(l.fraction = [] ∧ l.exponent = none)) :
    l.number? = l.double?.map .real := by
  have hkind : (l.fraction.isEmpty && l.exponent.isNone) = false := by
    rw [← Bool.not_eq_true, Bool.and_eq_true, List.isEmpty_iff, Option.isNone_iff_eq_none]
    exact h
  simp [number?, hkind]

/-- No double is an integer. -/
theorem map_real_ne_integer (x : Option Float) (n : ℤ) : x.map Number.real ≠ some (.integer n) := by
  cases x <;> simp

/-- **The integers of 64 bits are read as integers**, and nothing else is. -/
theorem number?_eq_integer_iff {n : ℤ} :
    l.number? = some (.integer n) ↔ l.IsInteger n ∧ -2 ^ 63 ≤ n ∧ n < 2 ^ 64 := by
  by_cases hkind : l.fraction = [] ∧ l.exponent = none
  · obtain ⟨negative, whole, fraction, exponent⟩ := l
    obtain ⟨rfl, rfl⟩ := hkind
    cases negative with
    | false =>
        rw [number?_natural]
        split
        · simp only [Option.some.injEq, Number.integer.injEq, IsInteger, true_and,
            Bool.false_eq_true, if_false]
          omega
        · simp only [map_real_ne_integer, IsInteger, true_and, false_iff, Bool.false_eq_true, if_false]
          omega
    | true =>
        rw [number?_negative]
        split
        · simp only [Option.some.injEq, Number.integer.injEq, IsInteger, true_and, if_true]
          omega
        · simp only [map_real_ne_integer, IsInteger, true_and, false_iff, if_true]
          omega
  · rw [number?_of_real hkind]
    exact iff_of_false (map_real_ne_integer _ n) fun h => hkind ⟨h.1.1, h.1.2.1⟩

/-! ## Doubles -/

/-- What is no integer of 64 bits is read as a double. -/
theorem number?_eq_real (h : ∀ n : ℤ, l.number? ≠ some (.integer n)) :
    l.number? = l.double?.map .real := by
  unfold number? at h ⊢
  simp only at h ⊢
  split
  · rename_i hnatural
    rw [if_pos hnatural] at h
    exact absurd rfl (h _)
  · rename_i hnatural
    rw [if_neg hnatural] at h
    split
    · rename_i hnegative
      rw [if_pos hnegative] at h
      exact absurd rfl (h _)
    · rfl

end Literal

end TurnByTurn.Json
