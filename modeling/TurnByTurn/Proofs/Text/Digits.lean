import Mathlib.Algebra.Order.Ring.Nat
import Mathlib.Data.List.DropRight
import TurnByTurn.Text.Digits

/-! # Numerals

Numbers are written with digits, with zeros in front up to a width, or behind a decimal point without
the zeros at the end.

* **`IsNumeral`** — digits that stand for a number.
* **`IsPadded`** — the same with a certain count of digits.
* **`isPadded_padded`** — a number that fits into a width is written with this width.
* **`takeDigits?_append`** — a number of a certain count of digits is read back from them.
* **`IsFraction`** — the texts of a fraction.
* **`isFraction_fraction`** — a fraction is written with one of them. -/

namespace TurnByTurn

variable {k n : ℕ} {ds rest : List Char}

/-! ## Values -/

/-- The value of digits after other digits. -/
theorem naturalOf_append (ds es : List Char) :
    naturalOf (ds ++ es) = 10 ^ es.length * naturalOf ds + naturalOf es := by
  rw [naturalOf, Nat.ofDigitChars_append, Nat.ofDigitChars_eq_ofDigitChars_zero]
  rfl

theorem naturalOf_zeros (k : ℕ) : naturalOf (List.replicate k '0') = 0 := by
  rw [naturalOf, Nat.ofDigitChars_replicate_zero, Nat.mul_zero]

theorem isDigit_of_mem_zeros {c : Char} (hc : c ∈ List.replicate k '0') : c.isDigit = true := by
  rw [List.eq_of_mem_replicate hc]
  rfl

/-! ## Numerals -/

/-- **Digits that stand for a number**, perhaps with zeros in front. -/
structure IsNumeral (ds : List Char) (n : ℕ) : Prop where
  ne_nil : ds ≠ []
  isDigit : ∀ c ∈ ds, c.isDigit = true
  value : naturalOf ds = n

theorem isNumeral_digits (n : ℕ) : IsNumeral (digits n) n where
  ne_nil := Nat.toDigits_ne_nil
  isDigit _ hc := Nat.isDigit_of_mem_toDigits (by decide) (by decide) hc
  value := naturalOf_digits n

theorem isNumeral_padded (width n : ℕ) : IsNumeral (padded width n) n := by
  have h := isNumeral_digits n
  refine ⟨List.append_ne_nil_of_right_ne_nil _ h.ne_nil, fun c hc => ?_, ?_⟩
  · rcases List.mem_append.mp hc with hc | hc
    · exact isDigit_of_mem_zeros hc
    · exact h.isDigit c hc
  · rw [padded, naturalOf_append, naturalOf_zeros, naturalOf_digits, Nat.mul_zero, Nat.zero_add]

/-- A numeral does not begin with a sign. -/
theorem IsNumeral.exists_eq_cons (h : IsNumeral ds n) : ∃ c cs, ds = c :: cs ∧ c ≠ '+' ∧ c ≠ '-' := by
  obtain ⟨c, cs, rfl⟩ := List.exists_cons_of_ne_nil h.ne_nil
  have hc := h.isDigit c List.mem_cons_self
  refine ⟨c, cs, rfl, ?_, ?_⟩
  · rintro rfl
    cases hc
  · rintro rfl
    cases hc

/-- A numeral stands for less than the power of ten after its digits. -/
theorem IsNumeral.lt (h : IsNumeral ds n) : n < 10 ^ ds.length := by
  obtain ⟨-, hdigits, rfl⟩ := h
  induction ds using List.reverseRecOn with
  | nil => decide
  | append_singleton ds c ih =>
      have hlt := ih fun c hc => hdigits c (List.mem_append_left _ hc)
      have hlast : c.toNat - '0'.toNat < 10 := by
        have hc := (Char.isDigit_iff_toNat.mp (hdigits c (by simp))).2
        exact Nat.lt_succ_of_le (Nat.sub_le_sub_right hc _)
      rw [naturalOf_concat, List.length_append, List.length_singleton, Nat.pow_succ]
      omega

/-- **Digits of a width that stand for a number.** -/
structure IsPadded (width : ℕ) (ds : List Char) (n : ℕ) : Prop extends IsNumeral ds n where
  length_eq : ds.length = width

/-- **A number that fits into a width is written with this width.** -/
theorem isPadded_padded (hk : 0 < k) (hn : n < 10 ^ k) : IsPadded k (padded k n) n := by
  have hle : (digits n).length ≤ k := (Nat.length_toDigits_le_iff (by decide) hk).mpr hn
  refine ⟨isNumeral_padded k n, ?_⟩
  rw [padded, List.length_append, List.length_replicate, Nat.sub_add_cancel hle]

/-- **A number of a certain count of digits is read back from them**, whatever follows. -/
theorem takeDigits?_append (h : IsPadded k ds n) (rest : List Char) :
    takeDigits? k (ds ++ rest) = some (n, rest) := by
  obtain ⟨hds, rfl⟩ := h
  have hall : ds.all Char.isDigit = true := List.all_eq_true.mpr hds.isDigit
  simp only [takeDigits?, List.take_left, List.drop_left, hall, hds.value, and_self, if_true]

/-- What follows a number is part of the text. -/
theorem subset_of_takeDigits? {s : List Char} (h : takeDigits? k s = some (n, rest)) : rest ⊆ s := by
  simp only [takeDigits?, Option.ite_none_right_eq_some, Option.some.injEq, Prod.mk.injEq] at h
  exact h.2.2 ▸ List.drop_subset k s

/-! ## Fractions -/

/-- **The texts of a fraction** in units of its last place: none at all for zero, or a point and digits
for the first places. The places that are missing are zero. -/
inductive IsFraction (places : ℕ) : ℕ → List Char → Prop where
  | absent : IsFraction places 0 []
  | present {ds : List Char} {n : ℕ} : IsNumeral ds n → ds.length ≤ places →
      IsFraction places (n * 10 ^ (places - ds.length)) ('.' :: ds)

/-- A fraction is less than one. -/
theorem IsFraction.lt {s : List Char} (h : IsFraction k n s) : n < 10 ^ k := by
  cases h with
  | absent => exact Nat.pow_pos (by decide)
  | @present ds n hds hle =>
      calc n * 10 ^ (k - ds.length) < 10 ^ ds.length * 10 ^ (k - ds.length) :=
            Nat.mul_lt_mul_of_pos_right hds.lt (Nat.pow_pos (by decide))
        _ = 10 ^ k := by rw [← Nat.pow_add, Nat.add_sub_cancel' hle]

/-- A fraction is written as a point and its digits up to the zeros at the end. -/
theorem fraction_eq (k n : ℕ) :
    fraction k n = if (padded k n).rdropWhile (· = '0') = [] then []
      else '.' :: (padded k n).rdropWhile (· = '0') := by
  unfold fraction
  rw [← List.rdropWhile]
  split
  case h_1 h => rw [if_pos h]
  case h_2 h => rw [if_neg h]

/-- **A fraction is written with one of its texts.** -/
theorem isFraction_fraction (hk : 0 < k) (hn : n < 10 ^ k) : IsFraction k n (fraction k n) := by
  have hpadded := isPadded_padded hk hn
  have hlength := hpadded.length_eq
  have hvalue := hpadded.value
  obtain ⟨ds, z, hds, hzeros⟩ : ∃ ds z, (padded k n).rdropWhile (· = '0') = ds ∧
      padded k n = ds ++ List.replicate z '0' := by
    refine ⟨_, ((padded k n).rtakeWhile (· = '0')).length, rfl, ?_⟩
    have hall : ∀ c ∈ (padded k n).rtakeWhile (· = '0'), c = '0' := fun c hc => by
      simpa using List.mem_rtakeWhile_imp hc
    rw [← List.eq_replicate_of_mem hall, List.rdropWhile_append_rtakeWhile]
  rw [hzeros, naturalOf_append, naturalOf_zeros, List.length_replicate, Nat.add_zero] at hvalue
  rw [hzeros, List.length_append, List.length_replicate] at hlength
  rw [fraction_eq, hds]
  split
  case isTrue hnil =>
    rw [hnil, naturalOf_nil, Nat.mul_zero] at hvalue
    exact hvalue ▸ .absent
  case isFalse hcons =>
    have hn : n = naturalOf ds * 10 ^ (k - ds.length) := by
      rw [← hvalue, ← hlength, Nat.add_sub_cancel_left, Nat.mul_comm]
    rw [hn]
    refine .present ⟨hcons, fun c hc => hpadded.isDigit c ?_, rfl⟩ (by omega)
    rw [hzeros]
    exact List.mem_append_left _ hc

end TurnByTurn
