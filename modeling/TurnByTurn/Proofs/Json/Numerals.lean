import TurnByTurn.Json.Value
import TurnByTurn.Proofs.Json.Doubles
import TurnByTurn.Proofs.Text.Digits

/-! # Writing numbers

The texts that are written for numbers are numbers of the grammar, with the value that was written.

* **`areWholeDigits_digits`** — the digits of a natural number.
* **`exists_literal_integer`** — an integer is written as this integer.
* **`exists_literal_decimal`** — a decimal is written with its value.
* **`exists_literal_real`** — a finite double is written as a number to which it is nearest.
* **`ReadsBack`** — whether it is read back from its text.
* **`readsBack_of_fewDigits`** — with few digits it is. -/

namespace TurnByTurn

open Float.Model (UnpackedFloat)

variable {n k : ℕ}

/-! ## Digits -/

theorem areDigits_digits (n : ℕ) : Json.AreDigits (digits n) :=
  ⟨(isNumeral_digits n).ne_nil, (isNumeral_digits n).isDigit⟩

/-- Only zero is written with a zero in front. -/
theorem head?_digits (hn : 0 < n) : (digits n).head? ≠ some '0' := by
  induction n using Nat.strongRecOn with
  | ind n ih =>
      rcases Nat.lt_or_ge n 10 with hlt | hge
      · have hall : ∀ i : Fin 10, 0 < i.val → (digits i.val).head? ≠ some '0' := by decide
        exact hall ⟨n, hlt⟩ hn
      · rw [digits, Nat.toDigits_of_base_le (by decide) hge,
          List.head?_append_of_ne_nil _ Nat.toDigits_ne_nil]
        exact ih (n / 10) (Nat.div_lt_self hn (by decide)) (Nat.div_pos hge (by decide))

theorem areWholeDigits_digits (n : ℕ) : Json.AreWholeDigits (digits n) := by
  refine ⟨areDigits_digits n, fun hhead => ?_⟩
  rcases Nat.eq_zero_or_pos n with rfl | hpos
  · rfl
  · exact absurd hhead (head?_digits hpos)

namespace Json

variable {l : Literal} {d : Decimal} {negative : Bool}

/-! ## Integers -/

/-- The text of a sign. -/
def signText (negative : Bool) : List Char := if negative then ['-'] else []

/-- **An integer is written as itself.** -/
theorem exists_literal_integer (n : ℤ) :
    ∃ l : Literal, l.Spells (Value.integerChars n) ∧ l.IsInteger n := by
  refine ⟨⟨decide (n < 0), digits n.natAbs, [], none⟩, ?_, rfl, rfl, ?_⟩
  · have hspells := Literal.Spells.mk (decide (n < 0)) (areWholeDigits_digits n.natAbs) .absent .absent
    unfold Value.integerChars
    by_cases hn : n < 0
    · simpa [hn] using hspells
    · simpa [hn] using hspells
  · simp only [naturalOf_digits, decide_eq_true_eq]
    split <;> omega

/-! ## Decimals -/

/-- **The size that a literal stands for.** -/
def Literal.size (l : Literal) : ℚ := Decimal.value ⟨naturalOf (l.whole ++ l.fraction), l.scale⟩

/-- Digits that begin like those of a number above zero begin with no zero. -/
theorem areWholeDigits_of_head? {ds : List Char} (hds : AreDigits ds) (hn : 0 < n)
    (hhead : ds.head? = (digits n).head?) : AreWholeDigits ds :=
  ⟨hds, fun hzero => absurd (hhead ▸ hzero) (head?_digits hn)⟩

/-- **Digits around a point**, and the value that they stand for. -/
structure ArePointed (whole fraction : List Char) (v : ℚ) : Prop where
  areWholeDigits : AreWholeDigits whole
  areDigits : AreDigits fraction
  value_eq : (naturalOf (whole ++ fraction) : ℚ) * 10 ^ (-fraction.length : ℤ) = v

/-- Zeros stand between the digits and the point, and one after it. -/
theorem arePointed_above {c : ℕ} (hzero : c = 0 → k = 0) :
    ArePointed (digits c ++ List.replicate k '0') ['0'] (c * 10 ^ (k : ℤ)) := by
  have hdigits := areDigits_digits c
  refine ⟨?_, areDigits_digits 0, ?_⟩
  · rcases Nat.eq_zero_or_pos c with rfl | hpos
    · rw [hzero rfl]
      exact areWholeDigits_digits 0
    · refine areWholeDigits_of_head? ⟨by simp [hdigits.1], fun x hx => ?_⟩ hpos
        (List.head?_append_of_ne_nil _ hdigits.1)
      rcases List.mem_append.mp hx with hx | hx
      · exact hdigits.2 x hx
      · exact isDigit_of_mem_zeros hx
  · have hlast : naturalOf ['0'] = 0 := rfl
    rw [naturalOf_append, naturalOf_append, naturalOf_digits, naturalOf_zeros, List.length_replicate,
      hlast]
    push_cast
    norm_num
    ring

/-- The point stands among the digits. -/
theorem arePointed_among {c : ℕ} (hc : 0 < c) (hk : 0 < k) (hlt : k < (digits c).length) :
    ArePointed ((digits c).take ((digits c).length - k)) ((digits c).drop ((digits c).length - k))
      (c * 10 ^ (-k : ℤ)) := by
  have hdigits := areDigits_digits c
  have htake : (digits c).take ((digits c).length - k) ≠ [] := by
    rw [← List.length_pos_iff, List.length_take]
    omega
  refine ⟨areWholeDigits_of_head? ⟨htake, fun x hx => hdigits.2 x (List.mem_of_mem_take hx)⟩ hc ?_,
    ⟨?_, fun x hx => hdigits.2 x (List.mem_of_mem_drop hx)⟩, ?_⟩
  · rw [← List.head?_append_of_ne_nil _ htake, List.take_append_drop]
  · rw [← List.length_pos_iff, List.length_drop]
    omega
  · have hlength : (digits c).length - ((digits c).length - k) = k := by omega
    rw [List.take_append_drop, naturalOf_digits, List.length_drop, hlength]

/-- Zeros stand between the point and the digits. -/
theorem arePointed_below {c : ℕ} (hle : (digits c).length ≤ k) :
    ArePointed ['0'] (List.replicate (k - (digits c).length) '0' ++ digits c) (c * 10 ^ (-k : ℤ)) := by
  have hdigits := areDigits_digits c
  refine ⟨areWholeDigits_digits 0, ⟨by simp [hdigits.1], fun x hx => ?_⟩, ?_⟩
  · rcases List.mem_append.mp hx with hx | hx
    · exact isDigit_of_mem_zeros hx
    · exact hdigits.2 x hx
  · have hfirst : naturalOf ['0'] = 0 := rfl
    rw [naturalOf_append, naturalOf_append, naturalOf_zeros, naturalOf_digits, List.length_append,
      List.length_replicate, Nat.sub_add_cancel hle, hfirst]
    simp

/-- A decimal is written with digits before and after its point. Zero must not have zeros behind it. -/
theorem exists_arePointed (hd : d.coefficient = 0 → d.exponent = 0) :
    ∃ whole fraction, d.positional true = whole ++ '.' :: fraction ∧
      ArePointed whole fraction d.value := by
  obtain ⟨c, e⟩ := d
  unfold Decimal.positional Decimal.value
  simp only at hd ⊢
  by_cases he : 0 ≤ e
  · obtain ⟨k, rfl⟩ := Int.eq_ofNat_of_zero_le he
    rw [if_pos he, if_pos trivial, Int.toNat_natCast]
    exact ⟨_, _, by simp, arePointed_above fun h => Int.natCast_eq_zero.mp (hd h)⟩
  · rw [if_neg he]
    obtain ⟨k, rfl⟩ : ∃ k : ℕ, e = -(k : ℤ) := ⟨(-e).toNat, by omega⟩
    rw [neg_neg, Int.toNat_natCast]
    by_cases hlt : k < (digits c).length
    · have hc : 0 < c := Nat.pos_of_ne_zero fun h => he (hd h).ge
      rw [if_pos hlt]
      exact ⟨_, _, rfl, arePointed_among hc (by omega) hlt⟩
    · rw [if_neg hlt]
      exact ⟨['0'], _, rfl, arePointed_below (not_lt.mp hlt)⟩

/-- **Digits around a point are a number with the value of the decimal.** -/
theorem exists_literal_positional (negative : Bool) (hd : d.coefficient = 0 → d.exponent = 0) :
    ∃ l : Literal, l.Spells (signText negative ++ d.positional true) ∧ l.negative = negative ∧
      l.size = d.value := by
  obtain ⟨whole, fraction, htext, hwhole, hfraction, hvalue⟩ := exists_arePointed hd
  refine ⟨⟨negative, whole, fraction, none⟩, ?_, rfl, ?_⟩
  · rw [htext]
    simpa [signText] using Literal.Spells.mk negative hwhole (.present hfraction) .absent
  · rw [← hvalue]
    simp [Literal.size, Literal.scale, Decimal.value]

/-- **Digits with an exponent are a number with the value of the decimal.** -/
theorem exists_literal_scientific (negative : Bool) (d : Decimal) :
    ∃ l : Literal, l.Spells (signText negative ++ d.scientific) ∧ l.negative = negative ∧
      l.size = d.value := by
  obtain ⟨c, rest, hds⟩ := List.exists_cons_of_ne_nil (areDigits_digits d.coefficient).1
  have hdigits := (areDigits_digits d.coefficient).2
  rw [hds] at hdigits
  have hc : AreWholeDigits [c] := by
    refine ⟨⟨by simp, by simpa using hdigits c List.mem_cons_self⟩, fun hhead => ?_⟩
    rw [Option.some.inj hhead]
  have hexponent : SpellsExponent (some (decide (d.leading < 0), digits d.leading.natAbs))
      ('e' :: (if d.leading < 0 then '-' else '+') :: digits d.leading.natAbs) := by
    by_cases hneg : d.leading < 0
    · simpa [hneg] using SpellsExponent.present (.inl rfl) .minus (areDigits_digits d.leading.natAbs)
    · simpa [hneg] using SpellsExponent.present (.inl rfl) .plus (areDigits_digits d.leading.natAbs)
  obtain ⟨text, hfraction, htext⟩ : ∃ text, SpellsFraction rest text ∧
      d.scientific = c :: (text ++ 'e' :: (if d.leading < 0 then '-' else '+') ::
        digits d.leading.natAbs) := by
    unfold Decimal.scientific
    rw [hds]
    cases rest with
    | nil => exact ⟨[], .absent, rfl⟩
    | cons c' rest =>
        exact ⟨_, .present ⟨by simp, fun x hx => hdigits x (List.mem_cons_of_mem _ hx)⟩, rfl⟩
  refine ⟨⟨negative, [c], rest, some (decide (d.leading < 0), digits d.leading.natAbs)⟩, ?_, rfl, ?_⟩
  · rw [htext]
    exact Literal.Spells.mk negative hc hfraction hexponent
  · have hscale : Literal.scale ⟨negative, [c], rest,
        some (decide (d.leading < 0), digits d.leading.natAbs)⟩ = d.exponent := by
      have hlength : (digits d.coefficient).length = rest.length + 1 := by rw [hds]; rfl
      have hleading : d.leading = rest.length + 1 + d.exponent - 1 := by
        rw [Decimal.leading, hlength]
        push_cast
        ring
      unfold Literal.scale
      by_cases hneg : d.leading < 0
      · simp only [hneg, decide_true, naturalOf_digits]
        omega
      · simp only [hneg, decide_false, naturalOf_digits]
        omega
    unfold Literal.size
    rw [hscale]
    simp only [List.singleton_append, ← hds, naturalOf_digits]

/-- **A decimal is written as a number with its value.** -/
theorem exists_literal_decimal (negative : Bool) (hd : d.coefficient = 0 → d.exponent = 0) :
    ∃ l : Literal, l.Spells (signText negative ++ numberLayout.decimal d) ∧ l.negative = negative ∧
      l.size = d.value := by
  by_cases hrange : -5 ≤ d.leading ∧ d.leading ≤ 15
  · have htext : numberLayout.decimal d = d.positional true := if_pos hrange
    rw [htext]
    exact exists_literal_positional negative hd
  · have htext : numberLayout.decimal d = d.scientific := if_neg hrange
    rw [htext]
    exact exists_literal_scientific negative d

/-! ## Doubles -/

/-- The double that the digits of a literal become is nearest to it, if it is finite. -/
theorem Literal.nearest?_eq_some {x : Float}
    (h : Decimal.toDouble l.negative ⟨naturalOf (l.whole ++ l.fraction), l.scale⟩ = x)
    (hx : (Binary64.view x).isInf = false) : l.nearest? = some x := by
  subst h
  change (Float.isInf _) = false at hx
  simp [nearest?, hx]

/-- A literal in the neighbourhood of a double is nearest to it. -/
theorem Literal.nearest?_of_near {x : Float} {m : ℕ} {e : ℤ} {hm : 0 < m}
    (hview : Binary64.view x = .finite (Decimal.signOf l.negative) m e hm) (h : IsNear m e l.size) :
    l.nearest? = some x :=
  Literal.nearest?_eq_some (Decimal.toDouble_of_near hview h) (by rw [hview]; rfl)

/-- A literal that stands for zero is nearest to the zero of its sign. -/
theorem Literal.nearest?_of_zero {x : Float}
    (hview : Binary64.view x = .zero (Decimal.signOf l.negative)) (h : l.size = 0) :
    l.nearest? = some x := by
  have hzero : naturalOf (l.whole ++ l.fraction) = 0 := by
    have hten : (10 : ℚ) ^ l.scale ≠ 0 := zpow_ne_zero _ (by norm_num)
    exact_mod_cast (mul_eq_zero.mp h).resolve_right hten
  refine Literal.nearest?_eq_some ?_ (by rw [hview]; rfl)
  rw [hzero]
  exact Decimal.toDouble_zero hview l.scale

/-- **A finite double is written as a number to which it is nearest.** -/
theorem exists_literal_real {x : Float} (hx : x.isFinite = true) :
    ∃ l : Literal, l.Spells (Value.realChars x) ∧ l.nearest? = some x := by
  have hzero : ∀ negative, Binary64.view x = .zero (Decimal.signOf negative) →
      ∃ l : Literal, l.Spells (signText negative ++ numberLayout.decimal ⟨0, 0⟩) ∧
        l.nearest? = some x := by
    intro negative hview
    obtain ⟨l, hspells, hsign, hsize⟩ := exists_literal_decimal (d := ⟨0, 0⟩) negative fun _ => rfl
    exact ⟨l, hspells, Literal.nearest?_of_zero (hsign ▸ hview) (by simp [hsize, Decimal.value])⟩
  have hfinite : ∀ negative m e hm,
      Binary64.view x = .finite (Decimal.signOf negative) m e hm →
        ∃ l : Literal, l.Spells (signText negative ++
          numberLayout.decimal (.shortest numberLayout.tie m e)) ∧ l.nearest? = some x := by
    intro negative m e hm hview
    have hnear : IsNear m e (Decimal.shortest numberLayout.tie m e).value := Decimal.shortest_near hm
    obtain ⟨l, hspells, hsign, hsize⟩ :=
      exists_literal_decimal (d := .shortest numberLayout.tie m e) negative fun h0 => by
        have hpos := hnear.pos hm
        rw [Decimal.value, h0] at hpos
        simp at hpos
    exact ⟨l, hspells, Literal.nearest?_of_near (hsign ▸ hview) (hsize ▸ hnear)⟩
  change (Binary64.view x).isFinite = true at hx
  unfold Value.realChars Layout.write
  cases hview : Binary64.view x with
  | notANumber => rw [hview] at hx; cases hx
  | infinity s => rw [hview] at hx; cases hx
  | zero s =>
      cases s with
      | positive => simpa [signText] using hzero false hview
      | negative => simpa [signText] using hzero true hview
  | finite s m e hm =>
      cases s with
      | positive => simpa [signText] using hfinite false m e hm hview
      | negative => simpa [signText] using hfinite true m e hm hview

/-! ## Reading back -/

/-- The double as which the text of a double is read. -/
def readAgain? (x : Float) : Option Float := do
  let (l, rest) ← (Literal.read .unfinished (Value.realChars x)).toOption
  if rest.isEmpty then l.double? else none

/-- **Whether a double is read back** from the text that is written for it. -/
def ReadsBack (x : Float) : Prop := readAgain? x = some x

instance : DecidablePred ReadsBack := fun x => inferInstanceAs (Decidable (readAgain? x = some x))

/-- The text of a double is read as the literal that it spells. -/
theorem read_of_spells_realChars {x : Float} (h : l.Spells (Value.realChars x)) :
    Literal.read .unfinished (Value.realChars x) = .ok (l, []) := by
  have hread : Literal.read .unfinished (Value.realChars x ++ []) = .ok (l, []) :=
    Literal.read_of_spells h nofun
  rwa [List.append_nil] at hread

/-- The text of a double is read as the double of its literal. -/
theorem readAgain?_of_spells {x : Float} (h : l.Spells (Value.realChars x)) : readAgain? x = l.double? := by
  rw [readAgain?, read_of_spells_realChars h]
  rfl

/-- **A double with few digits is read back.** -/
theorem readsBack_of_fewDigits {x : Float} (hx : x.isFinite = true) (hspells : l.Spells (Value.realChars x))
    (hdigits : naturalOf (l.whole ++ l.fraction) < 2 ^ 53) (hlow : -22 ≤ l.scale) (hhigh : l.scale ≤ 22) :
    ReadsBack x := by
  obtain ⟨l', hspells', hnearest⟩ := exists_literal_real hx
  have hread := read_of_spells_realChars hspells
  rw [read_of_spells_realChars hspells'] at hread
  obtain ⟨rfl, -⟩ := Prod.mk.inj (Except.ok.inj hread)
  rw [ReadsBack, readAgain?_of_spells hspells, Literal.double?_eq_nearest? hdigits hlow hhigh, hnearest]

/-- With more digits the double that is read may be the one beside it. -/
example : ¬ReadsBack 121.48791951161945 := by decide +kernel

end Json

end TurnByTurn
