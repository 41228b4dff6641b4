import TurnByTurn.Proofs.Calendar.Texts

/-! # The forms of a moment

The text of a moment is a date and a time, or a number of milliseconds. A date may consist of digits
alone, but without a time it is no moment, so that the forms cannot be taken for one another.

* **`Moment.SpellsInteger`** — the decimal texts of a number.
* **`Moment.dated?_eq_none`** — a date alone is no moment.
* **`Moment.read_of_spellsInteger`** — a number is read as milliseconds.
* **`Moment.tellsForms_read`** — each form is read as what it stands for. -/

namespace TurnByTurn

variable {s rest : List Char}

/-! ## Dates alone -/

namespace Date

theorem subset_of_takeYear? {year : ℤ} (h : takeYear? s = some (year, rest)) : rest ⊆ s := by
  unfold takeYear? at h
  split at h
  case h_1 s =>
    obtain ⟨⟨n, rest⟩, htake, heq⟩ := Option.map_eq_some_iff.mp h
    cases heq
    exact List.subset_cons_of_subset _ (subset_of_takeDigits? htake)
  case h_2 s =>
    split at h
    case h_1 => cases h
    case h_2 htake =>
      cases h
      exact List.subset_cons_of_subset _ (subset_of_takeDigits? htake)
    case h_3 => cases h
  case h_3 =>
    obtain ⟨⟨n, rest⟩, htake, heq⟩ := Option.map_eq_some_iff.mp h
    cases heq
    exact subset_of_takeDigits? htake

theorem subset_of_afterHyphen? {hyphens : Bool} (h : afterHyphen? hyphens s = some rest) :
    rest ⊆ s := by
  unfold afterHyphen? at h
  split at h
  case h_1 => exact Option.some.inj h ▸ List.Subset.refl _
  case h_2 => exact Option.some.inj h ▸ List.subset_cons_self _ _
  case h_3 => cases h

/-- What follows a date is part of the text. -/
theorem subset_of_take? {d : Date} (h : take? s = some (d, rest)) : rest ⊆ s := by
  simp only [take?, Option.bind_eq_bind, Option.bind_eq_some_iff] at h
  obtain ⟨⟨year, afterYear⟩, hyear, beforeMonth, hmonth, ⟨month, afterMonth⟩, hmonth', beforeDay, hday,
    ⟨day, afterDay⟩, hday', heq⟩ := h
  rw [Option.ite_none_right_eq_some] at heq
  cases heq.2
  calc afterDay ⊆ beforeDay := subset_of_takeDigits? hday'
    _ ⊆ afterMonth := subset_of_afterHyphen? hday
    _ ⊆ beforeMonth := subset_of_takeDigits? hmonth'
    _ ⊆ afterYear := subset_of_afterHyphen? hmonth
    _ ⊆ s := subset_of_takeYear? hyear

end Date

namespace Moment

variable {m : Moment} {n : ℤ}

/-- The moment of a text that begins with a date. -/
def dated? (s : String) : Option Moment := (written? s.toList).bind Written.moment?

/-- What a time or a zone begins with. -/
def marks : List Char := ['T', 't', ' ', '[']

theorem takeTimeAndOffset?_of_disjoint (h : ∀ c ∈ s, c ∉ marks) :
    takeTimeAndOffset? s = some (none, none, s) := by
  cases s with
  | nil => rfl
  | cons c rest =>
      have hc := h c List.mem_cons_self
      simp only [marks, List.mem_cons, List.not_mem_nil, or_false, not_or] at hc
      simp [takeTimeAndOffset?, hc]

theorem takeZone?_of_disjoint (h : ∀ c ∈ s, c ∉ marks) : takeZone? s = some (none, s) := by
  unfold takeZone?
  split
  case h_1 => exact absurd (by decide) (h _ List.mem_cons_self)
  case h_2 => rfl

/-- **A date alone is no moment.** -/
theorem dated?_eq_none {s : String} (h : ∀ c ∈ s.toList, c ∉ marks) : dated? s = none := by
  unfold dated?
  cases hwritten : written? s.toList with
  | none => rfl
  | some w =>
      simp only [written?, Option.bind_eq_bind, Option.bind_eq_some_iff] at hwritten
      obtain ⟨⟨date, rest⟩, hdate, hrest⟩ := hwritten
      have hdisjoint : ∀ c ∈ rest, c ∉ marks := fun c hc => h c (Date.subset_of_take? hdate hc)
      simp only [takeTimeAndOffset?_of_disjoint hdisjoint, takeZone?_of_disjoint hdisjoint,
        Option.some.injEq, exists_eq_left', Option.ite_none_right_eq_some] at hrest
      obtain ⟨_, -, -, rfl⟩ := hrest
      -- what is written has a date, but no time, no offset and no zone
      rfl

/-! ## Numbers -/

/-- **The decimal texts of a number**, with a sign or without, perhaps with zeros in front. -/
inductive SpellsInteger : ℤ → List Char → Prop where
  | plain {ds : List Char} {n : ℕ} : IsNumeral ds n → SpellsInteger n ds
  | plus {ds : List Char} {n : ℕ} : IsNumeral ds n → SpellsInteger n ('+' :: ds)
  | minus {ds : List Char} {n : ℕ} : IsNumeral ds n → SpellsInteger (-n) ('-' :: ds)

/-- A number is written with one of its texts. -/
theorem spellsInteger_toString (n : ℤ) : SpellsInteger n (toString n).toList := by
  cases n with
  | ofNat n =>
      have htext : (toString (Int.ofNat n)).toList = digits n := by
        change (Nat.repr n).toList = _
        rw [Nat.repr, String.toList_ofList]
      exact htext ▸ .plain (isNumeral_digits n)
  | negSucc n =>
      have htext : (toString (Int.negSucc n)).toList = '-' :: digits (n + 1) := by
        change ("-" ++ Nat.repr (n + 1)).toList = _
        rw [String.toList_append, Nat.repr]
        exact congrArg ('-' :: ·) String.toList_ofList
      exact htext ▸ .minus (isNumeral_digits (n + 1))

/-- No time and no zone begins in a number. -/
theorem SpellsInteger.not_mem_marks (h : SpellsInteger n s) : ∀ c ∈ s, c ∉ marks := by
  have hmark : ∀ c ∈ marks, c.isDigit = false := by
    intro c hc
    simp only [marks, List.mem_cons, List.not_mem_nil, or_false] at hc
    rcases hc with rfl | rfl | rfl | rfl <;> rfl
  have hdigits : ∀ {ds n}, IsNumeral ds n → ∀ c ∈ ds, c ∉ marks := by
    intro ds n hds c hc hmem
    have hdigit := hds.isDigit c hc
    rw [hmark c hmem] at hdigit
    cases hdigit
  cases h with
  | plain hds => exact hdigits hds
  | plus hds => exact List.forall_mem_cons.mpr ⟨by decide, hdigits hds⟩
  | minus hds => exact List.forall_mem_cons.mpr ⟨by decide, hdigits hds⟩

/-- A number of 64 bits is read back from its texts. -/
theorem int64?_of_spellsInteger (h : SpellsInteger n s) (hmin : -0x8000000000000000 ≤ n)
    (hmax : n < 0x8000000000000000) : int64? s = some n := by
  cases h with
  | plain hds =>
      obtain ⟨c, cs, rfl, hplus, hminus⟩ := hds.exists_eq_cons
      obtain ⟨hc, hcs⟩ := List.forall_mem_cons.mp hds.isDigit
      simpa [int64?, hplus, hminus, hc, hds.value, hmin, hmax] using hcs
  | plus hds => simpa [int64?, hds.ne_nil, hds.value, hmin, hmax] using hds.isDigit
  | minus hds => simpa [int64?, hds.ne_nil, hds.value, hmin, hmax] using hds.isDigit

/-- A number in range is the moment so many milliseconds after the beginning of 1970. -/
theorem exists_ofMilliseconds? (hmin : firstSecond * 1000 ≤ n) (hmax : n ≤ lastSecond * 1000) :
    ∃ m, ofMilliseconds? n = some m ∧ m.nanoseconds = n * nanosecondsPerMillisecond := by
  have hrange : -377705023202 * (nanosecondsPerSecond : ℤ) < n * nanosecondsPerMillisecond
      ∧ n * nanosecondsPerMillisecond < 253402207201 * (nanosecondsPerSecond : ℤ) := by
    unfold firstSecond lastSecond nanosecondsPerSecond nanosecondsPerMillisecond at *
    omega
  refine ⟨⟨n * nanosecondsPerMillisecond, hrange.1, hrange.2⟩, ?_, rfl⟩
  rw [ofMilliseconds?, if_pos ⟨hmin, hmax⟩, ofNanoseconds?, dif_pos hrange]

/-- **A number is read as milliseconds**, never as a date. -/
theorem read_of_spellsInteger {s : String} (h : SpellsInteger n s.toList)
    (hmin : -0x8000000000000000 ≤ n) (hmax : n < 0x8000000000000000) :
    read s = (ofMilliseconds? n).elim (.error .outOfRange) .ok := by
  have hdated : dated? s = none := dated?_eq_none h.not_mem_marks
  unfold dated? at hdated
  simp only [read, hdated, int64?_of_spellsInteger h hmin hmax]
  cases ofMilliseconds? n <;> rfl

/-! ## All forms -/

/-- **What each form stands for**, if a text that begins with a date is read as `dated?` says. -/
structure TellsForms (dated? : String → Option Moment) (read : String → Except ReadError Moment) :
    Prop where
  /-- Every number has a decimal text. -/
  number (n : ℤ) : SpellsInteger n (toString n).toList
  /-- No number is a date. -/
  undated {n : ℤ} {s : String} : SpellsInteger n s.toList → dated? s = none
  /-- A number counts the milliseconds from the beginning of 1970. -/
  milliseconds {n : ℤ} {s : String} : SpellsInteger n s.toList →
    firstSecond * 1000 ≤ n → n ≤ lastSecond * 1000 →
      ∃ m, read s = .ok m ∧ m.nanoseconds = n * nanosecondsPerMillisecond
  /-- All other numbers of 64 bits are refused as numbers. -/
  outOfRange {n : ℤ} {s : String} : SpellsInteger n s.toList →
    -0x8000000000000000 ≤ n → n < 0x8000000000000000 →
      n < firstSecond * 1000 ∨ lastSecond * 1000 < n → read s = .error .outOfRange
  /-- Every moment has a text in universal time. -/
  text (m : Moment) : Spells m m.text.toList
  /-- A text in universal time is the moment that it was written for. -/
  moment {m : Moment} {s : String} : Spells m s.toList → dated? s = some m ∧ read s = .ok m

/-- **The forms of a moment are told apart**, and each one is read as what it stands for. -/
theorem tellsForms_read : TellsForms dated? read where
  number := spellsInteger_toString
  undated h := dated?_eq_none h.not_mem_marks
  milliseconds {n s} h hmin hmax := by
    obtain ⟨m, hm, hn⟩ := exists_ofMilliseconds? hmin hmax
    unfold firstSecond at hmin
    unfold lastSecond at hmax
    exact ⟨m, by rw [read_of_spellsInteger h (by omega) (by omega), hm]; rfl, hn⟩
  outOfRange {n s} h hmin hmax hrange := by
    have hnone : ofMilliseconds? n = none := if_neg (by omega)
    rw [read_of_spellsInteger h hmin hmax, hnone]
    rfl
  text := spells_text
  moment {m s} h := by
    have hdated : dated? s = some m := written?_of_spells h
    refine ⟨hdated, ?_⟩
    unfold dated? at hdated
    simp only [read, hdated]

/-- A moment in the last second of all is read from its text, but not from its number. -/
theorem read_lastSecond : ∃ m : Moment,
    m.nanoseconds = 253402207200500 * nanosecondsPerMillisecond ∧
      read "9999-12-30T22:00:00.5Z" = .ok m ∧ read "253402207200500" = .error .outOfRange :=
  ⟨⟨253402207200500 * nanosecondsPerMillisecond, by decide, by decide⟩, rfl, by rfl, by rfl⟩

end Moment

end TurnByTurn
