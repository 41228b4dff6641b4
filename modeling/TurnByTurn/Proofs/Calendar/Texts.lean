import TurnByTurn.Calendar.Reader
import TurnByTurn.Proofs.Calendar.Days
import TurnByTurn.Proofs.Text.Digits

/-! # Texts of moments

A moment is written in universal time as a date, the letter T, a time of day and the letter Z. The date
is told by counting days from 1970-01-01, and the fraction of a second has up to nine digits.

* **`Date.Spells`**, **`Moment.SpellsTime`**, **`Moment.Spells`** — the texts of dates, times and moments.
* **`Moment.written?_of_spells`** — a moment is read back from its texts.
* **`Moment.spells_text`** — a moment is written with one of them. -/

namespace TurnByTurn

variable {s rest : List Char} {n : ℕ}

/-! ## Dates -/

namespace Date

variable {d : Date} {year : ℤ}

/-- **The texts of a year**: four digits, or a minus sign and six digits before the year zero. -/
inductive SpellsYear : ℤ → List Char → Prop where
  | common {ds : List Char} {n : ℕ} : IsPadded 4 ds n → SpellsYear n ds
  | before {ds : List Char} {n : ℕ} : IsPadded 6 ds n → 0 < n → SpellsYear (-n) ('-' :: ds)

/-- **The texts of a date**: year, month and day, the latter two with two digits each. -/
inductive Spells : Date → List Char → Prop where
  | mk {d : Date} {ys ms ds : List Char} : SpellsYear d.year ys →
      IsPadded 2 ms d.month → IsPadded 2 ds d.day → Spells d (ys ++ '-' :: ms ++ '-' :: ds)

/-- A year is read back from its texts. -/
theorem takeYear?_append (h : SpellsYear year s) (rest : List Char) :
    takeYear? (s ++ rest) = some (year, rest) := by
  cases h with
  | common hds =>
      obtain ⟨c, cs, rfl, hplus, hminus⟩ := hds.exists_eq_cons
      have htake := takeDigits?_append hds rest
      rw [List.cons_append] at htake
      simp [takeYear?, hplus, hminus, htake]
  | @before ds n hds hpos =>
      obtain ⟨n, rfl⟩ := Nat.exists_eq_succ_of_ne_zero hpos.ne'
      simp only [takeYear?, List.cons_append, takeDigits?_append hds rest]

theorem afterHyphen?_cons (rest : List Char) : afterHyphen? true ('-' :: rest) = some rest := rfl

/-- **A date is read back from its texts**, if it exists. -/
theorem take?_append (h : Spells d s) (hd : d.isValid = true) (hmin : -9999 ≤ d.year)
    (hmax : d.year ≤ 9999) (rest : List Char) : take? (s ++ rest) = some (d, rest) := by
  obtain ⟨hyear, hmonth, hday⟩ := h
  have hrange : (d.isValid && -9999 ≤ d.year && d.year ≤ 9999) = true := by simp [hd, hmin, hmax]
  simp only [take?, List.append_assoc, List.cons_append, takeYear?_append hyear, List.head?_cons,
    decide_true, afterHyphen?_cons, Option.bind_eq_bind, Option.bind_some,
    takeDigits?_append hmonth, takeDigits?_append hday, hrange, if_true]

/-- A year is written with one of its texts. -/
theorem spellsYear_yearChars (hmin : -9999 ≤ year) (hmax : year ≤ 9999) :
    SpellsYear year (Moment.yearChars year) := by
  unfold Moment.yearChars
  split
  case isTrue hneg =>
    have hds : IsPadded 6 (padded 6 year.natAbs) year.natAbs :=
      isPadded_padded (by decide) (by omega)
    have h := SpellsYear.before hds (by omega)
    rwa [Int.natCast_natAbs, abs_of_neg hneg, neg_neg] at h
  case isFalse hpos =>
    have hds : IsPadded 4 (padded 4 year.natAbs) year.natAbs :=
      isPadded_padded (by decide) (by omega)
    have h := SpellsYear.common hds
    rwa [Int.natCast_natAbs, abs_of_nonneg (not_lt.mp hpos)] at h

/-- A date is written with one of its texts. -/
theorem spells_dateChars (hd : d.isValid = true) (hmin : -9999 ≤ d.year)
    (hmax : d.year ≤ 9999) : Spells d (Moment.dateChars d) := by
  obtain ⟨-, hmonth, -, hday⟩ := isValid_iff.mp hd
  have hdays := daysInMonth_le d.year d.month
  exact .mk (spellsYear_yearChars hmin hmax) (isPadded_padded (by decide) (by omega))
    (isPadded_padded (by decide) (by omega))

end Date

/-! ## Times of day -/

namespace Moment

variable {m : Moment} {time : ℕ}

/-- **The texts of a time of day** in nanoseconds: hours, minutes and seconds with two digits each, and
a fraction of the second. -/
inductive SpellsTime : ℕ → List Char → Prop where
  | mk {hours minutes seconds nanoseconds : ℕ} {hs ms ss fs : List Char} :
      hours < 24 → minutes < 60 → seconds < 60 →
      IsPadded 2 hs hours → IsPadded 2 ms minutes → IsPadded 2 ss seconds →
      IsFraction 9 nanoseconds fs →
      SpellsTime (((hours * 60 + minutes) * 60 + seconds) * nanosecondsPerSecond + nanoseconds)
        (hs ++ ':' :: ms ++ ':' :: ss ++ fs)

/-- A part of a time is read back from its two digits. -/
theorem takePart?_append (largest : ℕ) {ds : List Char} (hds : IsPadded 2 ds n) (hn : n ≤ largest)
    (rest : List Char) : takePart? largest (ds ++ rest) = some (n, rest) := by
  simp only [takePart?, takeDigits?_append hds, hn, if_true]

theorem afterColon?_cons (rest : List Char) : afterColon? true (':' :: rest) = some rest := rfl

/-- A fraction is read back from its texts. -/
theorem takeFraction?_append (h : IsFraction 9 n s) (rest : List Char) :
    takeFraction? (s ++ 'Z' :: rest) = some (n, 'Z' :: rest) := by
  cases h with
  | absent => rfl
  | @present ds n hds hle =>
      -- the letter Z ends the digits, if they are not ended by their number
      have hdigits : ((ds ++ 'Z' :: rest).take 9).takeWhile Char.isDigit = ds := by
        rw [List.take_append, List.take_of_length_le hle, List.takeWhile_append_of_pos hds.isDigit]
        cases 9 - ds.length with
        | zero => simp
        | succ k => simp [List.takeWhile_cons_of_neg]
      have hnil : ds.isEmpty = false := by simp [hds.ne_nil]
      simp only [takeFraction?, List.cons_append, hdigits, hnil, hds.value, List.drop_left]
      rfl

/-- **A time of day is read back from its texts.** -/
theorem takeTime?_append (h : SpellsTime time s) (rest : List Char) :
    takeTime? (s ++ 'Z' :: rest) = some (time, 'Z' :: rest) := by
  obtain @⟨hours, minutes, seconds, nanoseconds, _, _, _, _, hhours, hminutes, hseconds, hh, hm, hs,
    hf⟩ := h
  have hmin : min seconds 59 = seconds := min_eq_left (by omega)
  have htime : hours * 3600 + minutes * 60 + seconds = (hours * 60 + minutes) * 60 + seconds := by omega
  simp only [takeTime?, List.append_assoc, List.cons_append, List.head?_cons, decide_true,
    afterColon?_cons, Option.bind_eq_bind, Option.bind_some, takePart?_append 23 hh (by omega),
    takePart?_append 59 hm (by omega), takePart?_append 60 hs (by omega),
    takeFraction?_append hf, hmin, htime]
  rfl

/-- A time of day is shorter than a day. -/
theorem SpellsTime.lt (h : SpellsTime time s) : time < nanosecondsPerDay := by
  obtain ⟨hhours, hminutes, hseconds, -, -, -, hf⟩ := h
  have hlt := hf.lt
  unfold nanosecondsPerDay nanosecondsPerSecond
  omega

/-- A time of day is written with one of its texts. -/
theorem spellsTime_timeChars (hn : n < nanosecondsPerDay) : SpellsTime n (timeChars n) := by
  unfold nanosecondsPerDay at hn
  have hseconds : n / nanosecondsPerSecond < 86400 :=
    (Nat.div_lt_iff_lt_mul (by decide)).mpr hn
  have htwo : ∀ k < 60, IsPadded 2 (padded 2 k) k := fun k hk =>
    isPadded_padded (by decide) (by omega)
  have hh := htwo (n / nanosecondsPerSecond / 3600) (by omega)
  have hm := htwo (n / nanosecondsPerSecond / 60 % 60) (by omega)
  have hs := htwo (n / nanosecondsPerSecond % 60) (by omega)
  have hf : IsFraction 9 (n % nanosecondsPerSecond) (fraction 9 (n % nanosecondsPerSecond)) :=
    isFraction_fraction (by decide) (Nat.mod_lt _ (by decide))
  have h := SpellsTime.mk (by omega) (by omega) (by omega) hh hm hs hf
  have htime : (n / nanosecondsPerSecond / 3600 * 60 + n / nanosecondsPerSecond / 60 % 60) * 60
      + n / nanosecondsPerSecond % 60 = n / nanosecondsPerSecond := by omega
  rwa [htime, Nat.div_add_mod'] at h

/-! ## Whole texts -/

/-- **The texts of a moment in universal time.** -/
inductive Spells (m : Moment) : List Char → Prop where
  | mk {date : Date} {day : ℤ} {time : ℕ} {ds ts : List Char} : date.Numbered day →
      m.nanoseconds = day * nanosecondsPerDay + time → date.Spells ds → SpellsTime time ts →
      Spells m (ds ++ 'T' :: ts ++ ['Z'])

/-- The day of a moment lies in the years -9999 to 9999. -/
theorem year_mem {date : Date} (hd : date.isValid = true)
    (hm : m.nanoseconds = date.toDays * nanosecondsPerDay + time) (htime : time < nanosecondsPerDay) :
    -9999 ≤ date.year ∧ date.year ≤ 9999 := by
  have hmin := m.earliest
  have hmax := m.latest
  have hfirst : (Date.newYear (-9999)).toDays = -4371587 := by decide
  have hlast : (Date.newYear 10000).toDays = 2932897 := by decide
  unfold nanosecondsPerDay nanosecondsPerSecond at *
  constructor
  · rw [← not_lt, ← Date.toDays_lt_newYear_iff hd, hfirst]
    omega
  · rw [← Int.lt_add_one_iff, ← Date.toDays_lt_newYear_iff hd]
    norm_num only
    rw [hlast]
    omega

/-- **A moment is read back from its texts.** -/
theorem written?_of_spells (h : Spells m s) : (written? s).bind Written.moment? = some m := by
  obtain @⟨date, day, time, ds, ts, hday, hm, hdate, htime⟩ := h
  obtain ⟨hvalid, rfl⟩ := Date.numbered_iff.mp hday
  obtain ⟨hmin, hmax⟩ := year_mem hvalid hm htime.lt
  have hat : at? date time 0 = some m := by
    rw [at?, ← hm, zero_mul, sub_zero, ofNanoseconds?_nanoseconds]
  have htimes : takeTimeAndOffset? ('T' :: (ts ++ ['Z'])) = some (some time, some 0, []) := by
    simp only [takeTimeAndOffset?, takeTime?_append htime]
    rfl
  simp only [written?, List.append_assoc, List.cons_append,
    Date.take?_append hdate hvalid hmin hmax, htimes, Option.bind_eq_bind, Option.bind_some]
  exact hat

/-- **A moment is written with one of its texts.** -/
theorem spells_text (m : Moment) : Spells m m.text.toList := by
  have hvalid := Date.isValid_ofDays (m.nanoseconds / nanosecondsPerDay)
  have htime : (m.nanoseconds % nanosecondsPerDay).toNat < nanosecondsPerDay := by
    unfold nanosecondsPerDay nanosecondsPerSecond
    omega
  have hm : m.nanoseconds = m.nanoseconds / nanosecondsPerDay * nanosecondsPerDay
      + (m.nanoseconds % nanosecondsPerDay).toNat := by
    unfold nanosecondsPerDay nanosecondsPerSecond
    omega
  obtain ⟨hmin, hmax⟩ := year_mem hvalid (by rwa [Date.toDays_ofDays]) htime
  rw [text, String.toList_ofList]
  exact .mk (Date.numbered_ofDays _) hm (Date.spells_dateChars hvalid hmin hmax)
    (spellsTime_timeChars htime)

end Moment

end TurnByTurn
