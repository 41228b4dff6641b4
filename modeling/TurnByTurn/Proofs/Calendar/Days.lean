import Mathlib.Algebra.Order.Ring.Int
import Mathlib.Tactic.IntervalCases
import TurnByTurn.Calendar.Date

/-! # Counting days

Days are counted one after another, forward and backward from 1970-01-01. The closed form of the count
works with years that begin in March; the days of four hundred of them are told apart by century, by
span of four years and by year.

* **`Date.Numbered`** — the number of a day, by going from day to day.
* **`Date.isValid_ofDays`**, **`Date.toDays_ofDays`**, **`Date.ofDays_toDays`** — the two closed forms
  are inverse to each other.
* **`Date.toDays_next`** — the next day has the next number.
* **`Date.numbered_iff`** — the closed form numbers the days.
* **`Date.toDays_lt_newYear_iff`** — the days of a calendar year come one after another. -/

namespace TurnByTurn

namespace Date

variable {d : Date} {n year : ℤ}

/-- The day after a date. -/
def next (d : Date) : Date :=
  if d.day < daysInMonth d.year d.month then ⟨d.year, d.month, d.day + 1⟩
  else if d.month < 12 then ⟨d.year, d.month + 1, 1⟩
  else ⟨d.year + 1, 1, 1⟩

/-- **The number of a day**, by going from day to day. -/
inductive Numbered : Date → ℤ → Prop where
  | epoch : Numbered ⟨1970, 1, 1⟩ 0
  | next {d : Date} {n : ℤ} : Numbered d n → Numbered d.next (n + 1)
  | previous {d : Date} {n : ℤ} : d.isValid → Numbered d.next n → Numbered d (n - 1)

theorem isValid_iff :
    d.isValid = true ↔ 1 ≤ d.month ∧ d.month ≤ 12 ∧ 1 ≤ d.day ∧ d.day ≤ daysInMonth d.year d.month := by
  simp [isValid, and_assoc]

theorem isLeap_iff (year : ℤ) :
    isLeap year = true ↔ year % 4 = 0 ∧ (year % 100 ≠ 0 ∨ year % 400 = 0) := by
  simp [isLeap]

/-- A month has at most 31 days. -/
theorem daysInMonth_le (year : ℤ) (month : ℕ) : daysInMonth year month ≤ 31 := by
  unfold daysInMonth
  grind

/-! ## Years from March -/

/-- The number of days of a year from March. Its leap day is one of the calendar year that follows. -/
def daysOfYear (year : ℤ) : ℕ := if isLeap (year + 1) then 366 else 365

theorem lt_daysOfYear (year : ℤ) : 364 < daysOfYear year := by
  unfold daysOfYear
  split <;> decide

theorem daysOfYear_le (year : ℤ) : daysOfYear year ≤ 366 := by
  unfold daysOfYear
  split <;> decide

/-- The day on which a year begins in March, counted from the March of the year 0. -/
def startOfYear (year : ℤ) : ℤ := year / 400 * 146097 + daysBeforeYear (year % 400).toNat

/-- **The place of a year in its cycle**: centuries, then spans of four years, then years. -/
structure IsYear (year : ℤ) (centuries spans years : ℕ) : Prop where
  centuries_lt : centuries < 4
  spans_lt : spans < 25
  years_lt : years < 4
  ofCycle : (year % 400).toNat = 100 * centuries + 4 * spans + years
  before : daysBeforeYear (year % 400).toNat = 36524 * centuries + 1461 * spans + 365 * years
  /-- The last year of a span is leap, unless it is the last of a century that is not the last. -/
  leap : daysOfYear year = if years = 3 ∧ (spans < 24 ∨ centuries = 3) then 366 else 365

/-- Every year has a place in its cycle. -/
theorem exists_isYear (year : ℤ) : ∃ centuries spans years, IsYear year centuries spans years := by
  set r := (year % 400).toNat with hr
  refine ⟨r / 100, r % 100 / 4, r % 4, by omega, by omega, by omega, by omega, ?_, ?_⟩
  · unfold daysBeforeYear
    omega
  · have hleap := isLeap_iff (year + 1)
    unfold daysOfYear
    split <;> split <;> grind

/-- Only a leap year has a day 365, counted from zero. -/
theorem IsYear.lt_or_eq {a b c k : ℕ} (h : IsYear year a b c) (hk : k < daysOfYear year) :
    k < 365 ∨ k = 365 ∧ c = 3 ∧ (b < 24 ∨ a = 3) := by
  rw [h.leap] at hk
  split at hk
  case isTrue hleap => exact (Nat.lt_succ_iff_lt_or_eq.mp hk).imp id fun hk => ⟨hk, hleap⟩
  case isFalse => exact .inl hk

/-- A year is followed by the next one after its days. -/
theorem startOfYear_succ (year : ℤ) : startOfYear (year + 1) = startOfYear year + daysOfYear year := by
  have hleap := isLeap_iff (year + 1)
  unfold startOfYear daysBeforeYear daysOfYear
  by_cases hlast : year % 400 = 399
  · -- the cycle ends with a leap year, which the closed form does not count
    have hdiv : (year + 1) / 400 = year / 400 + 1 := by omega
    have hmod : (year + 1) % 400 = 0 := by omega
    rw [if_pos (hleap.mpr (by omega)), hdiv, hmod, hlast]
    omega
  · obtain ⟨r, hr⟩ : ∃ r : ℕ, year % 400 = r := ⟨(year % 400).toNat, by omega⟩
    have hdiv : (year + 1) / 400 = year / 400 := by omega
    have hmod : (year + 1) % 400 = (r + 1 : ℕ) := by omega
    rw [hdiv, hmod, hr, Int.toNat_natCast, Int.toNat_natCast]
    split
    case isTrue h =>
      have := hleap.mp h
      omega
    case isFalse h =>
      have := mt hleap.mpr h
      omega

theorem startOfYear_eq (year : ℤ) :
    startOfYear year = startOfYear (year - 1) + daysOfYear (year - 1) := by
  rw [← startOfYear_succ, sub_add_cancel]

/-! ## Years of days -/

/-- The year in the cycle that a day of the cycle lies in. Without its leap days the cycle has years of
365 days. -/
def yearOfDay (day : ℕ) : ℕ := (day - day / 1460 + day / 36524 - day / 146096) / 365

/-- The days of a year lie in its cycle. -/
theorem add_lt_cycle {k : ℕ} (hk : k < daysOfYear year) :
    daysBeforeYear (year % 400).toNat + k < 146097 := by
  obtain ⟨a, b, c, h⟩ := exists_isYear year
  have hlast := h.lt_or_eq hk
  obtain ⟨ha, hb, hc, -, hbefore, -⟩ := h
  omega

/-- **The days of a year lie in this year.** -/
theorem yearOfDay_add {k : ℕ} (hk : k < daysOfYear year) :
    yearOfDay (daysBeforeYear (year % 400).toNat + k) = (year % 400).toNat := by
  obtain ⟨a, b, c, h⟩ := exists_isYear year
  have hlast := h.lt_or_eq hk
  obtain ⟨ha, hb, hc, hyear, hbefore, -⟩ := h
  rw [hbefore, hyear]
  clear hbefore hyear hk
  by_cases hcycle : a = 3 ∧ b = 24 ∧ c = 3 ∧ k = 365
  · obtain ⟨rfl, rfl, rfl, rfl⟩ := hcycle
    rfl
  -- all other days lie in a century of 36524 days
  have hcentury : 1461 * b + 365 * c + k < 36524 := by omega
  clear hcycle
  generalize hday : 36524 * a + 1461 * b + 365 * c + k = day
  have hcycles : day / 146096 = 0 := by omega
  have hcenturies : day / 36524 = a := by omega
  -- a span of four years is one day longer than 1460, so this quotient is short of a year
  have hle : day / 1460 ≤ 25 * a + b + k := by omega
  have hge : 25 * a + b + k ≤ day / 1460 + 364 := by
    rcases hlast with hlt | ⟨rfl, rfl, -⟩ <;> omega
  clear hlast
  unfold yearOfDay
  rw [hcycles, hcenturies]
  omega

/-- Every day lies in a year. -/
theorem exists_startOfYear_add (n : ℤ) :
    ∃ (year : ℤ) (k : ℕ), k < daysOfYear year ∧ n = startOfYear year + k := by
  induction n using Int.induction_on with
  | zero => exact ⟨0, 0, by decide, by decide⟩
  | succ n ih =>
      obtain ⟨year, k, hk, hn⟩ := ih
      rcases Nat.lt_or_eq_of_le (Nat.succ_le_of_lt hk) with hlt | heq
      · exact ⟨year, k + 1, hlt, by push_cast; omega⟩
      · refine ⟨year + 1, 0, (lt_daysOfYear _).pos, ?_⟩
        rw [startOfYear_succ]
        omega
  | pred n ih =>
      obtain ⟨year, k, hk, hn⟩ := ih
      cases k with
      | succ k => exact ⟨year, k, by omega, by push_cast at hn; omega⟩
      | zero =>
          -- the day before a year is the last one of the year before
          have hpos := lt_daysOfYear (year - 1)
          have hyear := startOfYear_eq year
          exact ⟨year - 1, daysOfYear (year - 1) - 1, by omega, by omega⟩

/-! ## Months from March -/

/-- The calendar year of a month from March, counted from zero. January and February belong to the
calendar year that follows. -/
def calendarYear (year : ℤ) (month : ℕ) : ℤ := year + if 10 ≤ month then 1 else 0

/-- The calendar month of a month from March. -/
def calendarMonth (month : ℕ) : ℕ := if month < 10 then month + 3 else month - 9

/-- The month from March that a day of the year lies in. -/
theorem month_eq_iff {k month : ℕ} :
    (5 * k + 2) / 153 = month ↔ daysBeforeMonth month ≤ k ∧ k < daysBeforeMonth (month + 1) := by
  unfold daysBeforeMonth
  omega

/-- A month ends where the next month or the next year from March begins. -/
theorem daysInMonth_calendar (year : ℤ) {month : ℕ} (hmonth : month < 12) :
    daysInMonth (calendarYear year month) (calendarMonth month)
      = min (daysBeforeMonth (month + 1)) (daysOfYear year) - daysBeforeMonth month := by
  unfold calendarYear calendarMonth daysInMonth daysOfYear
  by_cases hleap : isLeap (year + 1) = true
  · interval_cases month <;> simp [daysBeforeMonth, hleap]
  · interval_cases month <;> simp [daysBeforeMonth, hleap]

/-- Every month of the calendar is a month from March. -/
theorem exists_calendar {month : ℕ} (year : ℤ) (hpos : 1 ≤ month) (hle : month ≤ 12) :
    ∃ year' month', month' < 12 ∧ calendarYear year' month' = year ∧ calendarMonth month' = month := by
  unfold calendarYear calendarMonth
  by_cases hmarch : month ≤ 2
  · exact ⟨year - 1, month + 9, by omega, by grind, by grind⟩
  · exact ⟨year, month - 3, by omega, by grind, by grind⟩

/-! ## Places in years from March -/

/-- **A day by its year from March**, its month and its day, the latter two counted from zero. -/
structure Place where
  year : ℤ
  month : ℕ
  day : ℕ
  month_lt : month < 12
  inMonth : daysBeforeMonth month + day < daysBeforeMonth (month + 1)
  inYear : daysBeforeMonth month + day < daysOfYear year

namespace Place

/-- The date of a day. -/
def date (p : Place) : Date := ⟨calendarYear p.year p.month, calendarMonth p.month, p.day + 1⟩

/-- The number of a day. -/
def number (p : Place) : ℤ :=
  startOfYear p.year + (daysBeforeMonth p.month + p.day : ℕ) + epoch

theorem isValid_date (p : Place) : p.date.isValid = true := by
  have hmonth := p.month_lt
  have hday := p.inMonth
  have hyear := p.inYear
  refine isValid_iff.mpr ⟨?_, ?_, Nat.succ_pos _, ?_⟩
  · grind [date, calendarMonth]
  · grind [date, calendarMonth]
  · simp only [date, daysInMonth_calendar p.year hmonth]
    omega

/-- Every date that exists has a place. -/
theorem exists_date_eq (hd : d.isValid = true) : ∃ p : Place, p.date = d := by
  obtain ⟨hmonth, hmonths, hday, hdays⟩ := isValid_iff.mp hd
  obtain ⟨year, month, day⟩ := d
  obtain ⟨year, month, hlt, rfl, rfl⟩ := exists_calendar year hmonth hmonths
  simp only [daysInMonth_calendar _ hlt] at hday hdays
  refine ⟨⟨year, month, day - 1, hlt, by omega, by omega⟩, ?_⟩
  simp only [date, Nat.sub_add_cancel hday]

/-- Every number is that of a place. -/
theorem exists_number_eq (n : ℤ) : ∃ p : Place, p.number = n := by
  obtain ⟨year, k, hk, hn⟩ := exists_startOfYear_add (n - epoch)
  have hle := daysOfYear_le year
  obtain ⟨month, hmonth⟩ : ∃ month, (5 * k + 2) / 153 = month := ⟨_, rfl⟩
  obtain ⟨hbefore, hnext⟩ := month_eq_iff.mp hmonth
  refine ⟨⟨year, month, k - daysBeforeMonth month, by omega, by omega, by omega⟩, ?_⟩
  simp only [number, Nat.add_sub_cancel' hbefore]
  omega

/-- The closed form numbers the days. -/
theorem toDays_date (p : Place) : p.date.toDays = p.number := by
  have hlt := p.month_lt
  have hyear : (if p.date.month ≤ 2 then p.date.year - 1 else p.date.year) = p.year := by
    grind [date, calendarMonth, calendarYear]
  have hmonth : (p.date.month + 9) % 12 = p.month := by grind [date, calendarMonth]
  have hday : p.date.day = p.day + 1 := rfl
  simp only [toDays, hyear, hmonth, hday, number, startOfYear]
  omega

/-- **The closed form finds the days.** -/
theorem ofDays_number (p : Place) : ofDays p.number = p.date := by
  have hle := add_lt_cycle p.inYear
  have hyear := yearOfDay_add p.inYear
  set k := daysBeforeMonth p.month + p.day with hk
  have hnumber : p.number - epoch
      = p.year / 400 * 146097 + (daysBeforeYear (p.year % 400).toNat + k : ℕ) := by
    simp only [number, startOfYear]
    omega
  have hdiv : (p.number - epoch) / 146097 = p.year / 400 := by omega
  have hmod : ((p.number - epoch) % 146097).toNat = daysBeforeYear (p.year % 400).toNat + k := by omega
  have hmonth : (5 * k + 2) / 153 = p.month :=
    month_eq_iff.mpr ⟨Nat.le_add_right _ _, p.inMonth⟩
  have hday : k - daysBeforeMonth p.month = p.day := by omega
  have hcycle : p.year / 400 * 400 + (p.year % 400).toNat = p.year := by omega
  unfold yearOfDay at hyear
  simp only [ofDays, hdiv, hmod, hyear, Nat.add_sub_cancel_left, hmonth, hday, hcycle, date,
    calendarYear, calendarMonth]

/-- **The day after a day has a place**, and the next number. -/
theorem exists_next (p : Place) : ∃ q : Place, q.date = p.date.next ∧ q.number = p.number + 1 := by
  obtain ⟨year, month, day, hmonth, hinMonth, hinYear⟩ := p
  have hdays := daysInMonth_calendar year hmonth
  by_cases hlast : daysBeforeMonth month + (day + 1) < daysBeforeMonth (month + 1)
      ∧ daysBeforeMonth month + (day + 1) < daysOfYear year
  · refine ⟨⟨year, month, day + 1, hmonth, hlast.1, hlast.2⟩, ?_, ?_⟩
    · simp only [date, next, hdays]
      rw [if_pos (by omega)]
    · simp only [number]
      omega
  have hnext : next ⟨calendarYear year month, calendarMonth month, day + 1⟩
      = if calendarMonth month < 12 then ⟨calendarYear year month, calendarMonth month + 1, 1⟩
        else ⟨calendarYear year month + 1, 1, 1⟩ := by
    simp only [next, hdays]
    rw [if_neg (by omega)]
  have hyear := lt_daysOfYear year
  by_cases hmonths : month = 11
  · -- the year from March ends with its February
    subst hmonths
    have hle := daysOfYear_le year
    refine ⟨⟨year + 1, 0, 0, by decide, by decide, (lt_daysOfYear _).pos⟩, ?_, ?_⟩
    · simp only [date, hnext]
      grind [calendarYear, calendarMonth]
    · simp only [number, startOfYear_succ]
      unfold daysBeforeMonth at *
      omega
  · refine ⟨⟨year, month + 1, 0, by omega, ?_, ?_⟩, ?_, ?_⟩
    · unfold daysBeforeMonth
      omega
    · unfold daysBeforeMonth
      omega
    · simp only [date, hnext]
      grind [calendarYear, calendarMonth]
    · simp only [number]
      unfold daysBeforeMonth at *
      omega

end Place

/-! ## The count of days -/

/-- The date of every day exists. -/
theorem isValid_ofDays (n : ℤ) : (ofDays n).isValid = true := by
  obtain ⟨p, rfl⟩ := Place.exists_number_eq n
  rw [p.ofDays_number]
  exact p.isValid_date

/-- **The date of a day has the number of this day.** -/
@[simp] theorem toDays_ofDays (n : ℤ) : (ofDays n).toDays = n := by
  obtain ⟨p, rfl⟩ := Place.exists_number_eq n
  rw [p.ofDays_number, p.toDays_date]

/-- **A date is found by its number.** -/
theorem ofDays_toDays (hd : d.isValid = true) : ofDays d.toDays = d := by
  obtain ⟨p, rfl⟩ := Place.exists_date_eq hd
  rw [p.toDays_date, p.ofDays_number]

theorem isValid_next (hd : d.isValid = true) : d.next.isValid = true := by
  obtain ⟨p, rfl⟩ := Place.exists_date_eq hd
  obtain ⟨q, hdate, -⟩ := p.exists_next
  exact hdate ▸ q.isValid_date

/-- **The next day has the next number.** -/
theorem toDays_next (hd : d.isValid = true) : d.next.toDays = d.toDays + 1 := by
  obtain ⟨p, rfl⟩ := Place.exists_date_eq hd
  obtain ⟨q, hdate, hnumber⟩ := p.exists_next
  rw [← hdate, q.toDays_date, p.toDays_date, hnumber]

/-- The closed form goes from day to day. -/
theorem ofDays_succ (n : ℤ) : ofDays (n + 1) = (ofDays n).next := by
  have hvalid := isValid_ofDays n
  rw [← ofDays_toDays (isValid_next hvalid), toDays_next hvalid, toDays_ofDays]

/-- The closed form only counts days from day to day. -/
theorem numbered_ofDays (n : ℤ) : Numbered (ofDays n) n := by
  induction n using Int.induction_on with
  | zero => exact .epoch
  | succ n ih => exact ofDays_succ _ ▸ ih.next
  | pred n ih =>
      refine .previous (isValid_ofDays _) ?_
      rw [← ofDays_succ, sub_add_cancel]
      exact ih

/-- **The closed form is the count from day to day**, of all dates that exist. -/
theorem numbered_iff : Numbered d n ↔ d.isValid = true ∧ d.toDays = n := by
  constructor
  · intro h
    induction h with
    | epoch => decide
    | next h ih =>
        obtain ⟨hvalid, rfl⟩ := ih
        exact ⟨isValid_next hvalid, toDays_next hvalid⟩
    | previous hvalid h ih =>
        refine ⟨hvalid, ?_⟩
        rw [← ih.2, toDays_next hvalid, add_sub_cancel_right]
  · rintro ⟨hvalid, rfl⟩
    have h := numbered_ofDays d.toDays
    rwa [ofDays_toDays hvalid] at h

/-! ## Calendar years -/

/-- The first day of a calendar year. -/
def newYear (year : ℤ) : Date := ⟨year, 1, 1⟩

theorem toDays_newYear (year : ℤ) : (newYear year).toDays = startOfYear (year - 1) + 306 + epoch := by
  simp [newYear, toDays, startOfYear, daysBeforeMonth]

/-- The days of a calendar year lie between its first day and that of the next one. -/
theorem toDays_mem_year (hd : d.isValid = true) :
    (newYear d.year).toDays ≤ d.toDays ∧ d.toDays < (newYear (d.year + 1)).toDays := by
  obtain ⟨p, rfl⟩ := Place.exists_date_eq hd
  obtain ⟨year, month, day, hmonth, hinMonth, hinYear⟩ := p
  have hyear := startOfYear_eq year
  have hlt := lt_daysOfYear (year - 1)
  rw [toDays_newYear, toDays_newYear, Place.toDays_date]
  simp only [Place.date, Place.number, calendarYear, add_sub_cancel_right]
  split
  case isTrue hle =>
    have hjanuary : 306 ≤ daysBeforeMonth month := by
      unfold daysBeforeMonth
      omega
    rw [add_sub_cancel_right, startOfYear_succ]
    omega
  case isFalse hlt =>
    have hjanuary : daysBeforeMonth (month + 1) ≤ 306 := by
      unfold daysBeforeMonth
      omega
    rw [add_zero]
    omega

/-- **A day comes before a calendar year if its own year does.** -/
theorem toDays_lt_newYear_iff (hd : d.isValid = true) :
    d.toDays < (newYear year).toDays ↔ d.year < year := by
  obtain ⟨hle, hlt⟩ := toDays_mem_year hd
  have hmono : Monotone fun year => (newYear year).toDays := monotone_int_of_le_succ fun year => by
    have hyear := startOfYear_eq year
    rw [toDays_newYear, toDays_newYear, add_sub_cancel_right]
    omega
  constructor
  · intro h
    by_contra hyear
    exact absurd (hle.trans_lt h) (not_lt.mpr (hmono (not_lt.mp hyear)))
  · intro hyear
    exact hlt.trans_le (hmono (Int.add_one_le_iff.mpr hyear))

end Date

end TurnByTurn
