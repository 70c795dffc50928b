import TypedSteps.Calendar.Date

/-!
# Days and dates

The days are numbered without gaps, and every day has just one date of the calendar.

* `LeapYear`, `daysOfMonth`, `Date.InCalendar` — the dates of the calendar, said without tables;
* `daysBeforeYear_succ`, `yearOfDay_spec`, `yearOfDay_unique` — every day lies in one year;
* `splitMonths_spec`, `splitMonths_take` — every day of a year lies in one month;
* `ofDayNumber_dayNumber`, `dayNumber_ofDayNumber` — from dates to days and back.
-/

namespace TypedSteps.Calendar

-- ---------------------------------------------------------------------------
-- The calendar
-- ---------------------------------------------------------------------------

/-- Every fourth year is a leap year, but of the full centuries only every fourth. -/
def LeapYear (year : Int) : Prop :=
  4 ∣ year ∧ (100 ∣ year → 400 ∣ year)

instance (year : Int) : Decidable (LeapYear year) :=
  inferInstanceAs (Decidable (_ ∧ _))

/-- The number of days of a month. -/
def daysOfMonth (year : Int) (month : Nat) : Nat :=
  if month = 2 then (if LeapYear year then 29 else 28)
  else if month = 4 ∨ month = 6 ∨ month = 9 ∨ month = 11 then 30
  else 31

/-- A date of the Gregorian calendar, which is carried on to all years. -/
structure Date.InCalendar (d : Date) : Prop where
  month : 1 ≤ d.month ∧ d.month ≤ 12
  day : 1 ≤ d.day ∧ d.day ≤ daysOfMonth d.year d.month

theorem isLeapYear_iff (year : Int) : isLeapYear year = true ↔ LeapYear year := by
  simp only [isLeapYear, LeapYear, Bool.and_eq_true, Bool.or_eq_true, beq_iff_eq, bne_iff_ne]
  omega

theorem length_monthLengths (year : Int) : (monthLengths year).length = 12 := rfl

/-- The table of a year lists the lengths of its months. -/
theorem getElem?_monthLengths (year : Int) {month : Nat} (h : 1 ≤ month ∧ month ≤ 12) :
    (monthLengths year)[month - 1]? = some (daysOfMonth year month) := by
  have hMonth : month = 1 ∨ month = 2 ∨ month = 3 ∨ month = 4 ∨ month = 5 ∨ month = 6 ∨
      month = 7 ∨ month = 8 ∨ month = 9 ∨ month = 10 ∨ month = 11 ∨ month = 12 := by omega
  rw [monthLengths]
  simp only [isLeapYear_iff]
  rcases hMonth with rfl | rfl | rfl | rfl | rfl | rfl | rfl | rfl | rfl | rfl | rfl | rfl <;> rfl

theorem isValid_iff (d : Date) : d.isValid = true ↔ d.InCalendar := by
  rw [Date.isValid, Bool.and_eq_true, Bool.and_eq_true, decide_eq_true_eq, decide_eq_true_eq]
  by_cases hMonth : 1 ≤ d.month ∧ d.month ≤ 12
  · rw [getElem?_monthLengths d.year hMonth]
    simp only [decide_eq_true_eq]
    constructor
    · rintro ⟨⟨-, hPos⟩, hDay⟩
      exact ⟨hMonth, hPos, hDay⟩
    · rintro ⟨-, hPos, hDay⟩
      exact ⟨⟨hMonth.1, hPos⟩, hDay⟩
  · refine iff_of_false ?_ fun h => hMonth h.month
    rintro ⟨⟨hPos, -⟩, hDay⟩
    have hNone : (monthLengths d.year)[d.month - 1]? = none := by
      rw [List.getElem?_eq_none_iff, length_monthLengths]
      omega
    rw [hNone] at hDay
    cases hDay

-- ---------------------------------------------------------------------------
-- Years
-- ---------------------------------------------------------------------------

/-- The days of some months together. -/
def totalDays (lengths : List Nat) : Nat :=
  lengths.foldr (· + ·) 0

theorem totalDays_nil : totalDays [] = 0 := rfl

theorem totalDays_cons (first : Nat) (rest : List Nat) :
    totalDays (first :: rest) = first + totalDays rest := rfl

/-- A year is as long as its months together. -/
theorem daysBeforeYear_succ (year : Int) :
    daysBeforeYear (year + 1) = daysBeforeYear year + totalDays (monthLengths year) := by
  have hLength : (totalDays (monthLengths year) : Int) = if LeapYear year then 366 else 365 := by
    rw [monthLengths]
    simp only [isLeapYear_iff]
    split <;> rfl
  rw [hLength, daysBeforeYear, daysBeforeYear]
  by_cases h : LeapYear year
  · rw [if_pos h]
    unfold LeapYear at h
    omega
  · rw [if_neg h]
    unfold LeapYear at h
    omega

theorem daysBeforeYear_le {year later : Int} (h : year ≤ later) :
    daysBeforeYear year ≤ daysBeforeYear later := by
  rcases Int.lt_or_eq_of_le h with h | rfl
  · simp only [daysBeforeYear]
    omega
  · exact Int.le_refl _

/-- The year of a day begins with the day or before it and ends after it: four hundred years
have 146097 days, so a year guessed by their mean length is off by one at most. -/
theorem yearOfDay_spec (days : Int) :
    daysBeforeYear (yearOfDay days) ≤ days ∧ days < daysBeforeYear (yearOfDay days + 1) := by
  have hLow : daysBeforeYear (400 * days / 146097 + 1 - 1) ≤ days := by
    rw [daysBeforeYear]
    omega
  have hHigh : days < daysBeforeYear (400 * days / 146097 + 1 + 1 + 1) := by
    rw [daysBeforeYear]
    omega
  rw [yearOfDay]
  generalize 400 * days / 146097 + 1 = guess at hLow hHigh
  by_cases hBefore : days < daysBeforeYear guess
  · rw [if_pos hBefore, Int.sub_add_cancel]
    exact ⟨hLow, hBefore⟩
  · rw [if_neg hBefore]
    by_cases hAfter : daysBeforeYear (guess + 1) ≤ days
    · rw [if_pos hAfter]
      exact ⟨hAfter, hHigh⟩
    · rw [if_neg hAfter]
      exact ⟨Int.not_lt.mp hBefore, Int.not_le.mp hAfter⟩

theorem yearOfDay_unique {year days : Int} (hFirst : daysBeforeYear year ≤ days)
    (hLast : days < daysBeforeYear (year + 1)) : yearOfDay days = year := by
  obtain ⟨hFirst', hLast'⟩ := yearOfDay_spec days
  rcases Int.lt_trichotomy (yearOfDay days) year with hlt | heq | hgt
  · have hle := daysBeforeYear_le (Int.add_one_le_of_lt hlt)
    omega
  · exact heq
  · have hle := daysBeforeYear_le (Int.add_one_le_of_lt hgt)
    omega

-- ---------------------------------------------------------------------------
-- Months
-- ---------------------------------------------------------------------------

/-- A day of the year lies in a month, after the days of the months before it. -/
theorem splitMonths_spec {lengths : List Nat} {days : Nat} (h : days < totalDays lengths) :
    ∃ month length day, splitMonths lengths days = (month, day) ∧
      lengths[month]? = some length ∧ day < length ∧ totalDays (lengths.take month) + day = days := by
  induction lengths generalizing days with
  | nil => exact absurd h (Nat.not_lt_zero days)
  | cons first rest ih =>
    rw [splitMonths]
    by_cases hFirst : days < first
    · rw [if_pos hFirst]
      exact ⟨0, first, days, rfl, rfl, hFirst, Nat.zero_add days⟩
    · rw [if_neg hFirst]
      rw [totalDays_cons] at h
      have hLater : days - first < totalDays rest := by omega
      obtain ⟨month, length, day, hSplit, hLength, hDay, hSum⟩ := ih hLater
      rw [hSplit]
      refine ⟨month + 1, length, day, rfl, hLength, hDay, ?_⟩
      rw [List.take_succ_cons, totalDays_cons]
      omega

/-- The days before a month and a day of the month lead to that month and day. -/
theorem splitMonths_take {lengths : List Nat} {month length day : Nat}
    (hLength : lengths[month]? = some length) (hDay : day < length) :
    splitMonths lengths (totalDays (lengths.take month) + day) = (month, day) := by
  induction lengths generalizing month with
  | nil => cases hLength
  | cons first rest ih =>
    rw [splitMonths]
    cases month with
    | zero =>
      rw [List.getElem?_cons_zero, Option.some.injEq] at hLength
      rw [List.take_zero, totalDays_nil, Nat.zero_add, hLength, if_pos hDay]
    | succ month =>
      rw [List.take_succ_cons, totalDays_cons, Nat.add_assoc,
        if_neg (Nat.not_lt.mpr (Nat.le_add_right _ _)), Nat.add_sub_cancel_left, ih hLength]

/-- A month ends with the year or before it. -/
theorem totalDays_take_add_le {lengths : List Nat} {month length : Nat}
    (h : lengths[month]? = some length) : totalDays (lengths.take month) + length ≤ totalDays lengths := by
  induction lengths generalizing month with
  | nil => cases h
  | cons first rest ih =>
    cases month with
    | zero =>
      rw [List.getElem?_cons_zero, Option.some.injEq] at h
      rw [List.take_zero, totalDays_nil, Nat.zero_add, totalDays_cons, h]
      exact Nat.le_add_right _ _
    | succ month =>
      have hRest := ih h
      rw [List.take_succ_cons, totalDays_cons, totalDays_cons]
      omega

-- ---------------------------------------------------------------------------
-- Dates
-- ---------------------------------------------------------------------------

/-- The number of a day from its year, the months before it and the day of its month. -/
theorem dayNumber_eq (d : Date) :
    d.dayNumber = daysBeforeYear d.year + totalDays ((monthLengths d.year).take (d.month - 1)) + d.day -
      1 - dayZero := rfl

/-- The day that a date of the calendar names lies in the year of the date. -/
theorem dayNumber_mem_year {d : Date} (h : d.InCalendar) :
    daysBeforeYear d.year ≤ d.dayNumber + dayZero ∧
      d.dayNumber + dayZero < daysBeforeYear (d.year + 1) := by
  obtain ⟨hMonth, hPos, hDay⟩ := h
  have hEnd := totalDays_take_add_le (getElem?_monthLengths d.year hMonth)
  rw [daysBeforeYear_succ, dayNumber_eq]
  omega

/-- The date of the day that a date of the calendar names is the date itself. -/
theorem ofDayNumber_dayNumber {d : Date} (h : d.InCalendar) : Date.ofDayNumber d.dayNumber = d := by
  have hYear : yearOfDay (d.dayNumber + dayZero) = d.year :=
    yearOfDay_unique (dayNumber_mem_year h).1 (dayNumber_mem_year h).2
  obtain ⟨hMonth, hPos, hDay⟩ := h
  have hLength := getElem?_monthLengths d.year hMonth
  have hDays : d.dayNumber + dayZero = daysBeforeYear d.year +
      (totalDays ((monthLengths d.year).take (d.month - 1)) + (d.day - 1) : Nat) := by
    rw [dayNumber_eq]
    omega
  have hRest : (d.dayNumber + dayZero - daysBeforeYear d.year).toNat =
      totalDays ((monthLengths d.year).take (d.month - 1)) + (d.day - 1) := by
    rw [hDays]
    omega
  rw [Date.ofDayNumber, hYear, hRest, splitMonths_take hLength (by omega)]
  dsimp only
  rw [Nat.sub_add_cancel hMonth.1, Nat.sub_add_cancel hPos]

/-- Every day has a date of the calendar, and that date names the day. -/
theorem dayNumber_ofDayNumber (n : Int) :
    (Date.ofDayNumber n).InCalendar ∧ (Date.ofDayNumber n).dayNumber = n := by
  obtain ⟨hFirst, hLast⟩ := yearOfDay_spec (n + dayZero)
  rw [daysBeforeYear_succ] at hLast
  have hRest : (n + dayZero - daysBeforeYear (yearOfDay (n + dayZero))).toNat <
      totalDays (monthLengths (yearOfDay (n + dayZero))) := by omega
  obtain ⟨month, length, day, hSplit, hLength, hDay, hSum⟩ := splitMonths_spec hRest
  have hDate : Date.ofDayNumber n = ⟨yearOfDay (n + dayZero), month + 1, day + 1⟩ := by
    rw [Date.ofDayNumber, hSplit]
  have hMonth : 1 ≤ month + 1 ∧ month + 1 ≤ 12 := by
    have hlt := (List.getElem?_eq_some_iff.mp hLength).1
    rw [length_monthLengths] at hlt
    omega
  have hLengths := getElem?_monthLengths (yearOfDay (n + dayZero)) hMonth
  rw [Nat.add_sub_cancel, hLength, Option.some.injEq] at hLengths
  rw [hDate]
  refine ⟨⟨hMonth, Nat.le_add_left _ _, ?_⟩, ?_⟩
  · show day + 1 ≤ daysOfMonth _ _
    rw [← hLengths]
    exact hDay
  · rw [dayNumber_eq]
    dsimp only
    rw [Nat.add_sub_cancel]
    omega

end TypedSteps.Calendar
