import TypedSteps.Proofs.Calendar.LocalClocks

/-!
# Changes of the clock by weeks

Most zones change the clock on a weekday of a week of a month. Such a day lies in its month in every
year, so two changes with another month between them keep clear of each other.

* `Change.OfMonth` — changes on a weekday of a week of a month;
* `Change.OfMonth.month_eq`, `Change.OfMonth.seconds_mem` — such a change happens in its month;
* `withinYear_of_months`, `aroundNewYear_of_months` — such changes keep clear of each other.
-/

namespace TypedSteps.Calendar

/-- The second with which a month begins on a clock, as if the clock ran in UTC. -/
def monthStart (year : Int) (month : Nat) : Int :=
  (Date.mk year month 1).dayNumber * secondsPerDay

/-- The change happens on a weekday of one of the weeks of a month, at a time of that day. -/
structure Change.OfMonth (c : Change) (month : Nat) : Prop where
  day : ∃ week weekday, c.day = .monthWeek month week weekday ∧ 1 ≤ week ∧ week ≤ 5
  time : 0 ≤ c.time ∧ c.time ≤ secondsPerDay

-- ---------------------------------------------------------------------------
-- Months
-- ---------------------------------------------------------------------------

theorem le_daysOfMonth (year : Int) (month : Nat) : 28 ≤ daysOfMonth year month := by
  unfold daysOfMonth
  split
  · split <;> omega
  · split <;> omega

theorem totalDays_take_add_le_take {lengths : List Nat} {month later length : Nat}
    (h : lengths[month]? = some length) (hlt : month < later) :
    totalDays (lengths.take month) + length ≤ totalDays (lengths.take later) := by
  have hLength : (lengths.take later)[month]? = some length := by
    rw [List.getElem?_take_of_lt hlt, h]
  have hle := totalDays_take_add_le hLength
  rwa [List.take_take, Nat.min_eq_left (Nat.le_of_lt hlt)] at hle

section Months

variable (year : Int) {month : Nat}

/-- A month ends when a later one of the year begins, or before. -/
theorem monthStart_add_le {later : Nat} (hMonth : 1 ≤ month) (hlt : month < later)
    (hLater : later ≤ 12) :
    monthStart year month + daysOfMonth year month * secondsPerDay ≤ monthStart year later := by
  have hIndex : month - 1 < later - 1 := by omega
  have hLength := getElem?_monthLengths year ⟨hMonth, Nat.le_trans (Nat.le_of_lt hlt) hLater⟩
  have hle := totalDays_take_add_le_take hLength hIndex
  unfold monthStart secondsPerDay
  rw [dayNumber_eq, dayNumber_eq]
  dsimp only
  omega

/-- A month has four weeks at least. -/
theorem monthStart_add_weeks_le {later : Nat} (hMonth : 1 ≤ month) (hlt : month < later)
    (hLater : later ≤ 12) : monthStart year month + 28 * secondsPerDay ≤ monthStart year later := by
  have hle := monthStart_add_le year hMonth hlt hLater
  have hDays := le_daysOfMonth year month
  unfold secondsPerDay at *
  omega

theorem yearStart_le_monthStart : yearStart year ≤ monthStart year month := by
  unfold yearStart monthStart secondsPerDay
  rw [dayNumber_eq]
  dsimp only
  omega

/-- A month ends when the next year begins, or before. -/
theorem monthStart_add_le_yearStart (hMonth : 1 ≤ month ∧ month ≤ 12) :
    monthStart year month + daysOfMonth year month * secondsPerDay ≤ yearStart (year + 1) := by
  have hle := totalDays_take_add_le (getElem?_monthLengths year hMonth)
  unfold yearStart monthStart secondsPerDay
  rw [dayNumber_eq, daysBeforeYear_succ]
  dsimp only
  omega

-- ---------------------------------------------------------------------------
-- Changes
-- ---------------------------------------------------------------------------

/-- The weekday of a week of a month is a day of the month. In the last week it may be the one
before the seven days that would come next. -/
theorem exists_day_of_monthWeek (hMonth : 1 ≤ month ∧ month ≤ 12) {week : Nat}
    (hWeek : 1 ≤ week ∧ week ≤ 5) (weekday : Nat) :
    ∃ day, 1 ≤ day ∧ day ≤ daysOfMonth year month ∧
      (ChangeDay.monthWeek month week weekday).dayNumber year =
        (Date.mk year month day).dayNumber := by
  have hle := le_daysOfMonth year month
  have hLength : (monthLengths year).getD (month - 1) 0 = daysOfMonth year month := by
    rw [List.getD_eq_getElem?_getD, getElem?_monthLengths year hMonth]
    rfl
  have hNumber (day : Nat) : (Date.mk year month (day + 1)).dayNumber =
      (Date.mk year month 1).dayNumber + day := by
    rw [dayNumber_eq, dayNumber_eq]
    dsimp only
    omega
  unfold ChangeDay.dayNumber
  dsimp only
  rw [hLength]
  generalize hToDay : (weekday + 7 - Calendar.weekday (Date.mk year month 1).dayNumber) % 7 = toDay
  have hlt : toDay < 7 := by omega
  split
  case isTrue hWanted =>
    exact ⟨toDay + (week - 1) * 7 + 1, by omega, by omega, (hNumber _).symm⟩
  case isFalse hWanted =>
    exact ⟨toDay + (week - 1) * 7 - 7 + 1, by omega, by omega, (hNumber _).symm⟩

section OfMonth

variable {c : Change}

theorem Change.OfMonth.month_eq (h : c.OfMonth month) (hMonth : 1 ≤ month ∧ month ≤ 12) :
    c.day.month year = month := by
  obtain ⟨week, weekday, hDay, hWeek⟩ := h.day
  obtain ⟨day, hPos, hle, heq⟩ := exists_day_of_monthWeek year hMonth hWeek weekday
  have hDate : (Date.mk year month day).InCalendar := ⟨hMonth, hPos, hle⟩
  have hYear := (dayNumber_mem_year hDate).2
  dsimp only at hYear
  rw [hDay, ChangeDay.month, heq]
  -- a day of a month is not past the end of the year
  rw [if_neg (by omega), ofDayNumber_dayNumber hDate]

/-- The clock is changed in its month, at its end at the latest. -/
theorem Change.OfMonth.seconds_mem (h : c.OfMonth month) (hMonth : 1 ≤ month ∧ month ≤ 12) :
    monthStart year month ≤ c.seconds year ∧
      c.seconds year ≤ monthStart year month + daysOfMonth year month * secondsPerDay := by
  obtain ⟨⟨week, weekday, hDay, hWeek⟩, hTime⟩ := h
  obtain ⟨day, hPos, hle, heq⟩ := exists_day_of_monthWeek year hMonth hWeek weekday
  unfold Change.seconds monthStart
  unfold secondsPerDay at hTime ⊢
  rw [hDay, heq, dayNumber_eq, dayNumber_eq]
  dsimp only
  omega

end OfMonth

end Months

-- ---------------------------------------------------------------------------
-- Rules
-- ---------------------------------------------------------------------------

section Rules

variable {rule : DaylightRule} {start finish : Nat}

/-- Daylight time that begins two months before it ends, or earlier, lies within the year. -/
theorem withinYear_of_months (hStart : rule.start.OfMonth start)
    (hFinish : rule.finish.OfMonth finish) (hFirst : 1 ≤ start) (hApart : start + 2 ≤ finish)
    (hLast : finish ≤ 12) (hSaving : rule.saving ≤ secondsPerDay) (year : Int) :
    rule.WithinYear year := by
  obtain ⟨hBegin, hBegun⟩ := hStart.seconds_mem year (by omega)
  obtain ⟨hEnd, hEnded⟩ := hFinish.seconds_mem year (by omega)
  have hNext := monthStart_add_le year hFirst (Nat.lt_add_one start) (by omega)
  have hBetween : monthStart year (start + 1) + 28 * secondsPerDay ≤ monthStart year finish :=
    monthStart_add_weeks_le year (by omega) (by omega) hLast
  unfold secondsPerDay at *
  constructor
  · rw [hStart.month_eq year (by omega), hFinish.month_eq year (by omega)]
    omega
  · exact Int.le_trans (yearStart_le_monthStart year) hBegin
  · omega
  · exact Int.le_trans hEnded (monthStart_add_le_yearStart year (by omega))

/-- Daylight time that ends two months before it begins, or earlier, lies around the new year if
neither change happens in a month next to it. -/
theorem aroundNewYear_of_months (hStart : rule.start.OfMonth start)
    (hFinish : rule.finish.OfMonth finish) (hFirst : 2 ≤ finish) (hApart : finish + 2 ≤ start)
    (hLast : start ≤ 11) (hSaving : rule.saving ≤ secondsPerDay) (year : Int) :
    rule.AroundNewYear year := by
  obtain ⟨hBegin, hBegun⟩ := hStart.seconds_mem year (by omega)
  obtain ⟨hEnd, hEnded⟩ := hFinish.seconds_mem year (by omega)
  have hJanuary : monthStart year 1 + 28 * secondsPerDay ≤ monthStart year finish :=
    monthStart_add_weeks_le year (Nat.le_refl 1) hFirst (by omega)
  have hNext := monthStart_add_le year (by omega) (Nat.lt_add_one finish) (by omega)
  have hBetween : monthStart year (finish + 1) + 28 * secondsPerDay ≤ monthStart year start :=
    monthStart_add_weeks_le year (by omega) (by omega) (by omega)
  have hDecember : monthStart year start + daysOfMonth year start * secondsPerDay ≤
      monthStart year 12 := monthStart_add_le year (by omega) (by omega) (Nat.le_refl 12)
  have hYear : yearStart year ≤ monthStart year 1 := yearStart_le_monthStart year
  have hNextYear : monthStart year 12 + daysOfMonth year 12 * secondsPerDay ≤
      yearStart (year + 1) := monthStart_add_le_yearStart year (by decide)
  have hDays := le_daysOfMonth year 12
  unfold secondsPerDay at *
  constructor
  · rw [hStart.month_eq year (by omega), hFinish.month_eq year (by omega)]
    omega
  · omega
  · omega
  · omega

end Rules

end TypedSteps.Calendar
