import TypedSteps.Calendar.Instant
import TypedSteps.Proofs.Calendar.Dates

/-!
# What clocks show at instants

A clock in UTC shows every time of the calendar at just one instant, where the second `60`
of a leap second is told from the second before it by its nanoseconds.

* `WallTime.InCalendar`, `isValid_wallTime_iff` — the times that a clock can show;
* `wallTime_atUtc`, `eq_atUtc_of_wallTime_eq` — from times to instants and back.
-/

namespace TypedSteps.Calendar

/-- A time that a clock can show on a day of the calendar. -/
structure WallTime.InCalendar (t : WallTime) : Prop where
  date : t.date.InCalendar
  hour : t.hour ≤ 23
  minute : t.minute ≤ 59
  second : t.second ≤ 60

theorem isValid_wallTime_iff (t : WallTime) : t.isValid = true ↔ t.InCalendar := by
  simp only [WallTime.isValid, Bool.and_eq_true, decide_eq_true_eq, isValid_iff]
  constructor
  · rintro ⟨⟨⟨hDate, hHour⟩, hMinute⟩, hSecond⟩
    exact ⟨hDate, hHour, hMinute, hSecond⟩
  · rintro ⟨hDate, hHour, hMinute, hSecond⟩
    exact ⟨⟨⟨hDate, hHour⟩, hMinute⟩, hSecond⟩

section

variable {t : WallTime}

/-- The second that a clock shows: that of the time line, and one more in a leap second. -/
theorem min_add_nanos (h : t.second ≤ 60) :
    min t.second 59 + t.nanos / nanosPerSecond = t.second := by
  rw [WallTime.nanos]
  by_cases hLeap : t.second = 60
  · rw [if_pos hLeap, hLeap]
    decide
  · rw [if_neg hLeap, Nat.zero_div]
    omega

/-- At the instant of a time a clock in UTC shows that time. -/
theorem wallTime_atUtc (h : t.InCalendar) : t.atUtc.wallTime = t := by
  obtain ⟨hDate, hHour, hMinute, hSecond⟩ := h
  have hClock := min_add_nanos hSecond
  generalize hTime : t.hour * 3600 + t.minute * 60 + min t.second 59 = time
  have hlt : time < 86400 := by omega
  have hSeconds : t.seconds = t.date.dayNumber * 86400 + (time : Int) := by
    rw [WallTime.seconds, secondsPerDay]
    omega
  have hDay : t.seconds / secondsPerDay = t.date.dayNumber := by
    rw [hSeconds, secondsPerDay]
    omega
  have hRest : (t.seconds % secondsPerDay).toNat = time := by
    rw [hSeconds, secondsPerDay]
    omega
  show WallTime.mk _ _ _ _ = t
  rw [WallTime.atUtc]
  dsimp only
  rw [hDay, hRest, ofDayNumber_dayNumber hDate]
  have hHours : time / 3600 = t.hour := by omega
  have hMinutes : time / 60 % 60 = t.minute := by omega
  have hSeconds : time % 60 = min t.second 59 := by omega
  rw [hHours, hMinutes, hSeconds, hClock]

/-- There is only one instant with its nanoseconds at which a clock in UTC shows a time. -/
theorem eq_atUtc_of_wallTime_eq {i : Instant} (hShows : i.wallTime = t)
    (hNanos : i.nanos = t.nanos) : i = t.atUtc := by
  subst hShows
  have hDay := (dayNumber_ofDayNumber (i.seconds / secondsPerDay)).2
  have hClock : min i.wallTime.second 59 = (i.seconds % secondsPerDay).toNat % 60 := by
    have hSecond : i.wallTime.second =
        (i.seconds % secondsPerDay).toNat % 60 + i.nanos / nanosPerSecond := rfl
    by_cases hLeap : i.wallTime.second = 60
    · rw [WallTime.nanos, if_pos hLeap] at hNanos
      rw [hNanos, Nat.div_self (by decide)] at hSecond
      omega
    · rw [WallTime.nanos, if_neg hLeap] at hNanos
      rw [hNanos, Nat.zero_div] at hSecond
      omega
  have hSeconds : i.seconds = i.wallTime.seconds := by
    rw [WallTime.seconds, hClock]
    simp only [Instant.wallTime, hDay]
    rw [secondsPerDay]
    omega
  rw [WallTime.atUtc, ← hSeconds, ← hNanos]

end

end TypedSteps.Calendar
