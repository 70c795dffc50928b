import Mathlib.Order.Bounds.Defs
import Mathlib.Tactic.SplitIfs
import TypedSteps.Calendar.Zone
import TypedSteps.Proofs.Calendar.Instants

/-!
# What local clocks show

A zone tells for every second of the time line what a clock in it shows: standard time, but
daylight time from the second in which the clock is put forward to the one in which it is put
back. Read the other way round, a time on the clock is shown once, twice or never.

* `DaylightRule.InForce`, `Zone.OffsetAt`, `Zone.Shows` — what a clock shows, second by second;
* `DaylightRule.Regular`, `Zone.Regular` — zones whose two changes a year keep clear of each other;
* `Zone.AtOnset` — the time at which the clock is put forward, in zones where the year begins
  with standard time;
* `shows_iff_of_daylight` — the seconds in which a clock shows a time;
* `Zone.Regular.lastShown`, `Zone.Regular.not_shows_of_atOnset` — how a time on the clock is
  resolved, compared with when it is shown.
-/

namespace TypedSteps.Calendar

-- ---------------------------------------------------------------------------
-- Clocks
-- ---------------------------------------------------------------------------

namespace DaylightRule

/-- The second in which the clock is put forward. It shows standard time before. -/
def beginSecond (rule : DaylightRule) (offset year : Int) : Int :=
  rule.start.seconds year - offset

/-- The second in which the clock is put back. It shows daylight time before. -/
def endSecond (rule : DaylightRule) (offset year : Int) : Int :=
  rule.finish.seconds year - (offset + rule.saving)

/-- Daylight time is in force: the clock has been put forward and has not been put back since. -/
def InForce (rule : DaylightRule) (offset second : Int) : Prop :=
  ∃ year, rule.beginSecond offset year ≤ second ∧
    ∀ other, rule.beginSecond offset year < rule.endSecond offset other →
      second < rule.endSecond offset other

end DaylightRule

/-- The offset from UTC that clocks of a zone have in a second of the time line. -/
inductive Zone.OffsetAt (z : Zone) (second : Int) : Int → Prop
  | standard (h : ∀ rule ∈ z.daylight, ¬rule.InForce z.offset second) : OffsetAt z second z.offset
  | daylight {rule : DaylightRule} (hRule : rule ∈ z.daylight)
      (h : rule.InForce z.offset second) : OffsetAt z second (z.offset + rule.saving)

/-- A clock of the zone shows a time in a second of the time line. -/
def Zone.Shows (z : Zone) (t : WallTime) (second : Int) : Prop :=
  ∃ offset, z.OffsetAt second offset ∧ (Instant.mk (second + offset) 0).wallTime = t

-- ---------------------------------------------------------------------------
-- Zones
-- ---------------------------------------------------------------------------

/-- The second with which a year begins on a clock, as if the clock ran in UTC. -/
def yearStart (year : Int) : Int :=
  (daysBeforeYear year - dayZero) * secondsPerDay

/-- Daylight time lies within a year: it begins in an earlier month than it ends. The times that
the clock skips and those that it shows twice are times of the year, the former before the
latter. -/
structure DaylightRule.WithinYear (rule : DaylightRule) (year : Int) : Prop where
  months : rule.start.day.month year < rule.finish.day.month year
  first : yearStart year ≤ rule.start.seconds year
  apart : rule.start.seconds year + rule.saving ≤ rule.finish.seconds year - rule.saving
  last : rule.finish.seconds year ≤ yearStart (year + 1)

/-- A year begins and ends with daylight time. The times that the clock skips and those that it
shows twice are times of the year, the former after the latter. -/
structure DaylightRule.AroundNewYear (rule : DaylightRule) (year : Int) : Prop where
  months : rule.finish.day.month year ≤ rule.start.day.month year
  first : yearStart year ≤ rule.finish.seconds year - rule.saving
  apart : rule.finish.seconds year < rule.start.seconds year
  last : rule.start.seconds year + rule.saving ≤ yearStart (year + 1)

/-- The clock is put forward and back once every year, always in the same order. -/
inductive DaylightRule.Regular (rule : DaylightRule) : Prop
  /-- Daylight time is no other than standard time. -/
  | still (h : rule.saving = 0)
  | within (hSaving : 0 < rule.saving) (h : ∀ year, rule.WithinYear year)
  | around (hSaving : 0 < rule.saving) (h : ∀ year, rule.AroundNewYear year)

/-- A zone that is less than a day ahead of UTC or behind it, with one offset or with a regular
change between two. -/
structure Zone.Regular (z : Zone) : Prop where
  behind : -secondsPerDay < z.offset
  ahead : z.offset < secondsPerDay
  daylight : ∀ rule ∈ z.daylight, z.offset + rule.saving < secondsPerDay ∧ rule.Regular

/-- The time is the one at which the clock is put forward, in a zone whose year begins with
standard time. -/
def Zone.AtOnset (z : Zone) (t : WallTime) : Prop :=
  ∃ rule ∈ z.daylight, 0 < rule.saving ∧
    rule.start.day.month t.date.year < rule.finish.day.month t.date.year ∧
    t.seconds = rule.start.seconds t.date.year

-- ---------------------------------------------------------------------------
-- Times of a year
-- ---------------------------------------------------------------------------

theorem yearStart_le {year later : Int} (h : year ≤ later) : yearStart year ≤ yearStart later := by
  have hDays := daysBeforeYear_le h
  unfold yearStart secondsPerDay
  omega

/-- A time on the clock is a time of the year of its date. -/
theorem seconds_mem_year {t : WallTime} (h : t.InCalendar) :
    yearStart t.date.year ≤ t.seconds ∧ t.seconds < yearStart (t.date.year + 1) := by
  obtain ⟨hDate, hHour, hMinute, -⟩ := h
  have hDay := dayNumber_mem_year hDate
  unfold yearStart WallTime.seconds secondsPerDay
  omega

/-- Without a leap second, a clock in UTC shows a time in just one second. -/
theorem wallTime_eq_iff {t : WallTime} (h : t.InCalendar) (hSecond : t.second ≤ 59)
    {seconds : Int} : (Instant.mk seconds 0).wallTime = t ↔ seconds = t.seconds := by
  have hNanos : t.nanos = 0 := if_neg (by omega)
  constructor
  · intro hShows
    have hInstant := eq_atUtc_of_wallTime_eq hShows hNanos.symm
    rw [WallTime.atUtc, Instant.mk.injEq] at hInstant
    exact hInstant.1
  · rintro rfl
    rw [← hNanos]
    exact wallTime_atUtc h

-- ---------------------------------------------------------------------------
-- Daylight time
-- ---------------------------------------------------------------------------

section InForce

variable {rule : DaylightRule} {year t : Int}

/-- Where daylight time lies within the year, it is in force between the changes of the year. The
shift is the one of the clock that shows the time `t`, from nothing up to the whole saving. -/
theorem inForce_iff_of_within (offset shift : Int) (hSaving : 0 < rule.saving)
    (h : ∀ year, rule.WithinYear year)
    (hYear : yearStart year ≤ t ∧ t < yearStart (year + 1))
    (hShift : 0 ≤ shift ∧ shift ≤ rule.saving) :
    rule.InForce offset (t - offset - shift) ↔
      rule.start.seconds year + shift ≤ t ∧ t < rule.finish.seconds year - rule.saving + shift := by
  have hThis := h year
  unfold DaylightRule.InForce DaylightRule.beginSecond DaylightRule.endSecond
  constructor
  · rintro ⟨began, hBegan, hEnds⟩
    have hOther := h began
    have hEnd := hEnds began (by have := hOther.apart; omega)
    -- a year's daylight time is over before the next year and begins after the last
    obtain hlt | rfl | hgt := Int.lt_trichotomy began year
    · have hle := yearStart_le (Int.add_one_le_of_lt hlt)
      have hLast := hOther.last
      omega
    · omega
    · have hle := yearStart_le (Int.add_one_le_of_lt hgt)
      have hFirst := hOther.first
      omega
  · rintro ⟨hBegan, hEnds⟩
    refine ⟨year, by omega, fun other hAfter => ?_⟩
    have hOther := h other
    obtain hlt | rfl | hgt := Int.lt_trichotomy other year
    · have hle := yearStart_le (Int.add_one_le_of_lt hlt)
      have hLast := hOther.last
      have hFirst := hThis.first
      omega
    · omega
    · have hle := yearStart_le (Int.add_one_le_of_lt hgt)
      have hFirst := hOther.first
      have hApart := hOther.apart
      omega

/-- Where daylight time lies around the new year, the clock is put back in a year before it is put
forward, in that year or a later one. -/
theorem finish_lt_start_of_around (h : ∀ year, rule.AroundNewYear year) {year later : Int}
    (hle : year ≤ later) : rule.finish.seconds year < rule.start.seconds later := by
  have hThis := (h year).apart
  obtain hlt | rfl := Int.lt_or_eq_of_le hle
  · have hYears := yearStart_le (Int.add_one_le_of_lt hlt)
    have hLast := (h year).last
    have hFirst := (h later).first
    have hApart := (h later).apart
    omega
  · exact hThis

/-- Where daylight time lies around the new year, it is in force but between the changes of the
year. -/
theorem inForce_iff_of_around (offset shift : Int) (hSaving : 0 < rule.saving)
    (h : ∀ year, rule.AroundNewYear year)
    (hYear : yearStart year ≤ t ∧ t < yearStart (year + 1))
    (hShift : 0 ≤ shift ∧ shift ≤ rule.saving) :
    rule.InForce offset (t - offset - shift) ↔
      t < rule.finish.seconds year - rule.saving + shift ∨ rule.start.seconds year + shift ≤ t := by
  have hLater {other : Int} (hOther : year < other) :
      t - offset - shift < rule.finish.seconds other - (offset + rule.saving) := by
    have hle := yearStart_le (Int.add_one_le_of_lt hOther)
    have hFirst := (h other).first
    omega
  unfold DaylightRule.InForce DaylightRule.beginSecond DaylightRule.endSecond
  constructor
  · rintro ⟨began, hBegan, hEnds⟩
    obtain hlt | rfl | hgt := Int.lt_trichotomy began year
    · -- what began in an earlier year ends in this year at the latest
      have hle := yearStart_le (Int.add_one_le_of_lt hlt)
      have hLast := (h began).last
      have hFirst := (h year).first
      have hEnd := hEnds year (by omega)
      omega
    · omega
    · have hEnds := hLater hgt
      have hApart := (h began).apart
      omega
  · rintro (hEnds | hBegan)
    · refine ⟨year - 1, ?_, fun other hAfter => ?_⟩
      · have hLast := (h (year - 1)).last
        rw [Int.sub_add_cancel] at hLast
        omega
      · obtain hlt | rfl | hgt := Int.lt_trichotomy other year
        · have hBefore := finish_lt_start_of_around h (Int.le_sub_one_of_lt hlt)
          omega
        · omega
        · exact hLater hgt
    · refine ⟨year, by omega, fun other hAfter => ?_⟩
      by_cases hgt : year < other
      · exact hLater hgt
      · have hBefore := finish_lt_start_of_around h (Int.not_lt.mp hgt)
        omega

end InForce

-- ---------------------------------------------------------------------------
-- When a time is shown
-- ---------------------------------------------------------------------------

section Shows

variable {z : Zone} {rule : DaylightRule} {t : WallTime}

theorem shows_iff_exists (h : t.InCalendar) (hSecond : t.second ≤ 59) {second : Int} :
    z.Shows t second ↔ ∃ offset, z.OffsetAt second offset ∧ second = t.seconds - offset := by
  unfold Zone.Shows
  refine exists_congr fun offset => and_congr_right fun _ => ?_
  rw [wallTime_eq_iff h hSecond]
  omega

/-- With one offset only, a clock shows every time once. -/
theorem shows_iff_of_still (hStill : ∀ rule ∈ z.daylight, rule.saving = 0) (h : t.InCalendar)
    (hSecond : t.second ≤ 59) {second : Int} :
    z.Shows t second ↔ second = t.seconds - z.offset := by
  rw [shows_iff_exists h hSecond]
  constructor
  · rintro ⟨offset, hOffset, rfl⟩
    cases hOffset with
    | standard h => rfl
    | daylight hRule h =>
      rw [hStill _ hRule]
      omega
  · rintro rfl
    by_cases hForce : ∃ rule ∈ z.daylight, rule.InForce z.offset (t.seconds - z.offset)
    · obtain ⟨rule, hRule, hForce⟩ := hForce
      refine ⟨_, .daylight hRule hForce, ?_⟩
      rw [hStill rule hRule]
      omega
    · exact ⟨_, .standard fun rule hRule hr => hForce ⟨rule, hRule, hr⟩, rfl⟩

/-- A clock shows a time as standard time or as daylight time, whichever is in force then. -/
theorem shows_iff_of_daylight (hRule : z.daylight = some rule) (h : t.InCalendar)
    (hSecond : t.second ≤ 59) {second : Int} :
    z.Shows t second ↔
      (second = t.seconds - z.offset ∧ ¬rule.InForce z.offset (t.seconds - z.offset)) ∨
      (second = t.seconds - z.offset - rule.saving ∧
        rule.InForce z.offset (t.seconds - z.offset - rule.saving)) := by
  rw [shows_iff_exists h hSecond]
  constructor
  · rintro ⟨offset, hOffset, rfl⟩
    cases hOffset with
    | standard h => exact .inl ⟨rfl, h rule hRule⟩
    | daylight hOther h =>
      obtain rfl : rule = _ := Option.some.inj (hRule.symm.trans hOther)
      rw [← Int.sub_sub] at h ⊢
      exact .inr ⟨rfl, h⟩
  · rintro (⟨rfl, hForce⟩ | ⟨rfl, hForce⟩)
    · refine ⟨_, .standard fun other hOther => ?_, rfl⟩
      rw [← Option.some.inj (hRule.symm.trans hOther)]
      exact hForce
    · exact ⟨_, .daylight hRule hForce, Int.sub_sub _ _ _⟩

end Shows

-- ---------------------------------------------------------------------------
-- How times are resolved
-- ---------------------------------------------------------------------------

/-- What the offset that a time is read with should say: there is none if the clock never shows
the time, and else it gives the last second in which the clock does. -/
def Zone.LastShown (z : Zone) (t : WallTime) : Option Int → Prop
  | none => ∀ second, ¬z.Shows t second
  | some offset => IsGreatest {second | z.Shows t second} (t.seconds - offset)

section Resolve

variable {z : Zone} {rule : DaylightRule} {t : WallTime}

theorem Zone.lastShown_some {offset : Int} {shown : Int → Prop}
    (hShows : ∀ second, z.Shows t second ↔ shown second) (hMem : shown (t.seconds - offset))
    (hle : ∀ second, shown second → second ≤ t.seconds - offset) : z.LastShown t (some offset) :=
  ⟨(hShows _).mpr hMem, fun second hSecond => hle second ((hShows second).mp hSecond)⟩

theorem Zone.lastShown_none {shown : Int → Prop}
    (hShows : ∀ second, z.Shows t second ↔ shown second)
    (hNever : ∀ second, ¬shown second) : z.LastShown t none :=
  fun second hSecond => hNever second ((hShows second).mp hSecond)

/-- Where the clock is put forward by nothing, each time is read with the one offset there is. -/
theorem offset?_resolve_of_still (hSaving : rule.saving = 0) (offset year seconds : Int) :
    (rule.resolve offset year seconds).offset? = some offset := by
  have hDaylight : (Resolution.once (offset + (0 : Nat))).offset? = some offset :=
    congrArg some (Int.add_zero offset)
  unfold DaylightRule.resolve
  rw [hSaving]
  dsimp only
  split_ifs with hMonths
  · rfl
  · omega
  · exact hDaylight
  · rfl
  · rfl
  · exact hDaylight
  · rfl
  · rfl
  · omega
  · exact hDaylight

/-- The seconds in which a time is shown, where daylight time lies within the year. -/
theorem shows_iff_of_within (hRule : z.daylight = some rule) (hSaving : 0 < rule.saving)
    (hWithin : ∀ year, rule.WithinYear year) (h : t.InCalendar) (hSecond : t.second ≤ 59)
    {second : Int} :
    z.Shows t second ↔
      (second = t.seconds - z.offset ∧ (t.seconds < rule.start.seconds t.date.year ∨
        rule.finish.seconds t.date.year - rule.saving ≤ t.seconds)) ∨
      (second = t.seconds - z.offset - rule.saving ∧
        rule.start.seconds t.date.year + rule.saving ≤ t.seconds ∧
        t.seconds < rule.finish.seconds t.date.year) := by
  have hStandard := inForce_iff_of_within z.offset 0 hSaving hWithin (seconds_mem_year h)
    (by omega)
  have hDaylight := inForce_iff_of_within z.offset rule.saving hSaving hWithin
    (seconds_mem_year h) (by omega)
  rw [Int.sub_zero] at hStandard
  rw [shows_iff_of_daylight hRule h hSecond, hStandard, hDaylight]
  omega

/-- The seconds in which a time is shown, where daylight time lies around the new year. -/
theorem shows_iff_of_around (hRule : z.daylight = some rule) (hSaving : 0 < rule.saving)
    (hAround : ∀ year, rule.AroundNewYear year) (h : t.InCalendar) (hSecond : t.second ≤ 59)
    {second : Int} :
    z.Shows t second ↔
      (second = t.seconds - z.offset ∧ rule.finish.seconds t.date.year - rule.saving ≤ t.seconds ∧
        t.seconds < rule.start.seconds t.date.year) ∨
      (second = t.seconds - z.offset - rule.saving ∧
        (t.seconds < rule.finish.seconds t.date.year ∨
          rule.start.seconds t.date.year + rule.saving ≤ t.seconds)) := by
  have hStandard := inForce_iff_of_around z.offset 0 hSaving hAround (seconds_mem_year h)
    (by omega)
  have hDaylight := inForce_iff_of_around z.offset rule.saving hSaving hAround
    (seconds_mem_year h) (by omega)
  rw [Int.sub_zero] at hStandard
  rw [shows_iff_of_daylight hRule h hSecond, hStandard, hDaylight]
  omega

/-- Where daylight time lies within the year, a time is read as shown last, but for the one at which
the clock is put forward. -/
theorem lastShown_of_within (hRule : z.daylight = some rule) (hSaving : 0 < rule.saving)
    (hWithin : ∀ year, rule.WithinYear year) (h : t.InCalendar) (hSecond : t.second ≤ 59)
    (hOnset : t.seconds ≠ rule.start.seconds t.date.year) :
    z.LastShown t (rule.resolve z.offset t.date.year t.seconds).offset? := by
  have hShows (second : Int) : z.Shows t second ↔ _ :=
    shows_iff_of_within hRule hSaving hWithin h hSecond
  obtain ⟨hMonths, -, hApart, -⟩ := hWithin t.date.year
  unfold DaylightRule.resolve
  rw [if_pos hMonths]
  split_ifs with hBefore hSkipped hDaylight hTwice
  · exact Zone.lastShown_some hShows (by omega) (by omega)
  · exact Zone.lastShown_none hShows (by omega)
  · exact Zone.lastShown_some hShows (by omega) (by omega)
  · exact Zone.lastShown_some hShows (by omega) (by omega)
  · exact Zone.lastShown_some hShows (by omega) (by omega)

/-- Where daylight time lies around the new year, a time is read as shown last. -/
theorem lastShown_of_around (hRule : z.daylight = some rule) (hSaving : 0 < rule.saving)
    (hAround : ∀ year, rule.AroundNewYear year) (h : t.InCalendar) (hSecond : t.second ≤ 59) :
    z.LastShown t (rule.resolve z.offset t.date.year t.seconds).offset? := by
  have hShows (second : Int) : z.Shows t second ↔ _ :=
    shows_iff_of_around hRule hSaving hAround h hSecond
  obtain ⟨hMonths, -, hApart, -⟩ := hAround t.date.year
  unfold DaylightRule.resolve
  rw [if_neg (Nat.not_lt.mpr hMonths)]
  split_ifs with hBefore hTwice hStandard hSkipped
  · exact Zone.lastShown_some hShows (by omega) (by omega)
  · exact Zone.lastShown_some hShows (by omega) (by omega)
  · exact Zone.lastShown_some hShows (by omega) (by omega)
  · exact Zone.lastShown_none hShows (by omega)
  · exact Zone.lastShown_some hShows (by omega) (by omega)

/-- In a regular zone each time but that of an onset is read as shown last. -/
theorem Zone.Regular.lastShown (hz : z.Regular) (h : t.InCalendar) (hSecond : t.second ≤ 59)
    (hOnset : ¬z.AtOnset t) : z.LastShown t (z.resolve t).offset? := by
  unfold Zone.resolve
  cases hRule : z.daylight with
  | none =>
    have hStill : ∀ rule ∈ z.daylight, rule.saving = 0 := by simp [hRule]
    exact Zone.lastShown_some (fun _ => shows_iff_of_still hStill h hSecond) rfl
      fun _ => Int.le_of_eq
  | some rule =>
    cases (hz.daylight rule hRule).2 with
    | still hSaving =>
      have hStill : ∀ rule ∈ z.daylight, rule.saving = 0 := by simp [hRule, hSaving]
      show z.LastShown t (rule.resolve _ _ _).offset?
      rw [offset?_resolve_of_still hSaving]
      exact Zone.lastShown_some (fun _ => shows_iff_of_still hStill h hSecond) rfl
        fun _ => Int.le_of_eq
    | within hSaving hWithin =>
      refine lastShown_of_within hRule hSaving hWithin h hSecond fun heq => hOnset ?_
      exact ⟨rule, hRule, hSaving, (hWithin _).months, heq⟩
    | around hSaving hAround => exact lastShown_of_around hRule hSaving hAround h hSecond

/-- The time of an onset is never shown, but read as standard time. -/
theorem Zone.Regular.not_shows_of_atOnset (hz : z.Regular) (h : t.InCalendar)
    (hSecond : t.second ≤ 59) (hOnset : z.AtOnset t) :
    (∀ second, ¬z.Shows t second) ∧ (z.resolve t).offset? = some z.offset := by
  obtain ⟨rule, hRule, hSaving, hMonths, heq⟩ := hOnset
  cases (hz.daylight rule hRule).2 with
  | still hStill => omega
  | around hSaving hAround => exact absurd hMonths (Nat.not_lt.mpr (hAround _).months)
  | within hSaving hWithin =>
    constructor
    · intro second hShows
      have hApart := (hWithin t.date.year).apart
      rw [shows_iff_of_within hRule hSaving hWithin h hSecond] at hShows
      omega
    · unfold Zone.resolve
      rw [hRule]
      unfold DaylightRule.resolve
      dsimp only
      rw [if_pos hMonths, if_pos (Int.le_of_eq heq)]
      rfl

-- ---------------------------------------------------------------------------
-- Instants
-- ---------------------------------------------------------------------------

theorem resolve_cases (rule : DaylightRule) (offset year seconds : Int) :
    rule.resolve offset year seconds = .skipped ∨
      rule.resolve offset year seconds = .once offset ∨
      rule.resolve offset year seconds = .once (offset + rule.saving) ∨
      rule.resolve offset year seconds = .twice offset (offset + rule.saving) := by
  unfold DaylightRule.resolve
  dsimp only
  split_ifs <;> simp

/-- A time is read with the offset of standard time or with that of daylight time. -/
theorem offset_of_resolve {offset year seconds k : Int}
    (h : (rule.resolve offset year seconds).offset? = some k) :
    k = offset ∨ k = offset + rule.saving := by
  rcases resolve_cases rule offset year seconds with hr | hr | hr | hr
  · rw [hr] at h
    cases h
  · rw [hr] at h
    exact .inl (Option.some.inj h).symm
  · rw [hr] at h
    exact .inr (Option.some.inj h).symm
  · rw [hr] at h
    exact .inl (Option.some.inj h).symm

theorem Zone.Regular.offset_lt (hz : z.Regular) {k : Int} (hk : (z.resolve t).offset? = some k) :
    -secondsPerDay < k ∧ k < secondsPerDay := by
  obtain ⟨hBehind, hAhead, hDaylight⟩ := hz
  unfold Zone.resolve at hk
  cases hRule : z.daylight with
  | none =>
    rw [hRule] at hk
    obtain rfl : z.offset = k := Option.some.inj hk
    exact ⟨hBehind, hAhead⟩
  | some rule =>
    rw [hRule] at hk
    have hSaving := (hDaylight rule hRule).1
    rcases offset_of_resolve hk with rfl | rfl
    · exact ⟨hBehind, hAhead⟩
    · omega

/-- Times of years with four digits are times of instants that dates can be at. -/
theorem inRange_of_year (h : t.InCalendar) (hYear : 0 ≤ t.date.year ∧ t.date.year ≤ 9999) {k : Int}
    (hk : -secondsPerDay < k ∧ k < secondsPerDay) (nanos : Nat) :
    (Instant.mk (t.seconds - k) nanos).inRange = true := by
  have hSeconds := seconds_mem_year h
  have hFirst := yearStart_le hYear.1
  have hLast := yearStart_le (Int.add_le_add_right hYear.2 1)
  have hZero : yearStart 0 = -719528 * 86400 := rfl
  have hEnd : yearStart (9999 + 1) = 2932897 * 86400 := rfl
  have hLow : daysBeforeYear firstYear - dayZero = -96465292 := rfl
  have hHigh : daysBeforeYear (lastYear + 1) - dayZero = 95026237 := rfl
  unfold Instant.inRange
  rw [Bool.and_eq_true, decide_eq_true_eq, decide_eq_true_eq, hLow, hHigh]
  unfold secondsPerDay at hk ⊢
  dsimp only
  omega

/-- In a regular zone, times of years with four digits are read at the offset they are resolved
to. -/
theorem Zone.Regular.instantOf?_eq (hz : z.Regular) (h : t.InCalendar) (hSecond : t.second ≤ 59)
    (hYear : 0 ≤ t.date.year ∧ t.date.year ≤ 9999) :
    z.instantOf? t = (z.resolve t).offset?.map fun k => ⟨t.seconds - k, 0⟩ := by
  have hNanos : t.nanos = 0 := if_neg (by omega)
  unfold Zone.instantOf?
  cases hk : (z.resolve t).offset? with
  | none => rfl
  | some k =>
    dsimp only
    rw [hNanos, if_pos (inRange_of_year h hYear (hz.offset_lt hk) 0)]
    rfl

end Resolve

end TypedSteps.Calendar
