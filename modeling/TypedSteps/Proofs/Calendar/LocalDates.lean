import TypedSteps.Calendar.ZoneDescription
import TypedSteps.Proofs.Calendar.Changes
import TypedSteps.Proofs.Calendar.DateTexts

/-!
# What local dates denote

A date with slashes is a time on the clock of the local zone. It denotes the last second in which
the clock shows that time, and is refused if the clock never does. There is one exception: the time
at which the clock is put forward, in a zone where the year begins with standard time, is read as
if the clock still showed it.

* `convert_slashed` — a date with slashes is converted as its time is resolved;
* `convert_of_atOnset`, `convert_of_not_atOnset` — compared with when the time is shown;
* `local_dates_denote_last_second` — the instants that dates with slashes denote;
* `Eastern.zone`, `Southern.zone` — zones that end the year with standard and with daylight time;
* `repeated_and_skipped_times_eastern` — a time that is not read as shown first, and one that is
  read though it is skipped.
-/

namespace TypedSteps

open Calendar (WrittenDate Zone)

section

variable {zone : Zone} {d : WrittenDate}

/-- The pattern of dates matches every date that is written with slashes. -/
theorem matchesWhole_slashed (d : WrittenDate) :
    Builtin.date.MatchesWhole (String.ofList d.slashed) := by
  rw [matchesWhole_iff, String.toList_ofList, Calendar.shape_date_iff]
  exact ⟨d, .slashes⟩

theorem year_mem_of_written (d : WrittenDate) : 0 ≤ d.time.date.year ∧ d.time.date.year ≤ 9999 := by
  have hlt : d.day.year.value < 10000 := d.day.year.value_lt
  rw [d.date_time]
  show 0 ≤ (d.day.year.value : Int) ∧ (d.day.year.value : Int) ≤ 9999
  omega

/-- In a regular zone a date with slashes is converted as its time is resolved. -/
theorem convert_slashed (hZone : zone.Regular) (hValid : d.time.InCalendar)
    (hSecond : d.time.second ≤ 59) :
    Builtin.date.convert zone (String.ofList d.slashed) =
      match (zone.resolve d.time).offset? with
      | some offset => .ok (.date ⟨d.time.seconds - offset, 0⟩)
      | none => .error .nonexistentLocalTime := by
  rw [Builtin.convert, Calendar.readInstant_slashed,
    if_pos ((Calendar.isValid_wallTime_iff _).mpr hValid),
    hZone.instantOf?_eq hValid hSecond (year_mem_of_written d)]
  cases (zone.resolve d.time).offset? with
  | none => rfl
  | some offset => rfl

/-- The time of an onset is never shown, and is read as standard time. -/
theorem convert_of_atOnset (hZone : zone.Regular) (hValid : d.time.InCalendar)
    (hSecond : d.time.second ≤ 59) (hOnset : zone.AtOnset d.time) :
    (∀ second, ¬zone.Shows d.time second) ∧
      Builtin.date.convert zone (String.ofList d.slashed) =
        .ok (.date ⟨d.time.seconds - zone.offset, 0⟩) := by
  obtain ⟨hNever, hOffset⟩ := hZone.not_shows_of_atOnset hValid hSecond hOnset
  refine ⟨hNever, ?_⟩
  rw [convert_slashed hZone hValid hSecond, hOffset]

/-- Any other time is read as shown last, and is refused if it is never shown. -/
theorem convert_of_not_atOnset (hZone : zone.Regular) (hValid : d.time.InCalendar)
    (hSecond : d.time.second ≤ 59) (hOnset : ¬zone.AtOnset d.time) :
    (∃ last, IsGreatest {second | zone.Shows d.time second} last ∧
      Builtin.date.convert zone (String.ofList d.slashed) = .ok (.date ⟨last, 0⟩)) ∨
    ((∀ second, ¬zone.Shows d.time second) ∧
      Builtin.date.convert zone (String.ofList d.slashed) = .error .nonexistentLocalTime) := by
  have hLast := hZone.lastShown hValid hSecond hOnset
  rw [convert_slashed hZone hValid hSecond]
  -- an offset is found just where the clock shows the time
  cases hOffset : (zone.resolve d.time).offset? with
  | none =>
    rw [hOffset] at hLast
    exact .inr ⟨hLast, rfl⟩
  | some offset =>
    rw [hOffset] at hLast
    exact .inl ⟨_, hLast, rfl⟩

end

/-- A text with a slash that the pattern of dates matches as a whole is a date with slashes. -/
theorem exists_slashed {text : String} (h : Builtin.date.MatchesWhole text)
    (hSlash : '/' ∈ text.toList) : ∃ d : WrittenDate, text.toList = d.slashed := by
  obtain ⟨d, hd⟩ := (Calendar.shape_date_iff _).mp ((matchesWhole_iff _ _).mp h)
  -- the other two ways to write a date have no slash
  generalize text.toList = v at hd hSlash
  cases hd with
  | slashes => exact ⟨d, rfl⟩
  | hyphens => exact absurd hSlash (Calendar.notMem_hyphenated d (by decide) (by decide))
  | marked hClock =>
    have hLast : '/' ∉ ['Z'] := by decide
    exact absurd hSlash (List.not_mem_append
      (Calendar.notMem_hyphenated d (by decide) (by decide)) hLast)

/-- **Local dates denote the last second in which the clock shows them.** A text with slashes that
the pattern of dates matches as a whole writes down the numbers of a day and perhaps of a time of
day. Where these are a time of the calendar outside leap seconds, the conversion gives the last
second in which a clock of the zone shows the time, and fails if there is none, the time of an
onset apart: that is never shown and still read as standard time. So it gives the first second in
which the time is shown just where that is the only one. -/
theorem local_dates_denote_last_second {zone : Zone} (hZone : zone.Regular) {text : String}
    (h : Builtin.date.MatchesWhole text) (hSlash : '/' ∈ text.toList) :
    (∃ d : WrittenDate, text.toList = d.slashed) ∧
      ∀ d : WrittenDate, text.toList = d.slashed → d.time.InCalendar → d.time.second ≤ 59 →
        ((∃ second, zone.Shows d.time second) →
          ∃ last, IsGreatest {second | zone.Shows d.time second} last ∧
            Builtin.date.convert zone text = .ok (.date ⟨last, 0⟩)) ∧
        ((∀ second, ¬zone.Shows d.time second) → ¬zone.AtOnset d.time →
          Builtin.date.convert zone text = .error .nonexistentLocalTime) ∧
        (zone.AtOnset d.time → (∀ second, ¬zone.Shows d.time second) ∧
          Builtin.date.convert zone text = .ok (.date ⟨d.time.seconds - zone.offset, 0⟩)) ∧
        ∀ first, IsLeast {second | zone.Shows d.time second} first →
          (Builtin.date.convert zone text = .ok (.date ⟨first, 0⟩) ↔
            ∀ second, zone.Shows d.time second → second = first) := by
  refine ⟨exists_slashed h hSlash, ?_⟩
  intro d hd hValid hSecond
  obtain rfl : text = String.ofList d.slashed := by rw [← hd, String.ofList_toList]
  -- a time that is shown is not that of an onset
  have hShown : (∃ second, zone.Shows d.time second) →
      ∃ last, IsGreatest {second | zone.Shows d.time second} last ∧
        Builtin.date.convert zone (String.ofList d.slashed) = .ok (.date ⟨last, 0⟩) := by
    rintro ⟨second, hShows⟩
    have hOnset : ¬zone.AtOnset d.time := fun hOnset =>
      (convert_of_atOnset hZone hValid hSecond hOnset).1 second hShows
    rcases convert_of_not_atOnset hZone hValid hSecond hOnset with hLast | ⟨hNever, -⟩
    · exact hLast
    · exact absurd hShows (hNever second)
  refine ⟨hShown, ?_, convert_of_atOnset hZone hValid hSecond, ?_⟩
  · intro hNever hOnset
    rcases convert_of_not_atOnset hZone hValid hSecond hOnset with ⟨last, hLast, -⟩ | ⟨-, hResult⟩
    · exact absurd hLast.1 (hNever last)
    · exact hResult
  · intro first hFirst
    obtain ⟨last, hLast, hResult⟩ := hShown ⟨first, hFirst.1⟩
    have hEqual : Builtin.date.convert zone (String.ofList d.slashed) = .ok (.date ⟨first, 0⟩) ↔
        last = first := by
      simp [hResult]
    -- the last second is the first one just if there is no other
    rw [hEqual]
    constructor
    · rintro rfl second hShows
      exact Int.le_antisymm (hLast.2 hShows) (hFirst.2 hShows)
    · exact fun hUnique => hUnique last hLast.1

-- ---------------------------------------------------------------------------
-- A zone with a repeated hour and a skipped one
-- ---------------------------------------------------------------------------

namespace Eastern

/-- Daylight time from the second Sunday of March to the first Sunday of November. -/
def rule : Calendar.DaylightRule where
  saving := 3600
  start := ⟨.monthWeek 3 2 0, 7200⟩
  finish := ⟨.monthWeek 11 1 0, 7200⟩

/-- Standard time is five hours behind UTC. -/
def zone : Zone where
  offset := -18000
  daylight := some rule

example : Zone.read? "EST5EDT,M3.2.0,M11.1.0" = some zone := by decide

theorem daylight_zone : zone.daylight = some rule := rfl

/-- In every year daylight time starts in March and ends in November. -/
theorem withinYear_rule (year : Int) : rule.WithinYear year := by
  have hStart : rule.start.OfMonth 3 := ⟨⟨2, 0, rfl, by decide⟩, by decide⟩
  have hFinish : rule.finish.OfMonth 11 := ⟨⟨1, 0, rfl, by decide⟩, by decide⟩
  exact Calendar.withinYear_of_months hStart hFinish (by decide) (by decide) (by decide)
    (by decide) year

/-- The times of change lie far enough apart, in every year. -/
theorem regular_zone : zone.Regular where
  behind := by decide
  ahead := by decide
  daylight := by
    intro other hOther
    obtain rfl : rule = other := Option.some.inj hOther
    exact ⟨by decide, .within (by decide) withinYear_rule⟩

/-- Half an hour after one o'clock of the day on which the clock is put back to one o'clock. -/
def repeated : WrittenDate where
  day := ⟨.ofDigits [2, 0, 2, 4], .ofDigits [1, 1], .ofDigits [0, 3]⟩
  clock := some ⟨.ofDigits [0, 1], .ofDigits [3, 0], .ofDigits [0, 0]⟩

/-- Two o'clock of the day on which the clock is put forward to three o'clock. -/
def onset : WrittenDate where
  day := ⟨.ofDigits [2, 0, 2, 4], .ofDigits [0, 3], .ofDigits [1, 0]⟩
  clock := some ⟨.ofDigits [0, 2], .ofDigits [0, 0], .ofDigits [0, 0]⟩

theorem inCalendar_repeated : repeated.time.InCalendar :=
  (Calendar.isValid_wallTime_iff _).mp (by decide)

theorem inCalendar_onset : onset.time.InCalendar :=
  (Calendar.isValid_wallTime_iff _).mp (by decide)

/-- The repeated time is shown first as daylight time and an hour later as standard time. -/
theorem shows_repeated_iff {second : Int} :
    zone.Shows repeated.time second ↔ second = 1730611800 ∨ second = 1730615400 := by
  have hTime : repeated.time.seconds = 1730597400 := by decide
  have hStart : rule.start.seconds repeated.time.date.year = 1710036000 := by decide
  have hFinish : rule.finish.seconds repeated.time.date.year = 1730599200 := by decide
  have hSaving : rule.saving = 3600 := rfl
  have hOffset : zone.offset = -18000 := rfl
  -- in standard time outside the two changes, an hour later between them
  rw [Calendar.shows_iff_of_within daylight_zone (by decide) withinYear_rule
    inCalendar_repeated (by decide), hTime, hStart, hFinish, hSaving, hOffset]
  omega

/-- At two o'clock the clock is put forward, and shows three at once. -/
theorem not_shows_onset (second : Int) : ¬zone.Shows onset.time second := by
  have hTime : onset.time.seconds = 1710036000 := by decide
  have hStart : rule.start.seconds onset.time.date.year = 1710036000 := by decide
  have hFinish : rule.finish.seconds onset.time.date.year = 1730599200 := by decide
  have hSaving : rule.saving = 3600 := rfl
  rw [Calendar.shows_iff_of_within daylight_zone (by decide) withinYear_rule
    inCalendar_onset (by decide), hTime, hStart, hFinish, hSaving]
  omega

end Eastern

/-- A time that is shown twice is not read as shown first, and the time of an onset is read though
it is never shown. -/
theorem repeated_and_skipped_times_eastern :
    Eastern.zone.Regular ∧
    (Builtin.date.MatchesWhole "11/03/2024 01:30:00" ∧
      "11/03/2024 01:30:00".toList = Eastern.repeated.slashed ∧
      Eastern.repeated.time.InCalendar ∧ Eastern.repeated.time.second ≤ 59 ∧
      IsLeast {second | Eastern.zone.Shows Eastern.repeated.time second} 1730611800 ∧
      Builtin.date.convert Eastern.zone "11/03/2024 01:30:00" = .ok (.date ⟨1730615400, 0⟩)) ∧
    Builtin.date.MatchesWhole "03/10/2024 02:00:00" ∧
      "03/10/2024 02:00:00".toList = Eastern.onset.slashed ∧
      Eastern.onset.time.InCalendar ∧ Eastern.onset.time.second ≤ 59 ∧
      (∀ second, ¬Eastern.zone.Shows Eastern.onset.time second) ∧
      Builtin.date.convert Eastern.zone "03/10/2024 02:00:00" = .ok (.date ⟨1710054000, 0⟩) := by
  refine ⟨Eastern.regular_zone, ⟨matchesWhole_slashed Eastern.repeated, rfl,
    Eastern.inCalendar_repeated, by decide, ?_, rfl⟩, matchesWhole_slashed Eastern.onset,
    rfl, Eastern.inCalendar_onset, by decide, Eastern.not_shows_onset, rfl⟩
  constructor
  · exact Eastern.shows_repeated_iff.mpr (.inl rfl)
  · intro second hShows
    rcases Eastern.shows_repeated_iff.mp hShows with rfl | rfl
    · exact Int.le_refl _
    · decide

-- ---------------------------------------------------------------------------
-- A zone that begins the year with daylight time
-- ---------------------------------------------------------------------------

namespace Southern

/-- Daylight time from the first Sunday of October to the first Sunday of April. -/
def rule : Calendar.DaylightRule where
  saving := 3600
  start := ⟨.monthWeek 10 1 0, 7200⟩
  finish := ⟨.monthWeek 4 1 0, 10800⟩

/-- Standard time is ten hours ahead of UTC. -/
def zone : Zone where
  offset := 36000
  daylight := some rule

example : Zone.read? "AEST-10AEDT,M10.1.0,M4.1.0/3" = some zone := by decide

theorem daylight_zone : zone.daylight = some rule := rfl

/-- In every year daylight time ends in April and starts again in October. -/
theorem aroundNewYear_rule (year : Int) : rule.AroundNewYear year := by
  have hStart : rule.start.OfMonth 10 := ⟨⟨1, 0, rfl, by decide⟩, by decide⟩
  have hFinish : rule.finish.OfMonth 4 := ⟨⟨1, 0, rfl, by decide⟩, by decide⟩
  exact Calendar.aroundNewYear_of_months hStart hFinish (by decide) (by decide) (by decide)
    (by decide) year

/-- The times of change lie far enough apart, in every year. -/
theorem regular_zone : zone.Regular where
  behind := by decide
  ahead := by decide
  daylight := by
    intro other hOther
    obtain rfl : rule = other := Option.some.inj hOther
    exact ⟨by decide, .around (by decide) aroundNewYear_rule⟩

/-- Two o'clock of the day on which the clock is put forward to three o'clock. -/
def skipped : WrittenDate where
  day := ⟨.ofDigits [2, 0, 2, 4], .ofDigits [1, 0], .ofDigits [0, 6]⟩
  clock := some ⟨.ofDigits [0, 2], .ofDigits [0, 0], .ofDigits [0, 0]⟩

theorem inCalendar_skipped : skipped.time.InCalendar :=
  (Calendar.isValid_wallTime_iff _).mp (by decide)

/-- At two o'clock the clock is put forward here as well. -/
theorem not_shows_skipped (second : Int) : ¬zone.Shows skipped.time second := by
  have hTime : skipped.time.seconds = 1728180000 := by decide
  have hStart : rule.start.seconds skipped.time.date.year = 1728180000 := by decide
  have hFinish : rule.finish.seconds skipped.time.date.year = 1712458800 := by decide
  have hSaving : rule.saving = 3600 := rfl
  rw [Calendar.shows_iff_of_around daylight_zone (by decide) aroundNewYear_rule
    inCalendar_skipped (by decide), hTime, hStart, hFinish, hSaving]
  omega

/-- The year does not begin with standard time here, so there is no onset of the kind that is read.
-/
theorem not_atOnset_skipped : ¬zone.AtOnset skipped.time := by
  rintro ⟨other, hOther, -, hMonths, -⟩
  obtain rfl : rule = other := Option.some.inj hOther
  exact absurd hMonths (by decide)

end Southern

/-- The time that is shown twice gets the later of its seconds, and in the zone that begins the year
with daylight time the skipped one is refused. -/
theorem local_dates_denote_last_second_twice_and_never :
    (Eastern.zone.Regular ∧ Builtin.date.MatchesWhole "11/03/2024 01:30:00" ∧
      '/' ∈ "11/03/2024 01:30:00".toList ∧
      ∃ last, IsGreatest {second | Eastern.zone.Shows Eastern.repeated.time second} last ∧
        Builtin.date.convert Eastern.zone "11/03/2024 01:30:00" = .ok (.date ⟨last, 0⟩)) ∧
    Southern.zone.Regular ∧ Builtin.date.MatchesWhole "10/06/2024 02:00:00" ∧
      '/' ∈ "10/06/2024 02:00:00".toList ∧
      Builtin.date.convert Southern.zone "10/06/2024 02:00:00" = .error .nonexistentLocalTime := by
  have hRepeated : Builtin.date.MatchesWhole "11/03/2024 01:30:00" :=
    matchesWhole_slashed Eastern.repeated
  have hSkipped : Builtin.date.MatchesWhole "10/06/2024 02:00:00" :=
    matchesWhole_slashed Southern.skipped
  have hSlash : '/' ∈ "11/03/2024 01:30:00".toList := by decide
  have hSlash' : '/' ∈ "10/06/2024 02:00:00".toList := by decide
  refine ⟨⟨Eastern.regular_zone, hRepeated, hSlash, ?_⟩, Southern.regular_zone, hSkipped, hSlash',
    ?_⟩
  · have hDates := (local_dates_denote_last_second Eastern.regular_zone hRepeated hSlash).2
    exact (hDates Eastern.repeated rfl Eastern.inCalendar_repeated (by decide)).1
      ⟨1730611800, Eastern.shows_repeated_iff.mpr (.inl rfl)⟩
  · have hDates := (local_dates_denote_last_second Southern.regular_zone hSkipped hSlash').2
    exact (hDates Southern.skipped rfl Southern.inCalendar_skipped (by decide)).2.1
      Southern.not_shows_skipped Southern.not_atOnset_skipped

end TypedSteps
