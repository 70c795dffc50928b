import TypedSteps.Conversion
import TypedSteps.Proofs.Builtin.Whole
import TypedSteps.Proofs.Calendar.Formats

/-!
# What date texts denote

A text that stands for a date writes down the numbers of a day and perhaps of a time of day.
It is refused just when the calendar has no such day or clocks show no such time. With hyphens
it denotes the instant at which a clock in UTC shows these numbers, wherever it is read.

* `WrittenDate.InText`, `shape_date_iff` — the texts that stand for dates;
* `readInstant_eq_invalid_iff`, `readInstant_of_hyphen` — how these texts are read;
* `render_atUtc` — an instant is written with the numbers that it was read from;
* `date_texts_denote_their_fields` — what the conversion makes of them.
-/

namespace TypedSteps

namespace Calendar

-- ---------------------------------------------------------------------------
-- Texts
-- ---------------------------------------------------------------------------

/-- The texts in which the numbers of a date are written down. -/
inductive WrittenDate.InText (d : WrittenDate) : List Char → Prop
  | hyphens : InText d d.hyphenated
  /-- A time of day with hyphens may be marked as one of UTC. -/
  | marked (hClock : d.clock.isSome = true) : InText d (d.hyphenated ++ ['Z'])
  | slashes : InText d d.slashed

/-- Three numbers with a separator between them are three numerals. -/
theorem numbers_iff {a b c : Nat} {sep : Char} {v : List Char} :
    Numbers a b c sep v ↔ ∃ (x : Numeral a) (y : Numeral b) (z : Numeral c),
      x.digits ++ sep :: y.digits ++ sep :: z.digits = v := by
  constructor
  · rintro ⟨x, y, z, rfl, hx, hy, hz⟩
    exact ⟨⟨x, hx⟩, ⟨y, hy⟩, ⟨z, hz⟩, rfl⟩
  · rintro ⟨x, y, z, rfl⟩
    exact ⟨_, _, _, rfl, x.isNumeral, y.isNumeral, z.isNumeral⟩

/-- The texts that stand for dates are those in which the numbers of a date are written. -/
theorem shape_date_iff (v : List Char) :
    Builtin.date.Shape v ↔ ∃ d : WrittenDate, d.InText v := by
  simp only [Builtin.Shape, numbers_iff]
  constructor
  · -- a time of day may be missing, and with hyphens it may be marked as one of UTC
    rintro ⟨-, clock, rfl, ⟨⟨year, month, day, rfl⟩, hClock⟩ | ⟨⟨month, day, year, rfl⟩, hClock⟩⟩
    · rcases hClock with rfl | ⟨-, zone, rfl, ⟨hour, minute, second, rfl⟩, rfl | rfl⟩
      · exact ⟨⟨⟨year, month, day⟩, none⟩, .hyphens⟩
      · rw [List.append_nil]
        exact ⟨⟨⟨year, month, day⟩, some ⟨hour, minute, second⟩⟩, .hyphens⟩
      · rw [← List.append_assoc]
        exact ⟨⟨⟨year, month, day⟩, some ⟨hour, minute, second⟩⟩, .marked rfl⟩
    · rcases hClock with rfl | ⟨-, rfl, hour, minute, second, rfl⟩
      · exact ⟨⟨⟨year, month, day⟩, none⟩, .slashes⟩
      · exact ⟨⟨⟨year, month, day⟩, some ⟨hour, minute, second⟩⟩, .slashes⟩
  · -- a time of day that is not given is the empty text
    rintro ⟨⟨⟨year, month, day⟩, clock⟩, _ | hClock | _⟩
    · refine ⟨_, _, rfl, .inl ⟨⟨year, month, day, rfl⟩, ?_⟩⟩
      cases clock with
      | none => exact .inl rfl
      | some c => exact .inr ⟨_, [], (List.append_nil _).symm, ⟨_, _, _, rfl⟩, .inl rfl⟩
    · obtain ⟨c, rfl⟩ := Option.isSome_iff_exists.mp hClock
      refine ⟨_, _, List.append_assoc _ _ _, .inl ⟨⟨year, month, day, rfl⟩, .inr ?_⟩⟩
      exact ⟨_, ['Z'], rfl, ⟨_, _, _, rfl⟩, .inr rfl⟩
    · refine ⟨_, _, rfl, .inr ⟨⟨month, day, year, rfl⟩, ?_⟩⟩
      cases clock with
      | none => exact .inl rfl
      | some c => exact .inr ⟨_, rfl, _, _, _, rfl⟩

-- ---------------------------------------------------------------------------
-- Marks
-- ---------------------------------------------------------------------------

section Marks

variable (d : WrittenDate)

theorem hyphen_mem_hyphenated : '-' ∈ d.hyphenated := by
  simp [WrittenDate.hyphenated, WrittenDay.hyphenated]

/-- A time of day has its digits, its mark and colons. -/
theorem notMem_afterMark {c mark : Char} (hDigit : c.isDigit = false) (hMark : c ≠ mark)
    (hColon : c ≠ ':') (clock : Option WrittenClock) : c ∉ WrittenClock.afterMark mark clock := by
  cases clock with
  | none => exact List.not_mem_nil
  | some clock =>
    simp [WrittenClock.afterMark, WrittenClock.characters, Numeral.notMem _ hDigit, hMark, hColon]

/-- A date with hyphens has its digits and three signs. -/
theorem notMem_hyphenated {c : Char} (hDigit : c.isDigit = false) (h : c ∉ ['-', 'T', ':']) :
    c ∉ d.hyphenated := by
  simp only [List.mem_cons, List.not_mem_nil, or_false, not_or] at h
  have hClock := notMem_afterMark hDigit h.2.1 h.2.2 d.clock
  simp [WrittenDate.hyphenated, WrittenDay.hyphenated, Numeral.notMem _ hDigit, h.1, hClock]

/-- A date with slashes has its digits and three signs. -/
theorem notMem_slashed {c : Char} (hDigit : c.isDigit = false) (h : c ∉ ['/', ' ', ':']) :
    c ∉ d.slashed := by
  simp only [List.mem_cons, List.not_mem_nil, or_false, not_or] at h
  have hClock := notMem_afterMark hDigit h.2.1 h.2.2 d.clock
  simp [WrittenDate.slashed, WrittenDay.slashed, Numeral.notMem _ hDigit, h.1, hClock]

end Marks

-- ---------------------------------------------------------------------------
-- Reading
-- ---------------------------------------------------------------------------

section Reading

variable {d : WrittenDate} {v : List Char}

/-- A text does not end with a character that it does not have. -/
theorem getLast?_ne_of_notMem {c : Char} (h : c ∉ v) : v.getLast? ≠ some c :=
  fun hLast => h (List.mem_of_getLast? hLast)

/-- With hyphens a date is read as one of UTC, marked or not. -/
theorem readInstant_of_hyphen (h : d.InText v) (hHyphen : '-' ∈ v) (zone : Zone) :
    readInstant zone (String.ofList v) =
      if d.time.isValid then .ok d.time.atUtc else .error .invalid := by
  rw [readInstant, String.toList_ofList]
  cases h with
  | hyphens =>
    -- no `Z` at the end: the hyphens alone make it a date of UTC
    have hMark := getLast?_ne_of_notMem (notMem_hyphenated d (c := 'Z') (by decide) (by decide))
    have hContains : d.hyphenated.contains '-' = true := List.contains_iff_mem.mpr hHyphen
    rw [if_neg hMark, readWallTime?_hyphenated]
    by_cases hValid : d.time.isValid = true
    · rw [if_pos hValid, if_pos hValid]
      exact if_pos hContains
    · rw [if_neg hValid, if_neg hValid]
  | marked hClock =>
    rw [List.getLast?_concat, if_pos rfl, List.dropLast_concat, readWallTime?_hyphenated]
    by_cases hValid : d.time.isValid = true
    · rw [if_pos hValid, if_pos hValid]
    · rw [if_neg hValid, if_neg hValid]
  | slashes => exact absurd hHyphen (notMem_slashed d (by decide) (by decide))

/-- With slashes a date is read as one of the local clock. -/
theorem readInstant_slashed (d : WrittenDate) (zone : Zone) :
    readInstant zone (String.ofList d.slashed) =
      if d.time.isValid then
        match zone.instantOf? d.time with
        | some i => .ok i
        | none => .error .skipped
      else .error .invalid := by
  have hMark := getLast?_ne_of_notMem (notMem_slashed d (c := 'Z') (by decide) (by decide))
  have hContains : ¬d.slashed.contains '-' = true := by
    rw [List.contains_iff_mem]
    exact notMem_slashed d (by decide) (by decide)
  rw [readInstant, String.toList_ofList, if_neg hMark, readWallTime?_slashed]
  by_cases hValid : d.time.isValid = true
  · rw [if_pos hValid, if_pos hValid]
    exact if_neg hContains
  · rw [if_neg hValid, if_neg hValid]

/-- A date is refused just when the calendar does not have it or clocks do not show its time. -/
theorem readInstant_eq_invalid_iff (h : d.InText v) (zone : Zone) :
    readInstant zone (String.ofList v) = .error .invalid ↔ ¬d.time.InCalendar := by
  rw [← isValid_wallTime_iff]
  -- two of the three ways to write a date have a hyphen, and are read without the zone
  have hHyphens (hHyphen : '-' ∈ v) :
      readInstant zone (String.ofList v) = .error .invalid ↔ ¬d.time.isValid = true := by
    rw [readInstant_of_hyphen h hHyphen]
    split
    case isTrue hValid => exact iff_of_false (by simp) (not_not_intro hValid)
    case isFalse hValid => exact iff_of_true rfl hValid
  cases h with
  | hyphens => exact hHyphens (hyphen_mem_hyphenated d)
  | marked hClock => exact hHyphens (List.mem_append_left _ (hyphen_mem_hyphenated d))
  | slashes =>
    rw [readInstant_slashed]
    split
    case isTrue hValid =>
      refine iff_of_false ?_ (not_not_intro hValid)
      split <;> simp
    case isFalse hValid => exact iff_of_true rfl hValid

end Reading

-- ---------------------------------------------------------------------------
-- Writing
-- ---------------------------------------------------------------------------

/-- The date and time as instants are written, midnight where no time is given. -/
def WrittenDate.rfc3339 (d : WrittenDate) : String :=
  String.ofList d.day.hyphenated ++ "T" ++
    (match d.clock with
    | none => "00:00:00"
    | some c => String.ofList c.characters) ++ "+00:00"

/-- A date is rendered with the digits that it was written with. -/
theorem render_date (d : WrittenDay) :
    showYear d.date.year ++ "-" ++ padded 2 d.date.month ++ "-" ++ padded 2 d.date.day =
      String.ofList d.hyphenated := by
  -- a year of four digits needs no sign
  have hYear : showYear d.date.year = padded 4 d.year.value := by
    have hlt : d.year.value < 10000 := d.year.value_lt
    show showYear (d.year.value : Int) = _
    rw [showYear, if_pos (by omega)]
    rfl
  rw [hYear]
  show padded 4 d.year.value ++ "-" ++ padded 2 d.month.value ++ "-" ++ padded 2 d.day.value = _
  rw [Numeral.padded_value _ (by decide), Numeral.padded_value _ (by decide),
    Numeral.padded_value _ (by decide)]
  have hHyphen : "-" = String.ofList ['-'] := rfl
  simp only [WrittenDay.hyphenated, hHyphen, ← String.ofList_append, List.append_assoc,
    List.cons_append, List.nil_append]

theorem render_clock (c : WrittenClock) :
    padded 2 c.hour.value ++ ":" ++ padded 2 c.minute.value ++ ":" ++ padded 2 c.second.value =
      String.ofList c.characters := by
  rw [Numeral.padded_value _ (by decide), Numeral.padded_value _ (by decide),
    Numeral.padded_value _ (by decide)]
  have hColon : ":" = String.ofList [':'] := rfl
  simp only [WrittenClock.characters, hColon, ← String.ofList_append, List.append_assoc,
    List.cons_append, List.nil_append]

/-- An instant is written with the numbers that it was read from. -/
theorem render_atUtc {d : WrittenDate} (h : d.time.InCalendar) :
    d.time.atUtc.render = d.rfc3339 := by
  have hClock : padded 2 d.time.hour ++ ":" ++ padded 2 d.time.minute ++ ":" ++
      padded 2 d.time.second = match d.clock with
        | none => "00:00:00"
        | some c => String.ofList c.characters := by
    obtain ⟨day, clock⟩ := d
    cases clock with
    | none =>
      show padded 2 0 ++ ":" ++ padded 2 0 ++ ":" ++ padded 2 0 = "00:00:00"
      decide
    | some c => exact render_clock c
  rw [Instant.render, wallTime_atUtc h, WallTime.render, d.date_time, render_date,
    WrittenDate.rfc3339, ← hClock]
  simp only [String.append_assoc]

end Calendar

open Calendar (Instant WallTime WrittenDate nanosPerSecond)

-- ---------------------------------------------------------------------------
-- Conversion
-- ---------------------------------------------------------------------------

/-- The conversion refuses a date as such just when reading it does. -/
theorem convert_date_eq_invalidDate_iff (zone : Calendar.Zone) (text : String) :
    Builtin.date.convert zone text = .error .invalidDate ↔
      Calendar.readInstant zone text = .error .invalid := by
  rw [Builtin.convert]
  cases Calendar.readInstant zone text with
  | ok instant => simp
  | error reason => cases reason <;> simp

/-- **Date texts denote the fields that they show.** A text that the pattern of dates matches
as a whole writes down the numbers of a day and perhaps of a time of day. In every local time
zone the conversion refuses it as a date just when these are not a date of the calendar and a
time that clocks show. With hyphens, all zones agree on the instant: it is the only one at which
a clock in UTC shows the numbers, it is rendered with them, midnight where no time is given,
and the second `60` is the second `59` with the nanoseconds of one more second. -/
theorem date_texts_denote_their_fields {text : String} (h : Builtin.date.MatchesWhole text) :
    (∃ d : WrittenDate, d.InText text.toList) ∧
      ∀ d : WrittenDate, d.InText text.toList →
        (∀ zone, Builtin.date.convert zone text = .error .invalidDate ↔ ¬d.time.InCalendar) ∧
        ('-' ∈ text.toList → d.time.InCalendar →
          ∃ instant : Instant,
            (∀ zone, Builtin.date.convert zone text = .ok (.date instant)) ∧
            instant.wallTime = d.time ∧ instant.render = d.rfc3339 ∧
            (d.time.second = 60 → instant =
              { ({ d.time with second := 59 } : WallTime).atUtc with nanos := nanosPerSecond }) ∧
            (d.time.second ≠ 60 → instant.nanos = 0) ∧
            ∀ other : Instant, other.wallTime = d.time → other.nanos = instant.nanos →
              other = instant) := by
  refine ⟨(Calendar.shape_date_iff _).mp ((matchesWhole_iff _ _).mp h), fun d hd => ⟨?_, ?_⟩⟩
  · intro zone
    have hRead := Calendar.readInstant_eq_invalid_iff hd zone
    rw [String.ofList_toList] at hRead
    rw [convert_date_eq_invalidDate_iff, hRead]
  · intro hHyphen hValid
    -- the instant of the fields in UTC, in every zone
    refine ⟨d.time.atUtc, ?_, Calendar.wallTime_atUtc hValid, Calendar.render_atUtc hValid,
      ?_, ?_, ?_⟩
    · intro zone
      have hRead := Calendar.readInstant_of_hyphen hd hHyphen zone
      rw [String.ofList_toList, if_pos ((Calendar.isValid_wallTime_iff _).mpr hValid)] at hRead
      rw [Builtin.convert, hRead]
    · intro hLeap
      rw [WallTime.atUtc, WallTime.nanos, if_pos hLeap, WallTime.seconds, hLeap]
      rfl
    · intro hLeap
      exact if_neg hLeap
    · intro other hShows hNanos
      exact Calendar.eq_atUtc_of_wallTime_eq hShows hNanos

/-- The end of a leap day, in a leap second. -/
def leapSecond : WrittenDate where
  day := ⟨⟨['2', '0', '2', '4'], by decide⟩, ⟨['0', '2'], by decide⟩, ⟨['2', '9'], by decide⟩⟩
  clock := some ⟨⟨['2', '3'], by decide⟩, ⟨['5', '9'], by decide⟩, ⟨['6', '0'], by decide⟩⟩

/-- The leap day of a year that has none. -/
def missingLeapDay : WrittenDate where
  day := ⟨⟨['2', '0', '2', '3'], by decide⟩, ⟨['0', '2'], by decide⟩, ⟨['2', '9'], by decide⟩⟩
  clock := none

/-- The leap second at the end of a leap day, and the leap day of a year without one. -/
theorem date_texts_denote_their_fields_leap :
    (Builtin.date.MatchesWhole "2024-02-29T23:59:60Z" ∧
      ∃ instant : Instant,
        (∀ zone, Builtin.date.convert zone "2024-02-29T23:59:60Z" = .ok (.date instant)) ∧
        instant.render = "2024-02-29T23:59:60+00:00" ∧ instant.nanos = nanosPerSecond) ∧
    Builtin.date.MatchesWhole "2023-02-29" ∧
      ∀ zone, Builtin.date.convert zone "2023-02-29" = .error .invalidDate := by
  have hLeap : leapSecond.InText "2024-02-29T23:59:60Z".toList := .marked rfl
  have hMissing : missingLeapDay.InText "2023-02-29".toList := .hyphens
  have hValid : leapSecond.time.InCalendar :=
    (Calendar.isValid_wallTime_iff _).mp (by decide)
  have hInvalid : ¬missingLeapDay.time.InCalendar := by
    rw [← Calendar.isValid_wallTime_iff]
    decide
  have hMatches : Builtin.date.MatchesWhole "2024-02-29T23:59:60Z" :=
    (matchesWhole_iff _ _).mpr ((Calendar.shape_date_iff _).mpr ⟨_, hLeap⟩)
  have hMatches' : Builtin.date.MatchesWhole "2023-02-29" :=
    (matchesWhole_iff _ _).mpr ((Calendar.shape_date_iff _).mpr ⟨_, hMissing⟩)
  obtain ⟨instant, hConvert, -, hRender, hSecond, -⟩ :=
    ((date_texts_denote_their_fields hMatches).2 leapSecond hLeap).2 (by decide) hValid
  refine ⟨⟨hMatches, instant, hConvert, hRender, ?_⟩, hMatches', fun zone => ?_⟩
  · rw [hSecond (by decide)]
  · exact (((date_texts_denote_their_fields hMatches').2 missingLeapDay hMissing).1 zone).mpr
      hInvalid

end TypedSteps
