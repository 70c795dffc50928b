import TypedSteps.Proofs.Calendar.Instants
import TypedSteps.Proofs.Calendar.Numerals

/-!
# The formats of dates

A date is written in one of two ways, with hyphens or with slashes, and with a time of day or
without one. Of the four formats that are tried, just the one that it is written in fits.

* `WrittenDay`, `WrittenClock`, `WrittenDate` — dates as numbers that are written down;
* `readFields?_hyphens`, `readFields?_slashes`, `readFields?_clock` — what a format reads;
* `readFields?_hyphens_slashed`, `readFields?_slashes_hyphenated` — what it does not read;
* `readWallTime?_hyphenated`, `readWallTime?_slashed` — the date and time that are read.
-/

namespace TypedSteps.Calendar

-- ---------------------------------------------------------------------------
-- Written dates
-- ---------------------------------------------------------------------------

/-- The numbers of a day. -/
structure WrittenDay where
  year : Numeral 4
  month : Numeral 2
  day : Numeral 2

/-- The numbers of a time of day. -/
structure WrittenClock where
  hour : Numeral 2
  minute : Numeral 2
  second : Numeral 2

/-- The numbers of a day, and those of a time of day if one is given. -/
structure WrittenDate where
  day : WrittenDay
  clock : Option WrittenClock

namespace WrittenDay

/-- The date that the numbers name, whether or not the calendar has it. -/
def date (d : WrittenDay) : Date :=
  ⟨d.year.value, d.month.value, d.day.value⟩

/-- Year, month and day with hyphens between them. -/
def hyphenated (d : WrittenDay) : List Char :=
  d.year.digits ++ '-' :: d.month.digits ++ '-' :: d.day.digits

/-- Month, day and year with slashes between them. -/
def slashed (d : WrittenDay) : List Char :=
  d.month.digits ++ '/' :: d.day.digits ++ '/' :: d.year.digits

end WrittenDay

namespace WrittenClock

/-- Hours, minutes and seconds with colons between them. -/
def characters (c : WrittenClock) : List Char :=
  c.hour.digits ++ ':' :: c.minute.digits ++ ':' :: c.second.digits

/-- A time of day after a mark, or nothing where no time is given. -/
def afterMark (mark : Char) : Option WrittenClock → List Char
  | none => []
  | some c => mark :: c.characters

/-- The time on a day. -/
def on (c : WrittenClock) (date : Date) : WallTime :=
  ⟨date, c.hour.value, c.minute.value, c.second.value⟩

end WrittenClock

namespace WrittenDate

/-- The date and time that the numbers name, midnight where no time is given. -/
def time (d : WrittenDate) : WallTime :=
  match d.clock with
  | none => { date := d.day.date }
  | some c => c.on d.day.date

/-- The date with hyphens, and a time of day after the letter `T`. -/
def hyphenated (d : WrittenDate) : List Char :=
  d.day.hyphenated ++ WrittenClock.afterMark 'T' d.clock

/-- The date with slashes, and a time of day after a blank. -/
def slashed (d : WrittenDate) : List Char :=
  d.day.slashed ++ WrittenClock.afterMark ' ' d.clock

/-- The time of a written date has its day. -/
theorem date_time (d : WrittenDate) : d.time.date = d.day.date := by
  unfold time
  split <;> rfl

/-- Years of four digits are no years that dates cannot be in. -/
theorem inRange_time (d : WrittenDate) : d.time.date.inRange = true := by
  have hlt : d.day.year.value < 10000 := d.day.year.value_lt
  rw [date_time, Date.inRange, Bool.and_eq_true, decide_eq_true_eq, decide_eq_true_eq]
  show firstYear ≤ (d.day.year.value : Int) ∧ (d.day.year.value : Int) ≤ lastYear
  unfold firstYear lastYear
  omega

end WrittenDate

-- ---------------------------------------------------------------------------
-- Fields
-- ---------------------------------------------------------------------------

section Fields

variable {fields : List Field} {t : WallTime} {rest : List Char}

theorem readFields?_literal (c : Char) :
    readFields? (.literal c :: fields) t (c :: rest) = readFields? fields t rest :=
  if_pos rfl

theorem readFields?_literal_of_ne {c d : Char} (h : d ≠ c) :
    readFields? (.literal c :: fields) t (d :: rest) = none :=
  if_neg h

/-- A year is read behind white space, and the other fields behind it. -/
theorem readFields?_year_eq (cs : List Char) :
    readFields? (.year :: fields) t cs =
      (readYear? (cs.dropWhile Unicode.isWhiteSpace)).bind fun read =>
        readFields? fields { t with date.year := read.1 } read.2 := by
  conv =>
    lhs
    whnf
  cases readYear? (cs.dropWhile Unicode.isWhiteSpace) with
  | none => rfl
  | some read => rfl

/-- Every number but a year is read in the same way. -/
theorem readFields?_number_eq {field : Field}
    (h : field ∈ [Field.month, .day, .hour, .minute, .second]) (cs : List Char) :
    readFields? (field :: fields) t cs =
      (readDigitsUpTo? 2 (cs.dropWhile Unicode.isWhiteSpace)).bind fun read =>
        readFields? fields (field.set read.1 t) read.2 := by
  simp only [List.mem_cons, List.not_mem_nil, or_false] at h
  rcases h with rfl | rfl | rfl | rfl | rfl
  all_goals
    conv =>
      lhs
      whnf
    cases readDigitsUpTo? 2 (cs.dropWhile Unicode.isWhiteSpace) with
    | none => rfl
    | some read => rfl

/-- A year of up to four digits is read if no digit follows. -/
theorem readFields?_year {width : Nat} (n : Numeral width) (hPos : 0 < width) (hle : width ≤ 4)
    (hStop : (rest.take (4 - width)).takeWhile Char.isDigit = []) :
    readFields? (.year :: fields) t (n.digits ++ rest) =
      readFields? fields { t with date.year := n.value } rest := by
  rw [readFields?_year_eq, readYear?_digits n hPos hle hStop]
  rfl

/-- Two digits are read as the number of the field, whatever follows. -/
theorem readFields?_number {field : Field}
    (h : field ∈ [Field.month, .day, .hour, .minute, .second]) (n : Numeral 2) :
    readFields? (field :: fields) t (n.digits ++ rest) =
      readFields? fields (field.set n.value t) rest := by
  rw [readFields?_number_eq h, readDigitsUpTo?_two]
  rfl

end Fields

-- ---------------------------------------------------------------------------
-- Formats
-- ---------------------------------------------------------------------------

section Formats

variable (fields : List Field) (t : WallTime) (d : WrittenDay) (rest : List Char)

/-- The fields of a date with hyphens read its day, whatever follows. -/
theorem readFields?_hyphens :
    readFields? (hyphenFields ++ fields) t (d.hyphenated ++ rest) =
      readFields? fields { t with date := d.date } rest := by
  simp only [hyphenFields, WrittenDay.hyphenated, List.append_assoc, List.cons_append,
    List.nil_append]
  rw [readFields?_year d.year (by decide) (by decide) rfl, readFields?_literal,
    readFields?_number (by decide), readFields?_literal, readFields?_number (by decide)]
  rfl

/-- The fields of a date with slashes read its day, whatever follows. -/
theorem readFields?_slashes :
    readFields? (slashFields ++ fields) t (d.slashed ++ rest) =
      readFields? fields { t with date := d.date } rest := by
  simp only [slashFields, WrittenDay.slashed, List.append_assoc, List.cons_append,
    List.nil_append]
  rw [readFields?_number (by decide), readFields?_literal, readFields?_number (by decide),
    readFields?_literal, readFields?_year d.year (by decide) (by decide) rfl]
  rfl

/-- The month is read as a year, and no hyphen comes after it. -/
theorem readFields?_hyphens_slashed :
    readFields? (hyphenFields ++ fields) t (d.slashed ++ rest) = none := by
  simp only [hyphenFields, WrittenDay.slashed, List.append_assoc, List.cons_append]
  rw [readFields?_year d.month (by decide) (by decide) rfl, readFields?_literal_of_ne (by decide)]

/-- The first half of the year is read as a month, and no slash comes after it. -/
theorem readFields?_slashes_hyphenated :
    readFields? (slashFields ++ fields) t (d.hyphenated ++ rest) = none := by
  obtain ⟨half, c, cs, hDigits, hc⟩ : ∃ (half : Numeral 2) (c : Char) (cs : List Char),
      d.year.digits = half.digits ++ c :: cs ∧ c ≠ '/' := by
    obtain ⟨hLength, hAll⟩ := d.year.isNumeral
    obtain ⟨c, cs, hCons⟩ : ∃ c cs, d.year.digits.drop 2 = c :: cs :=
      List.exists_cons_of_length_pos (by rw [List.length_drop, hLength]; decide)
    have hMem : c ∈ d.year.digits := List.mem_of_mem_drop (hCons ▸ List.mem_cons_self)
    refine ⟨⟨d.year.digits.take 2, ?_, fun x hx => hAll x (List.mem_of_mem_take hx)⟩, c, cs,
      ?_, ?_⟩
    · rw [List.length_take, hLength]
      rfl
    · rw [← hCons, List.take_append_drop]
    · rintro rfl
      exact d.year.notMem (by decide) hMem
  simp only [slashFields, WrittenDay.hyphenated, hDigits, List.append_assoc, List.cons_append]
  rw [readFields?_number (by decide), readFields?_literal_of_ne hc]

/-- The fields of a time of day read it. -/
theorem readFields?_clock (c : WrittenClock) :
    readFields? timeFields t c.characters = some (c.on t.date) := by
  rw [← List.append_nil c.characters]
  simp only [timeFields, WrittenClock.characters, List.append_assoc, List.cons_append]
  rw [readFields?_number (by decide), readFields?_literal, readFields?_number (by decide),
    readFields?_literal, readFields?_number (by decide)]
  rfl

/-- The blank before a time of day is ignored. -/
theorem readFields?_blank_clock (c : WrittenClock) :
    readFields? (.blank :: timeFields) t (' ' :: c.characters) = some (c.on t.date) := by
  have hBlank : (' ' :: c.characters).dropWhile Unicode.isWhiteSpace = c.characters := by
    rw [List.dropWhile_cons_of_pos (by decide)]
    simp only [WrittenClock.characters, List.append_assoc, List.cons_append]
    exact c.hour.dropWhile_isWhiteSpace (by decide) _
  show readFields? timeFields t ((' ' :: c.characters).dropWhile Unicode.isWhiteSpace) = _
  rw [hBlank, readFields?_clock]

end Formats

-- ---------------------------------------------------------------------------
-- Dates and times
-- ---------------------------------------------------------------------------

section WallTimes

/-- No date and time, to which a format adds the numbers that it reads. -/
abbrev noTime : WallTime := { date := ⟨0, 0, 0⟩ }

/-- If just one format fits, the date is read if it is one of the calendar. -/
theorem readWallTime?_of_format {cs : List Char} {d : WrittenDate}
    {before after : List (List Field)} {format : List Field}
    (hFormats : dateFormats = before ++ format :: after)
    (hBefore : ∀ other ∈ before, readFields? other noTime cs = none)
    (hFormat : readFields? format noTime cs = some d.time)
    (hAfter : ∀ other ∈ after, readFields? other noTime cs = none) :
    readWallTime? cs = if d.time.isValid then some d.time else none := by
  have hOthers {formats : List (List Field)}
      (h : ∀ other ∈ formats, readFields? other noTime cs = none) :
      formats.findSome? (fun other => readFormat? other cs) = none := by
    rw [List.findSome?_eq_none_iff]
    intro other hOther
    rw [readFormat?, h other hOther]
    rfl
  have hThis : readFormat? format cs = if d.time.isValid then some d.time else none := by
    rw [readFormat?, hFormat, Option.filter_some, d.inRange_time, Bool.and_true]
  rw [readWallTime?, hFormats, List.findSome?_append, hOthers hBefore, Option.none_or,
    List.findSome?_cons, hThis]
  by_cases hValid : d.time.isValid = true
  · rw [if_pos hValid]
  · rw [if_neg hValid]
    exact hOthers hAfter

/-- A date with hyphens is read if it is one of the calendar. -/
theorem readWallTime?_hyphenated (d : WrittenDate) :
    readWallTime? d.hyphenated = if d.time.isValid then some d.time else none := by
  obtain ⟨day, clock⟩ := d
  cases clock with
  | none =>
    -- the third of the four formats reads it: without a time of day the first one stops short
    have hFormats : dateFormats = [hyphenFields ++ .literal 'T' :: timeFields,
        slashFields ++ .blank :: timeFields] ++ hyphenFields :: [slashFields] := rfl
    refine readWallTime?_of_format hFormats ?_ ?_ ?_
    · have hTime := readFields?_hyphens (.literal 'T' :: timeFields) noTime day []
      have hSlashes := readFields?_slashes_hyphenated (.blank :: timeFields) noTime day []
      exact List.forall_mem_cons.mpr ⟨hTime, List.forall_mem_singleton.mpr hSlashes⟩
    · exact readFields?_hyphens [] noTime day []
    · exact List.forall_mem_singleton.mpr (readFields?_slashes_hyphenated [] noTime day [])
  | some clock =>
    -- the first of the four formats reads it; those for a day alone leave the time of day over
    have hFormats : dateFormats = [] ++ (hyphenFields ++ .literal 'T' :: timeFields) ::
        [slashFields ++ .blank :: timeFields, hyphenFields, slashFields] := rfl
    refine readWallTime?_of_format hFormats (List.forall_mem_nil _) ?_ ?_
    · exact (readFields?_hyphens _ noTime day _).trans (readFields?_clock _ clock)
    · have hSlashes (fields : List Field) :=
        readFields?_slashes_hyphenated fields noTime day ('T' :: clock.characters)
      have hDate := readFields?_hyphens [] noTime day ('T' :: clock.characters)
      exact List.forall_mem_cons.mpr ⟨hSlashes _, List.forall_mem_cons.mpr
        ⟨hDate, List.forall_mem_singleton.mpr (hSlashes [])⟩⟩

/-- A date with slashes is read if it is one of the calendar. -/
theorem readWallTime?_slashed (d : WrittenDate) :
    readWallTime? d.slashed = if d.time.isValid then some d.time else none := by
  obtain ⟨day, clock⟩ := d
  cases clock with
  | none =>
    have hFormats : dateFormats = [hyphenFields ++ .literal 'T' :: timeFields,
        slashFields ++ .blank :: timeFields, hyphenFields] ++ slashFields :: [] := rfl
    refine readWallTime?_of_format hFormats ?_ ?_ (List.forall_mem_nil _)
    · have hHyphens (fields : List Field) := readFields?_hyphens_slashed fields noTime day []
      have hTime := readFields?_slashes (.blank :: timeFields) noTime day []
      exact List.forall_mem_cons.mpr ⟨hHyphens _, List.forall_mem_cons.mpr
        ⟨hTime, List.forall_mem_singleton.mpr (hHyphens [])⟩⟩
    · exact readFields?_slashes [] noTime day []
  | some clock =>
    have hFormats : dateFormats = [hyphenFields ++ .literal 'T' :: timeFields] ++
        (slashFields ++ .blank :: timeFields) :: [hyphenFields, slashFields] := rfl
    have hHyphens (fields : List Field) :=
      readFields?_hyphens_slashed fields noTime day (' ' :: clock.characters)
    refine readWallTime?_of_format hFormats (List.forall_mem_singleton.mpr (hHyphens _)) ?_ ?_
    · exact (readFields?_slashes _ noTime day _).trans (readFields?_blank_clock _ clock)
    · have hDate := readFields?_slashes [] noTime day (' ' :: clock.characters)
      exact List.forall_mem_cons.mpr ⟨hHyphens [], List.forall_mem_singleton.mpr hDate⟩

end WallTimes

end TypedSteps.Calendar
