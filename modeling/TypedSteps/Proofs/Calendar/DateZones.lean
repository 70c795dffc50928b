import TypedSteps.Proofs.Calendar.LocalDates

/-!
# Which clock dates are read from

A text is a time in UTC if it ends in `Z` or is written with hyphens, and a local time if it is
written with slashes. Reading does not ask for the format, though, but for a hyphen anywhere in the
text, and a year may have one as its sign. So a year with a minus sign behind slashes is taken to
be one of UTC.

* `Field.Reads`, `Reads` — the stretch of a text that a field reads, and a whole format;
* `format_unique`, `readWallTime?_eq_some_iff` — at most one format accepts a text;
* `Reads.hyphen_year`, `hyphen_of_slashes` — a hyphen behind slashes is the sign of a year;
* `format_decides_zone` — the clock that each format reads from;
* `signed_year_read_in_utc` — a date with slashes that is read in UTC.
-/

namespace TypedSteps

namespace Calendar

-- ---------------------------------------------------------------------------
-- What fields read
-- ---------------------------------------------------------------------------

/-- A field reads a stretch of a text and notes the number in it. White space may come first. -/
inductive Field.Reads : Field → WallTime → List Char → WallTime → Prop
  | literal (c : Char) (t : WallTime) : Reads (.literal c) t [c] t
  | blank {space : List Char} (t : WallTime) (hSpace : ∀ c ∈ space, Unicode.isWhiteSpace c = true) :
      Reads .blank t space t
  | year {space sign digits : List Char} (t : WallTime) (n : Nat)
      (hSpace : ∀ c ∈ space, Unicode.isWhiteSpace c = true) (hSign : sign ∈ [[], ['+'], ['-']])
      (hDigits : ∀ c ∈ digits, c.isDigit = true) :
      Reads .year t (space ++ (sign ++ digits))
        { t with date.year := if sign = ['-'] then -(n : Int) else n }
  | number {field : Field} {space digits : List Char} (t : WallTime) (n : Nat)
      (hField : field ∈ [Field.month, .day, .hour, .minute, .second])
      (hSpace : ∀ c ∈ space, Unicode.isWhiteSpace c = true)
      (hDigits : ∀ c ∈ digits, c.isDigit = true) :
      Reads field t (space ++ digits) (field.set n t)

/-- The fields of a format read a text, one stretch after the other. -/
inductive Reads : List Field → WallTime → List Char → WallTime → Prop
  | nil (t : WallTime) : Reads [] t [] t
  | cons {field : Field} {fields : List Field} {t t' t'' : WallTime} {stretch rest : List Char}
      (hField : field.Reads t stretch t') (hFields : Reads fields t' rest t'') :
      Reads (field :: fields) t (stretch ++ rest) t''

section Reading

variable {cs rest : List Char}

/-- What a number takes from the start of a text are digits. -/
theorem eq_append_of_readDigitsUpTo? {width n : Nat}
    (h : readDigitsUpTo? width cs = some (n, rest)) :
    ∃ digits, cs = digits ++ rest ∧ ∀ c ∈ digits, c.isDigit = true := by
  unfold readDigitsUpTo? at h
  dsimp only at h
  split at h
  · cases h
  · obtain ⟨after, hAfter⟩ := (List.takeWhile_prefix Char.isDigit).trans (List.take_prefix width cs)
    simp only [Option.some.injEq, Prod.mk.injEq] at h
    refine ⟨(cs.take width).takeWhile Char.isDigit, ?_,
      List.all_eq_true.mp List.all_takeWhile⟩
    have hDrop := congrArg (List.drop ((cs.take width).takeWhile Char.isDigit).length) hAfter
    rw [List.drop_left, h.2] at hDrop
    rw [← hDrop, hAfter]

/-- A year is read with its sign. -/
theorem eq_append_of_readYear? {year : Int} (h : readYear? cs = some (year, rest)) :
    ∃ (sign digits : List Char) (n : Nat), cs = sign ++ digits ++ rest ∧
      sign ∈ [[], ['+'], ['-']] ∧ (∀ c ∈ digits, c.isDigit = true) ∧
      year = if sign = ['-'] then -(n : Int) else n := by
  unfold readYear? at h
  split at h
  all_goals
    obtain ⟨⟨n, after⟩, hRead, heq⟩ := Option.map_eq_some_iff.mp h
    simp only [Prod.mk.injEq] at heq
    obtain ⟨rfl, rfl⟩ := heq
    obtain ⟨digits, hcs, hDigits⟩ := eq_append_of_readDigitsUpTo? hRead
  case h_1 => exact ⟨['-'], digits, n, by rw [hcs]; rfl, by decide, hDigits, rfl⟩
  case h_2 => exact ⟨['+'], digits, n, by rw [hcs]; rfl, by decide, hDigits, rfl⟩
  case h_3 => exact ⟨[], digits, n, hcs, by decide, hDigits, rfl⟩

theorem dropWhile_isWhiteSpace_append (cs : List Char) :
    ∃ space, (∀ c ∈ space, Unicode.isWhiteSpace c = true) ∧
      cs = space ++ cs.dropWhile Unicode.isWhiteSpace :=
  ⟨cs.takeWhile Unicode.isWhiteSpace, List.all_eq_true.mp List.all_takeWhile,
    List.takeWhile_append_dropWhile.symm⟩

/-- A field with a number takes white space and digits. -/
theorem exists_reads_number {field : Field} {fields : List Field} {t t' : WallTime}
    (hField : field ∈ [Field.month, .day, .hour, .minute, .second])
    (h : readFields? (field :: fields) t cs = some t') :
    ∃ stretch rest t₁, field.Reads t stretch t₁ ∧ cs = stretch ++ rest ∧
      readFields? fields t₁ rest = some t' := by
  rw [readFields?_number_eq hField] at h
  obtain ⟨⟨n, rest⟩, hRead, hRest⟩ := Option.bind_eq_some_iff.mp h
  obtain ⟨space, hSpace, hcs⟩ := dropWhile_isWhiteSpace_append cs
  obtain ⟨digits, hDigits, hAll⟩ := eq_append_of_readDigitsUpTo? hRead
  refine ⟨space ++ digits, rest, _, .number t n hField hSpace hAll, ?_, hRest⟩
  rw [List.append_assoc, ← hDigits, ← hcs]

/-- A field that is read takes its stretch from the start of the text. -/
theorem exists_reads_field {field : Field} {fields : List Field} {t t' : WallTime}
    (h : readFields? (field :: fields) t cs = some t') :
    ∃ stretch rest t₁, field.Reads t stretch t₁ ∧ cs = stretch ++ rest ∧
      readFields? fields t₁ rest = some t' := by
  -- white space in front of a number or of the year is passed over
  obtain ⟨space, hSpace, hcs⟩ := dropWhile_isWhiteSpace_append cs
  cases field with
  | literal c =>
    cases cs with
    | nil => exact absurd h (Option.some_ne_none t').symm
    | cons d rest =>
      by_cases hd : d = c
      · subst hd
        exact ⟨[d], rest, t, .literal d t, rfl, (readFields?_literal d).symm.trans h⟩
      · rw [readFields?_literal_of_ne hd] at h
        cases h
  | blank => exact ⟨space, _, t, .blank t hSpace, hcs, h⟩
  | year =>
    rw [readFields?_year_eq] at h
    obtain ⟨⟨year, rest⟩, hRead, hFields⟩ := Option.bind_eq_some_iff.mp h
    obtain ⟨sign, digits, n, hRest, hSign, hDigits, rfl⟩ := eq_append_of_readYear? hRead
    refine ⟨space ++ (sign ++ digits), rest, _, .year t n hSpace hSign hDigits, ?_, hFields⟩
    rw [List.append_assoc, ← hRest, ← hcs]
  | month => exact exists_reads_number (by decide) h
  | day => exact exists_reads_number (by decide) h
  | hour => exact exists_reads_number (by decide) h
  | minute => exact exists_reads_number (by decide) h
  | second => exact exists_reads_number (by decide) h

/-- What is read field by field is read by the format. -/
theorem reads_of_readFields? {fields : List Field} {t t' : WallTime}
    (h : readFields? fields t cs = some t') : Reads fields t cs t' := by
  induction fields generalizing t cs with
  | nil =>
    have hRead : (if cs.isEmpty then some t else none) = some t' := h
    split at hRead
    case isTrue hEmpty =>
      rw [List.isEmpty_iff.mp hEmpty, ← Option.some.inj hRead]
      exact .nil t
    case isFalse hEmpty => cases hRead
  | cons field fields ih =>
    obtain ⟨stretch, rest, t₁, hField, rfl, hRest⟩ := exists_reads_field h
    exact .cons hField (ih hRest)

end Reading

-- ---------------------------------------------------------------------------
-- Characters of a format
-- ---------------------------------------------------------------------------

section Characters

variable {field : Field} {fields before after : List Field} {t t' : WallTime} {v cs : List Char}

theorem notMem_of_all {p : Char → Bool} (h : ∀ c ∈ cs, p c = true) {c : Char} (hc : p c = false) :
    c ∉ cs := by
  intro hMem
  rw [h c hMem] at hc
  cases hc

/-- A character that is no digit, white space or sign is read as a literal only. -/
theorem Field.Reads.mem_iff (h : field.Reads t v t') {c : Char} (hDigit : c.isDigit = false)
    (hSpace : Unicode.isWhiteSpace c = false) (hSign : c ∉ ['+', '-']) :
    c ∈ v ↔ field = .literal c := by
  cases h with
  | literal d t => simp [eq_comm]
  | blank t hBlank => simp [notMem_of_all hBlank hSpace]
  | @year blank sign digits t n hBlank hSigns hDigits =>
    have hNone : c ∉ sign := by
      simp only [List.mem_cons, List.not_mem_nil, or_false, not_or] at hSigns hSign
      rcases hSigns with rfl | rfl | rfl <;> simp [hSign]
    simp [notMem_of_all hBlank hSpace, notMem_of_all hDigits hDigit, hNone]
  | number t n hField hBlank hDigits =>
    refine iff_of_false ?_ ?_
    · simp [notMem_of_all hBlank hSpace, notMem_of_all hDigits hDigit]
    · rintro rfl
      simp at hField

/-- A format reads the texts that have its literals among their characters. -/
theorem Reads.mem_iff (h : Reads fields t cs t') {c : Char} (hDigit : c.isDigit = false)
    (hSpace : Unicode.isWhiteSpace c = false) (hSign : c ∉ ['+', '-']) :
    c ∈ cs ↔ .literal c ∈ fields := by
  induction h with
  | nil t => simp
  | cons hField hFields ih =>
    rw [List.mem_append, hField.mem_iff hDigit hSpace hSign, ih, List.mem_cons, eq_comm]

/-- A sign that a format has stands in every text it accepts. -/
theorem Reads.mem_of_literal_mem (h : Reads fields t cs t') {c : Char}
    (hc : .literal c ∈ fields) : c ∈ cs := by
  induction h with
  | nil t => cases hc
  | cons hField _ ih =>
    rcases List.mem_cons.mp hc with heq | hc
    · -- the field itself takes the sign
      subst heq
      cases hField with
      | literal => exact List.mem_append_left _ (List.mem_singleton.mpr rfl)
      | number t n hNumber => simp at hNumber
    · exact List.mem_append_right _ (ih hc)

/-- Neither a literal hyphen nor a year. -/
def Field.Unsigned (field : Field) : Prop :=
  field ≠ .year ∧ field ≠ .literal '-'

instance (field : Field) : Decidable field.Unsigned :=
  inferInstanceAs (Decidable (_ ∧ _))

/-- A field that is no year and no hyphen reads no hyphen and no year. -/
theorem Field.Reads.of_unsigned (h : field.Reads t v t') (hField : field.Unsigned) :
    '-' ∉ v ∧ t'.date.year = t.date.year := by
  obtain ⟨hYear, hHyphen⟩ := hField
  cases h with
  | literal c t => exact ⟨by simpa [eq_comm] using hHyphen, rfl⟩
  | blank t hSpace => exact ⟨notMem_of_all hSpace (by decide), rfl⟩
  | year => exact absurd rfl hYear
  | number t n hField hSpace hDigits =>
    constructor
    · exact List.not_mem_append (notMem_of_all hSpace (by decide))
        (notMem_of_all hDigits (by decide))
    · simp only [List.mem_cons, List.not_mem_nil, or_false] at hField
      rcases hField with rfl | rfl | rfl | rfl | rfl <;> rfl

/-- A hyphen in a year is its sign. -/
theorem Field.Reads.hyphen_year (h : Field.year.Reads t v t') :
    ('-' ∈ v → t'.date.year ≤ 0) ∧ (t'.date.year < 0 → '-' ∈ v) := by
  generalize hField : Field.year = field at h
  cases h with
  | literal => cases hField
  | blank => cases hField
  | number t n hNumber =>
    subst hField
    simp at hNumber
  | @year space sign digits t n hSpace hSign hDigits =>
    have hNone : '-' ∉ space := notMem_of_all hSpace (by decide)
    have hNone' : '-' ∉ digits := notMem_of_all hDigits (by decide)
    simp only [List.mem_cons, List.not_mem_nil, or_false] at hSign
    rcases hSign with rfl | rfl | rfl
    · simp [hNone, hNone']
    · simp [hNone, hNone']
    · simp

/-- Fields that are no years and no hyphens leave the year as it was. -/
theorem Reads.of_unsigned (h : Reads fields t cs t') (hFields : ∀ f ∈ fields, f.Unsigned) :
    '-' ∉ cs ∧ t'.date.year = t.date.year := by
  induction h with
  | nil t => exact ⟨List.not_mem_nil, rfl⟩
  | cons hField _ ih =>
    obtain ⟨hFirst, hRest⟩ := List.forall_mem_cons.mp hFields
    obtain ⟨hNone, hYear⟩ := hField.of_unsigned hFirst
    obtain ⟨hNone', hYear'⟩ := ih hRest
    exact ⟨List.not_mem_append hNone hNone', hYear'.trans hYear⟩

/-- In a format with one year and no literal hyphen, a hyphen is the sign of the year. -/
theorem Reads.hyphen_year (h : Reads (before ++ .year :: after) t cs t')
    (hBefore : ∀ f ∈ before, f.Unsigned) (hAfter : ∀ f ∈ after, f.Unsigned) :
    ('-' ∈ cs → t'.date.year ≤ 0) ∧ (t'.date.year < 0 → '-' ∈ cs) := by
  induction before generalizing t cs with
  | nil =>
    cases h with
    | cons hField hFields =>
      obtain ⟨hNone, hYear⟩ := hFields.of_unsigned hAfter
      rw [hYear, List.mem_append, or_iff_left hNone]
      exact hField.hyphen_year
  | cons field before ih =>
    cases h with
    | cons hField hFields =>
      obtain ⟨hFirst, hRest⟩ := List.forall_mem_cons.mp hBefore
      rw [List.mem_append, or_iff_right (hField.of_unsigned hFirst).1]
      exact ih hFields hRest

end Characters

-- ---------------------------------------------------------------------------
-- Formats
-- ---------------------------------------------------------------------------

/-- The formats with hyphens. -/
def hyphenFormats : List (List Field) :=
  [hyphenFields ++ .literal 'T' :: timeFields, hyphenFields]

/-- The formats with slashes. -/
def slashFormats : List (List Field) :=
  [slashFields ++ .blank :: timeFields, slashFields]

/-- One of some formats accepts a text, as this date and time. -/
def AcceptedBy (formats : List (List Field)) (cs : List Char) (t : WallTime) : Prop :=
  ∃ format ∈ formats, readFormat? format cs = some t

section Formats

variable {format other : List Field} {cs : List Char} {t : WallTime}

/-- What a format accepts, its fields read one after the other, and it is a time of the calendar. -/
theorem readFormat?_eq_some (h : readFormat? format cs = some t) :
    Reads format { date := ⟨0, 0, 0⟩ } cs t ∧ t.InCalendar := by
  unfold readFormat? at h
  obtain ⟨hRead, hValid⟩ := Option.filter_eq_some_iff.mp h
  rw [Bool.and_eq_true] at hValid
  exact ⟨reads_of_readFields? hRead, (isValid_wallTime_iff t).mp hValid.1⟩

/-- A text has the mark of a time or of a date if the format that accepts it has. -/
theorem mark_mem_iff (h : readFormat? format cs = some t) {c : Char}
    (hMark : c ∈ ['T', '/', ':', 'Z']) : c ∈ cs ↔ .literal c ∈ format := by
  have hRead := (readFormat?_eq_some h).1
  simp only [List.mem_cons, List.not_mem_nil, or_false] at hMark
  rcases hMark with rfl | rfl | rfl | rfl
  all_goals exact hRead.mem_iff (by decide) (by decide) (by decide)

/-- No text is accepted by two formats. -/
theorem format_unique (h : format ∈ dateFormats) (hOther : other ∈ dateFormats) {t' : WallTime}
    (hRead : readFormat? format cs = some t) (hRead' : readFormat? other cs = some t') :
    format = other := by
  have hMarks {c : Char} (hc : c ∈ ['T', '/', ':', 'Z']) :
      Field.literal c ∈ format ↔ Field.literal c ∈ other :=
    (mark_mem_iff hRead hc).symm.trans (mark_mem_iff hRead' hc)
  have hAll : ∀ f ∈ dateFormats, ∀ g ∈ dateFormats,
      (Field.literal 'T' ∈ f ↔ Field.literal 'T' ∈ g) →
      (Field.literal '/' ∈ f ↔ Field.literal '/' ∈ g) →
      (Field.literal ':' ∈ f ↔ Field.literal ':' ∈ g) → f = g := by decide
  exact hAll format h other hOther (hMarks (by decide)) (hMarks (by decide)) (hMarks (by decide))

/-- The formats are tried in turn, but it does not matter which one comes first. -/
theorem readWallTime?_eq_some_iff : readWallTime? cs = some t ↔ AcceptedBy dateFormats cs t := by
  constructor
  · exact List.exists_of_findSome?_eq_some
  · rintro ⟨format, hFormat, hRead⟩
    have hSome : (readWallTime? cs).isSome := by
      rw [readWallTime?, List.findSome?_isSome_iff]
      exact ⟨format, hFormat, by rw [hRead]; rfl⟩
    obtain ⟨t', ht'⟩ := Option.isSome_iff_exists.mp hSome
    obtain ⟨other, hOther, hRead'⟩ := List.exists_of_findSome?_eq_some ht'
    rw [format_unique hFormat hOther hRead hRead', hRead'] at hRead
    rw [ht', hRead]

theorem mem_dateFormats_iff :
    format ∈ dateFormats ↔ format ∈ hyphenFormats ∨ format ∈ slashFormats := by
  simp only [dateFormats, hyphenFormats, slashFormats, List.mem_cons, List.not_mem_nil, or_false]
  rw [← or_assoc, or_or_or_comm]

theorem acceptedBy_dateFormats_iff :
    AcceptedBy dateFormats cs t ↔ AcceptedBy hyphenFormats cs t ∨ AcceptedBy slashFormats cs t := by
  simp only [AcceptedBy, mem_dateFormats_iff, or_and_right, exists_or]

/-- No format accepts a text with a `Z`. -/
theorem zone_mark_notMem (h : AcceptedBy dateFormats cs t) : 'Z' ∉ cs := by
  obtain ⟨format, hFormat, hRead⟩ := h
  have hNone : ∀ f ∈ dateFormats, Field.literal 'Z' ∉ f := by decide
  rw [mark_mem_iff hRead (by decide)]
  exact hNone format hFormat

/-- What a format with hyphens accepts has a hyphen. -/
theorem hyphen_mem_of_acceptedBy (h : AcceptedBy hyphenFormats cs t) : '-' ∈ cs := by
  obtain ⟨format, hFormat, hRead⟩ := h
  have hAll : ∀ f ∈ hyphenFormats, Field.literal '-' ∈ f := by decide
  exact (readFormat?_eq_some hRead).1.mem_of_literal_mem (hAll format hFormat)

/-- Behind slashes a hyphen is the sign of a year, which is not one after the year zero. -/
theorem hyphen_of_slashes (h : AcceptedBy slashFormats cs t) :
    ('-' ∈ cs → t.date.year ≤ 0) ∧ (t.date.year < 0 → '-' ∈ cs) := by
  obtain ⟨format, hFormat, hRead⟩ := h
  obtain ⟨after, rfl, hAfter⟩ : ∃ after,
      format = [.month, .literal '/', .day, .literal '/'] ++ .year :: after ∧
        ∀ f ∈ after, f.Unsigned := by
    simp only [slashFormats, List.mem_cons, List.not_mem_nil, or_false] at hFormat
    rcases hFormat with rfl | rfl
    · exact ⟨.blank :: timeFields, rfl, by decide⟩
    · exact ⟨[], rfl, by decide⟩
  exact (readFormat?_eq_some hRead).1.hyphen_year (by decide) hAfter

end Formats

end Calendar

open Calendar (AcceptedBy WallTime Zone dateFormats hyphenFormats slashFormats)

-- ---------------------------------------------------------------------------
-- Clocks
-- ---------------------------------------------------------------------------

/-- A date is read from a clock in UTC: it is the instant at which that clock shows the time. -/
def ReadInUtc (zone : Zone) (text : String) (t : WallTime) : Prop :=
  Builtin.date.convert zone text = .ok (.date t.atUtc) ∧ t.atUtc.wallTime = t

/-- A date is read from the local clock: it is the instant that the zone gives for the time, and
refused if there is none. -/
def ReadLocally (zone : Zone) (text : String) (t : WallTime) : Prop :=
  Builtin.date.convert zone text =
    match zone.instantOf? t with
    | some i => .ok (.date i)
    | none => .error .nonexistentLocalTime

section Clocks

variable {zone : Zone} {text : String} {t : WallTime}

/-- A text whose fields are read as an instant of UTC is read in UTC. -/
theorem readInUtc_of_readInstant (h : Calendar.readInstant zone text = .ok t.atUtc)
    (hValid : t.InCalendar) : ReadInUtc zone text t := by
  refine ⟨?_, Calendar.wallTime_atUtc hValid⟩
  rw [Builtin.convert, h]

theorem inCalendar_of_acceptedBy {formats : List (List Calendar.Field)} {cs : List Char}
    (h : AcceptedBy formats cs t) : t.InCalendar := by
  obtain ⟨format, -, hRead⟩ := h
  exact (Calendar.readFormat?_eq_some hRead).2

/-- A text with a final `Z` is read in UTC. -/
theorem readInUtc_of_mark {body : List Char} (hText : text.toList = body ++ ['Z'])
    (h : AcceptedBy dateFormats body t) : ReadInUtc zone text t := by
  refine readInUtc_of_readInstant ?_ (inCalendar_of_acceptedBy h)
  rw [Calendar.readInstant, hText, List.getLast?_concat, if_pos rfl, List.dropLast_concat,
    Calendar.readWallTime?_eq_some_iff.mpr h]

/-- Without a final `Z`, a hyphen anywhere in the text decides. -/
theorem readInstant_of_acceptedBy (h : AcceptedBy dateFormats text.toList t) :
    Calendar.readInstant zone text =
      if '-' ∈ text.toList then .ok t.atUtc
      else match zone.instantOf? t with
        | some i => .ok i
        | none => .error .skipped := by
  have hMark := Calendar.getLast?_ne_of_notMem (Calendar.zone_mark_notMem h)
  rw [Calendar.readInstant, if_neg hMark, Calendar.readWallTime?_eq_some_iff.mpr h]
  by_cases hHyphen : '-' ∈ text.toList
  · rw [if_pos hHyphen]
    exact if_pos (List.contains_iff_mem.mpr hHyphen)
  · rw [if_neg hHyphen]
    exact if_neg fun hContains => hHyphen (List.contains_iff_mem.mp hContains)

/-- A text with a hyphen is read in UTC. -/
theorem readInUtc_of_hyphen (h : AcceptedBy dateFormats text.toList t)
    (hHyphen : '-' ∈ text.toList) : ReadInUtc zone text t := by
  refine readInUtc_of_readInstant ?_ (inCalendar_of_acceptedBy h)
  rw [readInstant_of_acceptedBy h, if_pos hHyphen]

/-- A text without a hyphen is read from the local clock. -/
theorem readLocally_of_no_hyphen (h : AcceptedBy dateFormats text.toList t)
    (hHyphen : '-' ∉ text.toList) : ReadLocally zone text t := by
  unfold ReadLocally
  rw [Builtin.convert, readInstant_of_acceptedBy h, if_neg hHyphen]
  cases zone.instantOf? t with
  | some i => rfl
  | none => rfl

/-- A text that is converted is accepted by a format, as it stands or but for a final mark. -/
theorem acceptedBy_of_convert {value : Value} (h : Builtin.date.convert zone text = .ok value) :
    (∃ body t, text.toList = body ++ ['Z'] ∧ AcceptedBy dateFormats body t) ∨
      ∃ t, AcceptedBy dateFormats text.toList t := by
  rw [Builtin.convert, Calendar.readInstant] at h
  by_cases hMark : text.toList.getLast? = some 'Z'
  · obtain ⟨body, hBody⟩ := List.getLast?_eq_some_iff.mp hMark
    rw [hBody, List.getLast?_concat, if_pos rfl, List.dropLast_concat] at h
    cases ht : Calendar.readWallTime? body with
    | some t => exact .inl ⟨body, t, hBody, Calendar.readWallTime?_eq_some_iff.mp ht⟩
    | none => simp [ht] at h
  · rw [if_neg hMark] at h
    cases ht : Calendar.readWallTime? text.toList with
    | some t => exact .inr ⟨t, Calendar.readWallTime?_eq_some_iff.mp ht⟩
    | none => simp [ht] at h

end Clocks

-- ---------------------------------------------------------------------------
-- Formats and clocks
-- ---------------------------------------------------------------------------

/-- **The format of a date decides which clock it is read from, but for years with a minus sign.**
In every zone, whatever text is converted: a text that a format accepts before a final `Z` is read
in UTC, and so is one that a format with hyphens accepts. One that a format with slashes accepts is
read from the local clock if there is no hyphen in it. A hyphen there is the sign of a year, which
is not one after the year zero, and then the text is read in UTC instead. No other text is
converted. -/
theorem format_decides_zone (zone : Zone) (text : String) :
    (∀ body t, text.toList = body ++ ['Z'] → AcceptedBy dateFormats body t →
      ReadInUtc zone text t) ∧
    (∀ t, AcceptedBy hyphenFormats text.toList t → ReadInUtc zone text t) ∧
    (∀ t, AcceptedBy slashFormats text.toList t → '-' ∉ text.toList →
      0 ≤ t.date.year ∧ ReadLocally zone text t) ∧
    (∀ t, AcceptedBy slashFormats text.toList t → '-' ∈ text.toList →
      t.date.year ≤ 0 ∧ ReadInUtc zone text t) ∧
    ∀ value, Builtin.date.convert zone text = .ok value →
      (∃ body t, text.toList = body ++ ['Z'] ∧ AcceptedBy dateFormats body t) ∨
        (∃ t, AcceptedBy hyphenFormats text.toList t) ∨
        ∃ t, AcceptedBy slashFormats text.toList t := by
  refine ⟨fun body t => readInUtc_of_mark, fun t h => ?_, fun t h hHyphen => ?_,
    fun t h hHyphen => ?_, fun value h => ?_⟩
  · have hAccepted := Calendar.acceptedBy_dateFormats_iff.mpr (.inl h)
    exact readInUtc_of_hyphen hAccepted (Calendar.hyphen_mem_of_acceptedBy h)
  · have hAccepted := Calendar.acceptedBy_dateFormats_iff.mpr (.inr h)
    -- a hyphen that is not there is no sign of the year
    have hYear := (Calendar.hyphen_of_slashes h).2
    exact ⟨Int.not_lt.mp fun hNeg => hHyphen (hYear hNeg),
      readLocally_of_no_hyphen hAccepted hHyphen⟩
  · have hAccepted := Calendar.acceptedBy_dateFormats_iff.mpr (.inr h)
    exact ⟨(Calendar.hyphen_of_slashes h).1 hHyphen, readInUtc_of_hyphen hAccepted hHyphen⟩
  · -- whatever is converted was accepted by some format
    rcases acceptedBy_of_convert h with hMarked | ⟨t, hAccepted⟩
    · exact .inl hMarked
    · rcases Calendar.acceptedBy_dateFormats_iff.mp hAccepted with h | h
      · exact .inr (.inl ⟨t, h⟩)
      · exact .inr (.inr ⟨t, h⟩)

/-- A date with slashes in the fifth year before the year zero is read in UTC. -/
theorem signed_year_read_in_utc :
    AcceptedBy slashFormats "01/01/-5".toList { date := ⟨-5, 1, 1⟩ } ∧
      "01/01/-5".toList.getLast? ≠ some 'Z' ∧
      ¬ReadLocally Eastern.zone "01/01/-5" { date := ⟨-5, 1, 1⟩ } ∧
      ReadInUtc Eastern.zone "01/01/-5" { date := ⟨-5, 1, 1⟩ } := by
  have hConvert : Builtin.date.convert Eastern.zone "01/01/-5" =
      .ok (.date ⟨-62324985600, 0⟩) := by rfl
  have hLocal : Eastern.zone.instantOf? { date := ⟨-5, 1, 1⟩ } = some ⟨-62324967600, 0⟩ := by rfl
  refine ⟨⟨Calendar.slashFields, by decide, by decide⟩, by decide, ?_, hConvert, by decide⟩
  unfold ReadLocally
  rw [hConvert, hLocal]
  simp

/-- The day is read in UTC with a final `Z` and with hyphens, and from the local clock with slashes.
-/
theorem format_decides_zone_eastern :
    AcceptedBy dateFormats "07/04/2024".toList { date := ⟨2024, 7, 4⟩ } ∧
      ReadInUtc Eastern.zone "07/04/2024Z" { date := ⟨2024, 7, 4⟩ } ∧
    AcceptedBy hyphenFormats "2024-07-04".toList { date := ⟨2024, 7, 4⟩ } ∧
      ReadInUtc Eastern.zone "2024-07-04" { date := ⟨2024, 7, 4⟩ } ∧
    AcceptedBy slashFormats "07/04/2024".toList { date := ⟨2024, 7, 4⟩ } ∧
      '-' ∉ "07/04/2024".toList ∧
      ReadLocally Eastern.zone "07/04/2024" { date := ⟨2024, 7, 4⟩ } := by
  have hSlashes : AcceptedBy slashFormats "07/04/2024".toList { date := ⟨2024, 7, 4⟩ } :=
    ⟨Calendar.slashFields, by decide, by decide⟩
  have hHyphens : AcceptedBy hyphenFormats "2024-07-04".toList { date := ⟨2024, 7, 4⟩ } :=
    ⟨Calendar.hyphenFields, by decide, by decide⟩
  have hAccepted := Calendar.acceptedBy_dateFormats_iff.mpr (.inr hSlashes)
  have hNone : '-' ∉ "07/04/2024".toList := by decide
  obtain ⟨hMarked, -⟩ := format_decides_zone Eastern.zone "07/04/2024Z"
  obtain ⟨-, hUtc, -⟩ := format_decides_zone Eastern.zone "2024-07-04"
  obtain ⟨-, -, hLocal, -⟩ := format_decides_zone Eastern.zone "07/04/2024"
  exact ⟨hAccepted, hMarked "07/04/2024".toList _ (by decide) hAccepted, hHyphens, hUtc _ hHyphens,
    hSlashes, hNone, (hLocal _ hSlashes hNone).2⟩

end TypedSteps
