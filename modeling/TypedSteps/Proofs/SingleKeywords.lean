import TypedSteps.Proofs.Builtin.Denotation
import TypedSteps.Proofs.Template.Adjacent
import TypedSteps.Proofs.Text.Runs

/-!
# Templates of a single keyword

A template that is nothing but the keyword for words, for truth values or for numbers takes from a
text all its runs of the right characters, each as a whole and once.

* `runs_of_scan` — a greedy scan for characters of a kind takes their runs;
* `truths_of_scan` — a scan for truth values takes the runs of word characters that are such;
* `single_keywords_take_runs` — the values of the three templates.
-/

namespace TypedSteps

-- ---------------------------------------------------------------------------
-- Runs
-- ---------------------------------------------------------------------------

section Runs

variable {p : Char → Bool} {Found : SlotLanguage} {before rest : List Char}
  {vs : List (List Char)}

/-- In a gap in which no run begins there is no character of the kind. -/
theorem forall_of_nothingOpens (hFound : ∀ before v after, Run p v → Found before v after)
    {gap after : List Char} (h : NothingOpens id Found before gap after) :
    ∀ c ∈ gap, p c = false := by
  intro c hc
  obtain ⟨xs, ys, rfl⟩ := List.append_of_mem hc
  refine Bool.eq_false_iff.mpr fun hp => h xs (c :: ys) rfl (List.cons_ne_nil c ys) ?_
  refine ⟨[c], ys ++ after, rfl, hFound _ [c] _ ⟨List.cons_ne_nil c [], ?_⟩⟩
  exact List.forall_mem_singleton.mpr hp

/-- A scan for characters of a kind that leaves none right behind what it takes takes the runs of
the text. -/
theorem runs_of_scan (hFound : ∀ before v after, Found before v after ↔ Run p v)
    (h : Scans id Found (OpensOutside p) before rest vs) : vs = runsOf p rest := by
  have hRun : ∀ before v after, Run p v → Found before v after :=
    fun before v after => (hFound before v after).mpr
  induction vs generalizing before rest with
  | nil =>
    have hNone := forall_of_nothingOpens hRun (nothingOpens_of_scans_nil h)
    exact (runsOf_eq_nil hNone).symm
  | cons v vs ih =>
    obtain ⟨gap, after, rfl, hv, hAfter, hLeft, hScans⟩ := h
    have hGap := forall_of_nothingOpens hRun hLeft
    have hCloses : ClosesOutside p gap := fun c hc => hGap c (List.mem_of_getLast? hc)
    rw [ih hScans, id, runsOf_append_run_append hCloses ((hFound _ v _).mp hv) hAfter,
      runsOf_eq_nil hGap, List.nil_append]

end Runs

-- ---------------------------------------------------------------------------
-- Truth values
-- ---------------------------------------------------------------------------

section TruthValues

variable {before rest gap after v : List Char}

/-- The two words that are truth values. -/
def isTruthWord (v : List Char) : Bool :=
  v == "true".toList || v == "false".toList

theorem isTruthWord_iff : isTruthWord v = true ↔ Builtin.boolean.Shape v := by
  rw [isTruthWord, Bool.or_eq_true, beq_iff_eq, beq_iff_eq]
  rfl

/-- The two words consist of word characters. -/
theorem run_of_truthWord (h : Builtin.boolean.Shape v) : Run Unicode.isWordCharacter v := by
  rcases h with rfl | rfl
  · exact ⟨by decide, List.all_eq_true.mp (by decide)⟩
  · exact ⟨by decide, List.all_eq_true.mp (by decide)⟩

/-- In a gap in which no truth value begins no run is one, as long as its runs are runs of the
whole text. -/
theorem filter_runsOf_eq_nil
    (h : NothingOpens id Builtin.boolean.Admits before gap after)
    (hBefore : ClosesOutside Unicode.isWordCharacter before ∨
      OpensOutside Unicode.isWordCharacter gap)
    (hAfter : ClosesOutside Unicode.isWordCharacter gap ∨
      OpensOutside Unicode.isWordCharacter after) :
    (runsOf Unicode.isWordCharacter gap).filter isTruthWord = [] := by
  rw [List.filter_eq_nil_iff]
  intro v hv hTruth
  obtain ⟨xs, ys, rfl, hRun, hxs, hys⟩ := mem_runsOf_iff.mp hv
  refine h xs (v ++ ys) (List.append_assoc _ _ _) ?_ ?_
  · exact List.append_ne_nil_of_left_ne_nil hRun.1 ys
  · refine ⟨v, ys ++ after, List.append_assoc _ _ _, isTruthWord_iff.mp hTruth, fun _ => ⟨?_, ?_⟩⟩
    · refine closesOutside_append_iff.mpr ⟨hxs, ?_⟩
      rintro rfl
      refine hBefore.resolve_right fun hOpens => ?_
      exact hRun.not_opensOutside (opensOutside_append_iff.mp hOpens).1
    · refine opensOutside_append_iff.mpr ⟨hys, ?_⟩
      rintro rfl
      refine hAfter.resolve_left fun hCloses => ?_
      rw [List.append_nil] at hCloses
      exact hRun.not_closesOutside (closesOutside_append_iff.mp hCloses).1

/-- A scan for truth values takes the runs of word characters that are truth values, as long as
it begins outside of a run. -/
theorem truths_of_scan {Kept : List Char → Prop} {vs : List (List Char)}
    (h : Scans id Builtin.boolean.Admits Kept before rest vs)
    (hBefore : ClosesOutside Unicode.isWordCharacter before ∨
      OpensOutside Unicode.isWordCharacter rest) :
    vs = (runsOf Unicode.isWordCharacter rest).filter isTruthWord := by
  induction vs generalizing before rest with
  | nil => exact (filter_runsOf_eq_nil (nothingOpens_of_scans_nil h) hBefore (.inr nofun)).symm
  | cons v vs ih =>
    obtain ⟨gap, after, rfl, ⟨hShape, hFree⟩, -, hLeft, hScans⟩ := h
    obtain ⟨hCloses, hOpens⟩ := hFree rfl
    have hGap : ClosesOutside Unicode.isWordCharacter gap := (closesOutside_append_iff.mp hCloses).1
    have hStart := hBefore.imp_right fun hRest =>
      (opensOutside_append_iff.mp (opensOutside_append_iff.mp hRest).1).1
    rw [ih hScans (.inr hOpens), id, runsOf_append_run_append hGap (run_of_truthWord hShape) hOpens,
      List.filter_append, filter_runsOf_eq_nil hLeft hStart (.inl hGap), List.nil_append,
      List.filter_cons_of_pos (isTruthWord_iff.mpr hShape)]

end TruthValues

-- ---------------------------------------------------------------------------
-- Keywords for runs
-- ---------------------------------------------------------------------------

/-- A group around a class that is repeated takes all the characters of the class that there
are. -/
theorem opensOutside_of_first {set : Unicode.CharSet} {ascii : Bool} {r : Regex}
    (hr : r = .group 1 (.rep (.chars set ascii) 1 none true)) {text : Array Char} {i j : Nat}
    {w : Slots} (h : (r.choice text).first (fun _ => True) i j w) :
    OpensOutside set.contains (text.toList.drop j) := by
  subst hr
  obtain ⟨K, u, hK, hBody⟩ := first_group (fun _ => trivial) h
  intro c hc
  rw [List.head?_drop, Array.getElem?_toList] at hc
  exact first_repeated_take hK hBody c hc

/-- A keyword whose pattern repeats a class captures the runs of its characters. -/
theorem captures_run_keyword (b : Builtin) {set : Unicode.CharSet} {ascii : Bool}
    {p : Char → Bool} (hb : b ≠ .boolean)
    (hRegex : b.regex = .rep (.chars set ascii) 1 none true) (hSet : set.contains = p)
    (hShape : b.Shape = Run p) (r : Registry) (text : String) :
    (templatePattern r.table (adjacent b 1)).captures text =
      (runsOf p text.toList).map fun v => ⟨groupName b.name 1, String.ofList v⟩ := by
  have hGroup : templateRegex r.table (adjacent b 1) =
      .group 1 (.rep (.chars set ascii) 1 none true) := by
    rw [templateRegex_keyword, hRegex]
    rfl
  have hKept : ∀ {i j w},
      ((templateRegex r.table (adjacent b 1)).choice text.toList.toArray).first
        (fun _ => True) i j w → OpensOutside p (text.toList.drop j) := by
    rw [← hSet]
    exact opensOutside_of_first hGroup
  have hAdmits (before v after : List Char) : b.Admits before v after ↔ Run p v := by
    rw [Builtin.Admits, hShape]
    exact and_iff_left fun h => absurd h hb
  obtain ⟨vs, hScans, hCaptures⟩ := scans_keyword r b text _ hKept
  rw [hCaptures, runs_of_scan hAdmits hScans]

-- ---------------------------------------------------------------------------
-- Values
-- ---------------------------------------------------------------------------

/-- The words of a text: its runs of characters other than white space. -/
def wordsOf (text : String) : List (List Char) :=
  runsOf (fun c => !Unicode.isWhiteSpace c) text.toList

/-- The truth values of a text: its runs of word characters that are `true` or `false`. -/
def truthsOf (text : String) : List (List Char) :=
  (runsOf Unicode.isWordCharacter text.toList).filter isTruthWord

/-- The numbers of a text: its runs of ASCII digits. -/
def numeralsOf (text : String) : List (List Char) :=
  runsOf Char.isDigit text.toList

/-- The greatest whole number that a value can be: 2^63 - 1. -/
def greatestInteger : Nat := 0x7FFFFFFFFFFFFFFF

/-- The values of numbers, and the error for the first that is too large. -/
def integersOrError (step : Step) (numerals : List (List Char)) :
    Except MatchError (List Value) :=
  match numerals.find? fun v => decide (greatestInteger < Nat.ofDigitChars 10 v 0) with
  | some v => .error (.conversion step.diagnostic "number_1" (String.ofList v) .integerOutOfRange)
  | none =>
    valuesOrMismatch step "{number}" (numerals.map fun v => .integer (Nat.ofDigitChars 10 v 0))

/-- A text without numerals does not match, and one with numerals does. -/
theorem isMismatch_integersOrError {step : Step} {numerals : List (List Char)} :
    IsMismatch (integersOrError step numerals) ↔ numerals = [] := by
  rw [integersOrError]
  cases hFind : numerals.find? fun v => decide (greatestInteger < Nat.ofDigitChars 10 v 0) with
  | none => rw [isMismatch_valuesOrMismatch, List.map_eq_nil_iff]
  | some v =>
    refine iff_of_false ?_ (List.ne_nil_of_mem (List.mem_of_find?_eq_some hFind))
    rintro ⟨s, t, h⟩
    cases h

section Values

variable (r : Registry) (settings : MatchSettings) (step : Step) (shared : SharedTypes)

/-- The values of `{word}` are the runs of characters that are no white space. -/
theorem matchStep_word :
    matchStep r settings step "{word}" shared =
      (valuesOrMismatch step "{word}" ((wordsOf step.text).map fun v => .string (String.ofList v)),
        shared) := by
  have hCaptures := captures_run_keyword .word (by decide) rfl contains_complement_whiteSpace rfl r
    step.text
  exact matchStep_keyword hCaptures (fun v _ => rfl) shared

/-- The values of `{boolean}` are the runs of word characters that are one of the two words. -/
theorem matchStep_boolean :
    matchStep r settings step "{boolean}" shared =
      (valuesOrMismatch step "{boolean}"
        ((truthsOf step.text).map fun v => .boolean (v == "true".toList)), shared) := by
  obtain ⟨vs, hScans, hCaptures⟩ :=
    scans_keyword r .boolean step.text (fun _ => True) fun _ => trivial
  obtain rfl : vs = truthsOf step.text := truths_of_scan hScans (.inl nofun)
  refine matchStep_keyword hCaptures (fun v hv => ?_) shared
  obtain ⟨-, hTruth⟩ := List.mem_filter.mp hv
  rcases isTruthWord_iff.mp hTruth with rfl | rfl
  · rfl
  · rfl

/-- A numeral is converted to its value, unless that is too large. -/
theorem convert_numeral {v : List Char} (hv : Run Char.isDigit v) (zone : Calendar.Zone) :
    Builtin.number.convert zone (String.ofList v) =
      if greatestInteger < Nat.ofDigitChars 10 v 0 then .error .integerOutOfRange
      else .ok (.integer (Nat.ofDigitChars 10 v 0)) := by
  have hRead : Decimal.readWhole? (String.ofList v) =
      if Nat.ofDigitChars 10 v 0 ≤ greatestInteger then some (Nat.ofDigitChars 10 v 0 : Int)
      else none :=
    readWhole?_of_digits hv
  rw [Builtin.convert, hRead]
  by_cases hLarge : greatestInteger < Nat.ofDigitChars 10 v 0
  · rw [if_pos hLarge, if_neg (Nat.not_le.mpr hLarge)]
  · rw [if_neg hLarge, if_pos (Nat.not_lt.mp hLarge)]

/-- The values of `{number}` are the runs of digits, unless one of them is too large. -/
theorem matchStep_number :
    matchStep r settings step "{number}" shared =
      (integersOrError step (numeralsOf step.text), shared) := by
  have hCaptures : (templatePattern r.table (adjacent .number 1)).captures step.text =
      (numeralsOf step.text).map fun v => ⟨groupName "number" 1, String.ofList v⟩ :=
    captures_run_keyword .number (by decide) rfl contains_digits rfl r step.text
  -- the captured texts are runs of digits, each of which is read as a whole
  have hRun : ∀ v ∈ numeralsOf step.text, Run Char.isDigit v := by
    intro v hv
    obtain ⟨before, after, -, hRun, -⟩ := mem_runsOf_iff.mp hv
    exact hRun
  rw [integersOrError]
  cases hFind : (numeralsOf step.text).find?
      fun v => decide (greatestInteger < Nat.ofDigitChars 10 v 0) with
  | none =>
    rw [List.find?_eq_none] at hFind
    refine matchStep_keyword hCaptures (fun v hv => ?_) shared
    rw [convert_numeral (hRun v hv), if_neg]
    exact fun hLarge => hFind v hv (decide_eq_true hLarge)
  | some v =>
    -- the first run that is too large is where the match fails
    obtain ⟨hLarge, before, after, hSplit, hBefore⟩ := List.find?_eq_some_iff_append.mp hFind
    rw [hSplit] at hRun hCaptures
    obtain ⟨hFront, hBack⟩ := List.forall_mem_append.mp hRun
    obtain ⟨hv, -⟩ := List.forall_mem_cons.mp hBack
    refine matchStep_keyword_error hCaptures (fun u hu => ?_) ?_ shared
    · have hSmall := hBefore u hu
      rw [Bool.not_eq_true', decide_eq_false_iff_not] at hSmall
      exact ⟨_, (convert_numeral (hFront u hu) settings.zone).trans (if_neg hSmall)⟩
    · rw [convert_numeral hv, if_pos (of_decide_eq_true hLarge)]

/-- **A template of a single keyword takes every occurrence and nothing else.** In every registry
and whether literal text is escaped or not: the keyword for words yields the runs of characters
other than white space, as they stand; the keyword for truth values yields the runs of word
characters that are `true` or `false`; and the keyword for numbers yields the values of the runs
of digits, or the error for the first of them that is too large. A step does not match just where
there are no such runs. -/
theorem single_keywords_take_runs :
    (matchStep r settings step "{word}" shared =
        (valuesOrMismatch step "{word}"
          ((wordsOf step.text).map fun v => .string (String.ofList v)), shared) ∧
      (IsMismatch (matchStep r settings step "{word}" shared).1 ↔ wordsOf step.text = [])) ∧
    (matchStep r settings step "{boolean}" shared =
        (valuesOrMismatch step "{boolean}"
          ((truthsOf step.text).map fun v => .boolean (v == "true".toList)), shared) ∧
      (IsMismatch (matchStep r settings step "{boolean}" shared).1 ↔ truthsOf step.text = [])) ∧
    (matchStep r settings step "{number}" shared =
        (integersOrError step (numeralsOf step.text), shared) ∧
      (IsMismatch (matchStep r settings step "{number}" shared).1 ↔
        numeralsOf step.text = [])) := by
  refine ⟨⟨matchStep_word r settings step shared, ?_⟩,
    ⟨matchStep_boolean r settings step shared, ?_⟩, matchStep_number r settings step shared, ?_⟩
  · rw [matchStep_word, isMismatch_valuesOrMismatch, List.map_eq_nil_iff]
  · rw [matchStep_boolean, isMismatch_valuesOrMismatch, List.map_eq_nil_iff]
  · rw [matchStep_number, isMismatch_integersOrError]

end Values

end TypedSteps
