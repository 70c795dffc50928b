import TypedSteps.Proofs.Template.Adjacent
import TypedSteps.Proofs.Text.Runs

/-!
# Templates of adjacent keywords for characters

A template of `n` keywords for characters, one right after the other, cuts each line of a text
into groups of `n` characters. What is left at the end of a line is dropped, since no character of
a template's instance is a line break.

* `linesOf`, `wholeGroups` — the lines of a text, and what their groups make up;
* `groups_of_scan` — a scan for groups takes the groups of the lines;
* `convertCapture_character` — a character is kept as it is, however many there are;
* `adjacent_characters_cut_lines` — the values of such a template.
-/

namespace TypedSteps

/-- The lines of a text. -/
def linesOf (text : String) : List (List Char) :=
  text.toList.splitOn '\n'

/-- The first characters of a line, as many as make up whole groups of `n`. -/
def wholeGroups (n : Nat) (line : List Char) : List Char :=
  line.take (n * (line.length / n))

-- ---------------------------------------------------------------------------
-- Groups
-- ---------------------------------------------------------------------------

/-- A character other than the line break. -/
def inLine (c : Char) : Bool :=
  c != '\n'

/-- Characters other than line breaks, a given number of them. -/
def IsGroup (n : Nat) (v : List Char) : Prop :=
  v.length = n ∧ ∀ c ∈ v, inLine c = true

section Groups

variable {n : Nat} {v u before gap after rest : List Char} {vs : List (List Char)}

theorem wholeGroups_nil (n : Nat) : wholeGroups n [] = [] :=
  List.take_nil

theorem wholeGroups_eq_nil_iff (hn : 0 < n) {line : List Char} :
    wholeGroups n line = [] ↔ line.length < n := by
  rw [wholeGroups, List.take_eq_nil_iff, Nat.mul_eq_zero, Nat.div_eq_zero_iff,
    ← List.length_eq_zero_iff]
  omega

/-- A group in front of a line makes one group more. -/
theorem wholeGroups_append (hn : 0 < n) (hv : v.length = n) (u : List Char) :
    wholeGroups n (v ++ u) = v ++ wholeGroups n u := by
  have hCount : (n + u.length) / n = u.length / n + 1 := by
    rw [Nat.add_comm, Nat.add_div_right _ hn]
  have hLength : n * (u.length / n + 1) = v.length + n * (u.length / n) := by
    rw [Nat.mul_succ, hv, Nat.add_comm]
  rw [wholeGroups, wholeGroups, List.length_append, hv, hCount, hLength,
    List.take_length_add_append]

/-- What the groups of the lines of a text make up. -/
def groupsOf (n : Nat) (cs : List Char) : List Char :=
  (runsOf inLine cs).flatMap (wholeGroups n)

/-- Empty lines have no groups, so that the lines may be taken for runs. -/
theorem flatMap_splitOn (n : Nat) (cs : List Char) :
    (cs.splitOn '\n').flatMap (wholeGroups n) = groupsOf n cs := by
  have hFilter (lines : List (List Char)) :
      (lines.filter (!·.isEmpty)).flatMap (wholeGroups n) = lines.flatMap (wholeGroups n) := by
    induction lines with
    | nil => rfl
    | cons line lines ih =>
      cases line with
      | nil =>
        rw [List.flatMap_cons, wholeGroups_nil, List.nil_append, ← ih]
        rfl
      | cons c line =>
        rw [List.filter_cons_of_pos rfl, List.flatMap_cons, List.flatMap_cons, ih]
  have hSplit : cs.splitOn '\n' = cs.splitOnP fun c => !inLine c := by
    simp only [inLine, bne, Bool.not_not]
    rfl
  rw [groupsOf, runsOf, hFilter, hSplit]

theorem groupsOf_of_all (hu : ∀ c ∈ u, inLine c = true) : groupsOf n u = wholeGroups n u := by
  by_cases hNil : u = []
  · rw [hNil, groupsOf, runsOf_nil, wholeGroups_nil]
    rfl
  · rw [groupsOf, runsOf_of_run ⟨hNil, hu⟩, List.flatMap_singleton]

theorem groupsOf_append_cons {c : Char} (hc : inLine c = false) (xs ys : List Char) :
    groupsOf n (xs ++ c :: ys) = groupsOf n xs ++ groupsOf n ys := by
  rw [groupsOf, runsOf_append_cons hc, List.flatMap_append]
  rfl

/-- A group in front of a text is the first of its groups. -/
theorem groupsOf_append (hn : 0 < n) (hv : IsGroup n v) (after : List Char) :
    groupsOf n (v ++ after) = v ++ groupsOf n after := by
  rcases all_or_exists_first inLine after with hAll | ⟨xs, c, ys, rfl, hxs, hc⟩
  · rw [groupsOf_of_all (List.forall_mem_append.mpr ⟨hv.2, hAll⟩), groupsOf_of_all hAll,
      wholeGroups_append hn hv.1]
  · rw [← List.append_assoc, groupsOf_append_cons hc, groupsOf_append_cons hc,
      groupsOf_of_all (List.forall_mem_append.mpr ⟨hv.2, hxs⟩), groupsOf_of_all hxs,
      wholeGroups_append hn hv.1, List.append_assoc]

theorem isGroup_take (hle : n ≤ v.length) (hv : ∀ c ∈ v, inLine c = true) :
    IsGroup n (v.take n) :=
  ⟨List.length_take_of_le hle, fun c hc => hv c (List.mem_of_mem_take hc)⟩

/-- Where a group begins, so does something that can be found. -/
theorem opens_of_isGroup (hle : n ≤ v.length) (hv : ∀ c ∈ v, inLine c = true) :
    Opens id (fun _ v _ => IsGroup n v) before (v ++ after) :=
  ⟨v.take n, v.drop n ++ after, by rw [id, ← List.append_assoc, List.take_append_drop],
    isGroup_take hle hv⟩

/-- The lines of a gap in which no group begins are too short for one. -/
theorem groupsOf_eq_nil (h : NothingOpens id (fun _ v _ => IsGroup n v) before gap after)
    (hn : 0 < n) : groupsOf n gap = [] := by
  rw [groupsOf, List.flatMap_eq_nil_iff]
  intro v hv
  obtain ⟨xs, ys, rfl, hRun, -, -⟩ := mem_runsOf_iff.mp hv
  rw [wholeGroups_eq_nil_iff hn]
  refine Nat.lt_of_not_le fun hle => h xs (v ++ ys) (List.append_assoc _ _ _) ?_ ?_
  · exact List.append_ne_nil_of_left_ne_nil hRun.1 ys
  · rw [List.append_assoc]
    exact opens_of_isGroup hle hRun.2

/-- A gap before a group ends with a line break, for otherwise a group would begin earlier. -/
theorem closesOutside_of_nothingOpens (hv : IsGroup n v)
    (h : NothingOpens id (fun _ v _ => IsGroup n v) before gap (v ++ after)) :
    ClosesOutside inLine gap := by
  intro c hc
  obtain ⟨xs, rfl⟩ := List.getLast?_eq_some_iff.mp hc
  refine Bool.eq_false_iff.mpr fun hOther => h xs [c] rfl (List.cons_ne_nil c []) ?_
  rw [← List.append_assoc]
  refine opens_of_isGroup ?_ (List.forall_mem_cons.mpr ⟨hOther, hv.2⟩)
  rw [List.singleton_append, List.length_cons, hv.1]
  exact Nat.le_succ n

/-- A scan for groups takes the groups of the lines. -/
theorem groups_of_scan (hn : 0 < n) {Kept : List Char → Prop}
    (h : Scans id (fun _ v _ => IsGroup n v) Kept before rest vs) :
    vs.flatten = groupsOf n rest := by
  induction vs generalizing before rest with
  | nil => exact (groupsOf_eq_nil (nothingOpens_of_scans_nil h) hn).symm
  | cons v vs ih =>
    obtain ⟨gap, after, rfl, hv, -, hLeft, hScans⟩ := h
    have hGap := groupsOf_eq_nil hLeft hn
    have hCloses := closesOutside_of_nothingOpens hv hLeft
    have hCut : groupsOf n (gap ++ (v ++ after)) = groupsOf n gap ++ groupsOf n (v ++ after) := by
      rw [groupsOf, runsOf_append_of_closesOutside hCloses, List.flatMap_append]
      rfl
    rw [List.flatten_cons, ih hScans, id, List.append_assoc, hCut, hGap, groupsOf_append hn hv]
    rfl

end Groups

-- ---------------------------------------------------------------------------
-- Instances
-- ---------------------------------------------------------------------------

section Instances

variable {slots : List Slot} {before after : List Char} {vs : List (List Char)}

/-- The texts of keywords for characters are single characters other than line breaks. -/
theorem fits_characters :
    Fits Builtin.char.language before (slotPieces .char slots) vs after ↔
      ∃ cs : List Char, vs = cs.map ([·]) ∧ IsGroup slots.length cs := by
  induction slots generalizing before vs with
  | nil =>
    constructor
    · rintro rfl
      exact ⟨[], rfl, rfl, nofun⟩
    · rintro ⟨cs, rfl, hLength, -⟩
      rw [List.length_eq_zero_iff.mp hLength]
      rfl
  | cons s slots ih =>
    constructor
    · intro hFits
      cases vs with
      | nil => cases hFits
      | cons v vs =>
        obtain ⟨⟨⟨c, rfl, hc⟩, -⟩, hRest⟩ := hFits
        obtain ⟨cs, rfl, hLength, hcs⟩ := ih.mp hRest
        refine ⟨c :: cs, rfl, ?_, List.forall_mem_cons.mpr ⟨bne_iff_ne.mpr hc, hcs⟩⟩
        rw [List.length_cons, List.length_cons, hLength]
    · rintro ⟨cs, rfl, hLength, hcs⟩
      obtain ⟨c, cs, rfl⟩ := List.exists_cons_of_length_eq_add_one hLength
      obtain ⟨hc, hcs⟩ := List.forall_mem_cons.mp hcs
      exact ⟨⟨⟨c, rfl, bne_iff_ne.mp hc⟩, nofun⟩, ih.mpr ⟨cs, rfl, Nat.succ.inj hLength, hcs⟩⟩

theorem fill_characters {cs : List Char} (hLength : cs.length = slots.length) :
    fill (slotPieces .char slots) (cs.map ([·])) = cs := by
  induction slots generalizing cs with
  | nil =>
    rw [List.length_eq_zero_iff.mp hLength]
    rfl
  | cons s slots ih =>
    obtain ⟨c, cs, rfl⟩ := List.exists_cons_of_length_eq_add_one hLength
    exact congrArg (c :: ·) (ih (Nat.succ.inj hLength))

/-- The captures of a group are its characters. -/
theorem texts_of_characters {cs : List Char} (hLength : cs.length = slots.length) :
    (capturesOfTexts slots (cs.map ([·]))).map (fun c => Value.string c.text) =
      cs.map fun c => .string (String.singleton c) := by
  induction slots generalizing cs with
  | nil =>
    rw [List.length_eq_zero_iff.mp hLength]
    rfl
  | cons s slots ih =>
    obtain ⟨c, cs, rfl⟩ := List.exists_cons_of_length_eq_add_one hLength
    have hRest := ih (Nat.succ.inj hLength)
    exact congrArg (Value.string (String.singleton c) :: ·) hRest

/-- A capture holds the text that stands in its slot. -/
theorem exists_of_mem_capturesOfTexts {c : Capture} (hc : c ∈ capturesOfTexts slots vs) :
    ∃ s ∈ slots, ∃ v ∈ vs, c = ⟨s.group, String.ofList v⟩ := by
  obtain ⟨i, hi⟩ := List.mem_iff_getElem?.mp hc
  rw [capturesOfTexts, List.getElem?_zipWith_eq_some] at hi
  obtain ⟨s, v, hs, hv, rfl⟩ := hi
  exact ⟨s, List.mem_of_getElem? hs, v, List.mem_of_getElem? hv, rfl⟩

end Instances

-- ---------------------------------------------------------------------------
-- Values
-- ---------------------------------------------------------------------------

/-- A group whose number is too large to be counted to belongs to no type. -/
theorem splitGroupName?_eq_none (name : String) {n : Nat} (hn : occurrenceBound ≤ n) :
    splitGroupName? (groupName name n) = none := by
  rw [splitGroupName?, splitAtLast?_groupName]
  simp only [Nat.ofDigitChars_ten_toDigits, if_neg (Nat.not_lt.mpr hn), ite_self]

/-- A single character does not stand between quotes. -/
theorem unquote_character (c : Char) : unquote (String.singleton c) = String.singleton c := by
  have hNone (quote : Char) : betweenQuotes? quote [c] = none := by
    rw [betweenQuotes?, if_neg]
    rintro ⟨-, hLast⟩
    cases hLast
  rw [unquote]
  simp only [String.toList_singleton, hNone]

/-- A character is kept as it is, however many there are: where their groups can no longer be
counted, they are taken for quoted text, and a character alone is that without its quotes. -/
theorem convertCapture_character (r : Registry) (n : Nat) (zone : Calendar.Zone) (c : Char)
    (shared : SharedTypes) :
    convertCapture r zone ⟨groupName Builtin.char.name n, String.singleton c⟩ shared =
      (.ok (.string (String.singleton c)), shared) := by
  by_cases hn : n < occurrenceBound
  · rw [convertCapture_of_resolve? (isIdentifier_builtin .char).ne_empty hn
      (r.resolve?_builtin .char)]
    rfl
  · have hNone : ownerOf? r (groupName Builtin.char.name n) = none := by
      rw [ownerOf?, splitGroupName?_eq_none _ (Nat.not_lt.mp hn)]
    rw [convertCapture, hNone]
    show (Except.ok (Value.string (unquote (String.singleton c))), shared) = _
    rw [unquote_character]

/-- **Adjacent keywords for characters cut each line into groups.** In every registry and whether
literal text is escaped or not, a template of `n` keywords for characters yields, line by line,
the first characters, as many as make up whole groups of `n`; and a step does not match just where
every line has fewer than `n` characters. -/
theorem adjacent_characters_cut_lines (r : Registry) (settings : MatchSettings) (step : Step)
    (shared : SharedTypes) {n : Nat} (hn : 1 ≤ n) :
    matchStep r settings step (String.join (List.replicate n "{char}")) shared =
      (valuesOrMismatch step (String.join (List.replicate n "{char}"))
        ((linesOf step.text).flatMap fun line =>
          (wholeGroups n line).map fun c => .string (String.singleton c)), shared) ∧
    (IsMismatch (matchStep r settings step (String.join (List.replicate n "{char}")) shared).1 ↔
      ∀ line ∈ linesOf step.text, line.length < n) := by
  have hTemplate : String.join (List.replicate n "{char}") = adjacent .char n := rfl
  rw [hTemplate]
  obtain ⟨slots, vss, hLength, hGroups, -, hScans, hCaptures⟩ :=
    scans_adjacent r .char hn step.text (fun _ => True) fun _ => trivial
  -- each block of texts is a group of characters
  have hBlocks : ∀ vs ∈ vss, ∃ cs : List Char, vs = cs.map ([·]) ∧ IsGroup slots.length cs := by
    intro vs hvs
    obtain ⟨left, right, hFits⟩ := hScans.found vs hvs
    exact fits_characters.mp hFits
  have hGroupsOf : (vss.map (fill (slotPieces .char slots))).flatten =
      groupsOf n step.text.toList := by
    refine groups_of_scan hn (hScans.texts fun before v after => ?_)
    simp only [fits_characters, hLength]
    constructor
    · rintro ⟨_, rfl, cs, rfl, hcs⟩
      rwa [fill_characters (hcs.1.trans hLength.symm)]
    · intro hv
      exact ⟨v.map ([·]), fill_characters (hv.1.trans hLength.symm), v, rfl, hv⟩
  have hValues : ((templatePattern r.table (adjacent .char n)).captures step.text).map
      (fun c => Value.string c.text) =
        (groupsOf n step.text.toList).map fun c => .string (String.singleton c) := by
    rw [hCaptures, ← hGroupsOf, ← List.flatMap_def, List.map_flatMap, List.map_flatMap]
    refine List.flatMap_congr fun vs hvs => ?_
    obtain ⟨cs, rfl, hcs⟩ := hBlocks vs hvs
    rw [fill_characters hcs.1, texts_of_characters hcs.1]
  have hConvert : ∀ c ∈ (templatePattern r.table (adjacent .char n)).captures step.text,
      ∀ shared, convertCapture r settings.zone c shared = (.ok (.string c.text), shared) := by
    intro capture hCapture shared
    rw [hCaptures, List.mem_flatMap] at hCapture
    obtain ⟨vs, hvs, hCapture⟩ := hCapture
    obtain ⟨cs, rfl, -⟩ := hBlocks vs hvs
    obtain ⟨s, hs, v, hv, rfl⟩ := exists_of_mem_capturesOfTexts hCapture
    obtain ⟨c, -, rfl⟩ := List.mem_map.mp hv
    rw [hGroups s hs]
    exact convertCapture_character r s.occurrence settings.zone c shared
  rw [matchStep_adjacent hn hConvert, hValues, ← flatMap_splitOn, List.map_flatMap,
    isMismatch_valuesOrMismatch, List.flatMap_eq_nil_iff]
  refine ⟨rfl, forall₂_congr fun line _ => ?_⟩
  rw [List.map_eq_nil_iff, wholeGroups_eq_nil_iff hn]

/-- Two keywords take the pairs of each line and drop what is left of it. -/
theorem adjacent_characters_cut_lines_pairs :
    1 ≤ 2 ∧ ∀ zone shared,
      matchStep colored ⟨false, zone⟩ ⟨.given, "señor\n\n12"⟩ "{char}{char}" shared =
          (.ok [.string "s", .string "e", .string "ñ", .string "o", .string "1", .string "2"],
            shared) ∧
        ¬ ∀ line ∈ linesOf "señor\n\n12", line.length < 2 := by
  refine ⟨by decide, fun zone shared => ?_⟩
  obtain ⟨hValues, hMismatch⟩ := adjacent_characters_cut_lines colored ⟨false, zone⟩
    ⟨.given, "señor\n\n12"⟩ shared (n := 2) (by decide)
  have hMatch : matchStep colored ⟨false, zone⟩ ⟨.given, "señor\n\n12"⟩ "{char}{char}" shared =
      (.ok [.string "s", .string "e", .string "ñ", .string "o", .string "1", .string "2"],
        shared) := hValues
  refine ⟨hMatch, fun hShort => ?_⟩
  obtain ⟨s, t, hError⟩ := hMismatch.mpr hShort
  rw [hValues] at hError
  cases hError

end TypedSteps
