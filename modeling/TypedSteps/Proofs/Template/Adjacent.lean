import TypedSteps.Proofs.Builtin.Shapes
import TypedSteps.Proofs.Matching
import TypedSteps.Proofs.Outcome
import TypedSteps.Proofs.Registry.Ownership
import TypedSteps.Proofs.Template.Copies
import TypedSteps.Proofs.Template.Reading
import TypedSteps.Proofs.Template.Scans

/-!
# Adjacent keywords of a built-in type

A template that consists of copies of one built-in keyword, one right after the other. Whatever
else a registry knows, such a template has a slot for each copy and no literal text, so that it is
compiled the same way whether literal text is escaped or not.

* `adjacent` — such templates;
* `pieces_adjacent`, `compile_adjacent` — their slots and their patterns;
* `scans_of_slots`, `scans_adjacent`, `scans_keyword` — their matches are a scan of the text;
* `valuesOrMismatch`, `matchStep_adjacent`, `matchStep_keyword` — their values.
-/

namespace TypedSteps

/-- Copies of the keyword of a built-in type with nothing between them. -/
def adjacent (b : Builtin) (count : Nat) : String :=
  String.join (List.replicate count (keyword b.name))

theorem toList_adjacent_succ (b : Builtin) (count : Nat) :
    (adjacent b (count + 1)).toList =
      keywordCharacters b.name.toList ++ (adjacent b count).toList := by
  rw [adjacent, List.replicate_succ, String.join_cons, String.toList_append, keyword,
    String.toList_ofList]
  rfl

-- ---------------------------------------------------------------------------
-- Slots
-- ---------------------------------------------------------------------------

/-- A keyword that is found stays the one that is found when the table grows. -/
theorem keywordAt?_append {table : List Parameter} {cs : List Char} {p : Parameter} {index : Nat}
    (h : keywordAt? table cs = some (p, index)) (more : List Parameter) :
    keywordAt? (table ++ more) cs = some (p, index) := by
  obtain ⟨hGet, hStands, hBefore⟩ := keywordAt?_eq_some_iff.mp h
  have hlt : index < table.length := (List.getElem?_eq_some_iff.mp hGet).1
  refine keywordAt?_eq_some_iff.mpr ⟨?_, hStands, ?_⟩
  · rwa [List.getElem?_append_left hlt]
  · intro k hk q hq
    rw [List.getElem?_append_left (Nat.lt_trans hk hlt)] at hq
    exact hBefore k hk q hq

/-- The keywords of the built-in types are found whatever custom types there are. -/
theorem keywordAt?_builtin (r : Registry) (b : Builtin) (rest : List Char) :
    ∃ index, r.table[index]? = some ⟨b.name, b.pattern⟩ ∧
      keywordAt? r.table (keywordCharacters b.name.toList ++ rest) =
        some (⟨b.name, b.pattern⟩, index) := by
  have hNames : ∀ p ∈ Builtin.all.map Builtin.parameter, IsIdentifier p.name := by
    intro p hp
    obtain ⟨c, -, rfl⟩ := List.mem_map.mp hp
    exact isIdentifier_builtin c
  have hEntry : (Builtin.all.map Builtin.parameter).find? (·.name == b.name) =
      some ⟨b.name, b.pattern⟩ := by
    cases b <;> decide
  obtain ⟨index, -, hFound⟩ := keywordAt?_keyword hNames hEntry rest
  have hFound := keywordAt?_append hFound (r.types.map CustomType.parameter)
  exact ⟨index, (keywordAt?_eq_some_iff.mp hFound).1, hFound⟩

/-- Slots of one built-in type, as pieces of a template. -/
def slotPieces (b : Builtin) (slots : List Slot) : List Piece :=
  slots.map fun s => .slot s b.pattern

/-- The slots of a row of slots are those it was made of. -/
theorem slotsOf_slotPieces (b : Builtin) (slots : List Slot) :
    slotsOf (slotPieces b slots) = slots := by
  induction slots with
  | nil => rfl
  | cons s slots ih =>
    show s :: slotsOf (slotPieces b slots) = _
    rw [ih]

/-- Adjacent keywords are a row of slots, with no text between them. -/
theorem piecesFrom_adjacent (r : Registry) (b : Builtin) (count : Nat) (seen : List String)
    (start : Nat) :
    ∃ slots, slots.length = count ∧ (∀ s ∈ slots, s.name = b.name) ∧
      piecesFrom r.table seen (tokensFrom r.table 0 start (adjacent b count).toList) =
        slotPieces b slots := by
  induction count generalizing seen start with
  | zero => exact ⟨[], rfl, List.forall_mem_nil _, rfl⟩
  | succ count ih =>
    obtain ⟨index, hGet, hFound⟩ := keywordAt?_builtin r b (adjacent b count).toList
    obtain ⟨next, hNext⟩ := tokensFrom_keyword hFound start
    obtain ⟨slots, hLength, hNames, hPieces⟩ := ih (b.name :: seen) next
    refine ⟨⟨b.name, seen.count b.name + 1, groupName b.name (seen.count b.name + 1), start⟩ ::
      slots, ?_, ?_, ?_⟩
    · rw [List.length_cons, hLength]
    · exact List.forall_mem_cons.mpr ⟨rfl, hNames⟩
    · rw [toList_adjacent_succ, hNext, piecesFrom_placeholder hGet, hPieces]
      rfl

/-- Adjacent keywords make as many slots, and nothing else. -/
theorem pieces_adjacent (r : Registry) (b : Builtin) (count : Nat) :
    ∃ slots, slots.length = count ∧ (∀ s ∈ slots, s.name = b.name) ∧
      (∀ s ∈ slots, s.group = groupName b.name s.occurrence) ∧
      pieces r.table (adjacent b count) = slotPieces b slots := by
  obtain ⟨slots, hLength, hNames, hPieces⟩ := piecesFrom_adjacent r b count [] 0
  refine ⟨slots, hLength, hNames, ?_, hPieces⟩
  intro s hs
  obtain ⟨front, back, rfl⟩ := List.append_of_mem hs
  have hSplit : pieces r.table (adjacent b count) =
      slotPieces b front ++ .slot s b.pattern :: slotPieces b back :=
    hPieces.trans List.map_append
  rw [(slotAt_of_pieces hSplit).group, hNames s hs]

/-- The pattern of adjacent keywords does not depend on whether literal text is escaped. -/
theorem compile_adjacent (r : Registry) (configured : Bool) (b : Builtin) (count : Nat) :
    r.compile configured (adjacent b count) =
      .ok { TemplateSource.ofTemplate r.table (r.escapes configured) (adjacent b count) with
        pattern := templatePattern r.table (adjacent b count) } := by
  obtain ⟨slots, -, hNames, hGroups, hPieces⟩ := pieces_adjacent r b count
  refine ofTemplate_eq_ok ?_ ?_
  · intro cs hcs
    rw [hPieces] at hcs
    obtain ⟨s, -, hs⟩ := List.mem_map.mp hcs
    cases hs
  · intro s pattern hs
    rw [hPieces] at hs
    obtain ⟨t, ht, heq⟩ := List.mem_map.mp hs
    cases heq
    refine ⟨?_, ?_, embeds_builtin b⟩
    · rw [hGroups s ht, hNames s ht]
    · rw [hNames s ht]
      exact isIdentifier_builtin b

/-- Adjacent keywords are keywords. -/
theorem hasKeyword_adjacent (r : Registry) (b : Builtin) {count : Nat} (hCount : 0 < count) :
    r.HasKeyword (adjacent b count) := by
  obtain ⟨count, rfl⟩ := Nat.exists_eq_succ_of_ne_zero (Nat.ne_of_gt hCount)
  refine ⟨b.parameter, ?_, [], (adjacent b count).toList, ?_⟩
  · exact List.mem_append_left _ (List.mem_map_of_mem (Builtin.mem_all b))
  · rw [List.nil_append, toList_adjacent_succ]
    rfl

-- ---------------------------------------------------------------------------
-- Matches
-- ---------------------------------------------------------------------------

/-- Whatever its name, a slot stands for the texts of one built-in type. -/
def Builtin.language (b : Builtin) : String → SlotLanguage :=
  fun _ => b.Admits

/-- One slot is filled by one text of its type. -/
theorem fits_slot {b : Builtin} {before after : List Char} {vs : List (List Char)} {s : Slot}
    {pattern : String} : Fits b.language before [.slot s pattern] vs after ↔
      ∃ v, vs = [v] ∧ b.Admits before v after := by
  constructor
  · intro hFits
    cases vs with
    | nil => cases hFits
    | cons v vs =>
      obtain ⟨hAdmits, rfl⟩ := hFits
      exact ⟨v, rfl, hAdmits⟩
  · rintro ⟨v, rfl, hAdmits⟩
    exact ⟨hAdmits, rfl⟩

/-- The pattern of a built-in type captures the texts of the type. -/
theorem captures_builtin (b : Builtin) : Captures b.Admits b.pattern := by
  intro text i j w
  rw [regex_bodyLevel, meaning_builtin]

theorem alwaysConsumes_builtin (b : Builtin) : b.regex.alwaysConsumes = true := by
  cases b <;> rfl

theorem loopsConsume_builtin (b : Builtin) : b.regex.loopsConsume = true := by
  cases b <;> rfl

/-- The texts of the built-in types are not empty. -/
theorem ne_nil_of_admits {b : Builtin} {before v after : List Char}
    (h : b.Admits before v after) : v ≠ [] := by
  rintro rfl
  have hStands : Stands (before ++ after).toArray before.length before.length [] :=
    stands_nil.mpr rfl
  have hMeaning : b.regex.meaning (before ++ after).toArray before.length before.length [] := by
    refine (meaning_builtin b).mpr ⟨rfl, [], hStands, ?_⟩
    rwa [List.take_left, List.drop_left]
  exact Nat.lt_irrefl _ (Regex.advances_of_alwaysConsumes (alwaysConsumes_builtin b) hMeaning).1

/-- The matches of a template all of whose slots are of one built-in type are a scan of the text,
and the captures are the texts of the instances. -/
theorem scans_of_slots {table : List Parameter} {template : String} {b : Builtin}
    (hSlots : ∀ s pattern, .slot s pattern ∈ pieces table template → pattern = b.pattern)
    (hNonempty : ∀ {before vs after}, Fits b.language before (pieces table template) vs after →
      fill (pieces table template) vs ≠ [])
    {text : String} {Kept : List Char → Prop}
    (hKept : ∀ {i j w},
      ((templateRegex table template).choice text.toList.toArray).first (fun _ => True) i j w →
        Kept (text.toList.drop j)) :
    ∃ vss, Scans (fill (pieces table template))
        (fun before vs after => Fits b.language before (pieces table template) vs after) Kept []
        text.toList vss ∧
      (templatePattern table template).captures text =
        vss.flatMap (capturesOfTexts (slotsOf (pieces table template))) := by
  have hCaptures : ∀ s pattern, .slot s pattern ∈ pieces table template →
      Captures (b.language s.name) pattern := by
    intro s pattern hs
    rw [hSlots s pattern hs]
    exact captures_builtin b
  have hLoops : ∀ s pattern, .slot s pattern ∈ pieces table template →
      (bodyLevel pattern).close.regex.loopsConsume = true := by
    intro s pattern hs
    rw [hSlots s pattern hs, regex_bodyLevel]
    exact loopsConsume_builtin b
  exact scans_allMatches hCaptures hLoops hNonempty hKept

/-- The matches of adjacent keywords are a scan of the text, and the captures are the texts of the
instances. -/
theorem scans_adjacent (r : Registry) (b : Builtin) {count : Nat} (hCount : 0 < count)
    (text : String) (Kept : List Char → Prop)
    (hKept : ∀ {i j w},
      ((templateRegex r.table (adjacent b count)).choice text.toList.toArray).first
        (fun _ => True) i j w → Kept (text.toList.drop j)) :
    ∃ slots vss, slots.length = count ∧
      (∀ s ∈ slots, s.group = groupName b.name s.occurrence) ∧
      pieces r.table (adjacent b count) = slotPieces b slots ∧
      Scans (fill (slotPieces b slots))
        (fun before vs after => Fits b.language before (slotPieces b slots) vs after) Kept
        [] text.toList vss ∧
      (templatePattern r.table (adjacent b count)).captures text =
        vss.flatMap (capturesOfTexts slots) := by
  obtain ⟨slots, hLength, -, hGroups, hPieces⟩ := pieces_adjacent r b count
  have hSlots : ∀ s pattern, .slot s pattern ∈ pieces r.table (adjacent b count) →
      pattern = b.pattern := by
    intro s pattern hs
    rw [hPieces] at hs
    obtain ⟨t, -, heq⟩ := List.mem_map.mp hs
    cases heq
    rfl
  -- the first slot alone takes a character
  have hNonempty : ∀ {before vs after},
      Fits b.language before (pieces r.table (adjacent b count)) vs after →
        fill (pieces r.table (adjacent b count)) vs ≠ [] := by
    intro before vs after hFits
    rw [hPieces] at hFits ⊢
    cases slots with
    | nil => exact absurd hLength (Nat.ne_of_lt hCount)
    | cons s slots =>
      cases vs with
      | nil => cases hFits
      | cons v vs =>
        intro hNil
        exact ne_nil_of_admits hFits.1 (List.append_eq_nil_iff.mp hNil).1
  obtain ⟨vss, hScans, hvss⟩ := scans_of_slots hSlots hNonempty hKept
  rw [hPieces] at hScans hvss
  rw [slotsOf_slotPieces] at hvss
  exact ⟨slots, vss, hLength, hGroups, hPieces, hScans, hvss⟩

-- ---------------------------------------------------------------------------
-- One keyword
-- ---------------------------------------------------------------------------

/-- The pattern of one keyword is the pattern of its type in a group. -/
theorem templateRegex_keyword (r : Registry) (b : Builtin) :
    templateRegex r.table (adjacent b 1) = .concat [.group 1 (.concat [b.regex])] := by
  obtain ⟨slots, hLength, -, -, hPieces⟩ := pieces_adjacent r b 1
  obtain ⟨s, rfl⟩ := List.length_eq_one_iff.mp hLength
  rw [templateRegex, hPieces, ← regex_bodyLevel]
  rfl

/-- One keyword captures what a scan for the texts of its type takes. -/
theorem scans_keyword (r : Registry) (b : Builtin) (text : String) (Kept : List Char → Prop)
    (hKept : ∀ {i j w},
      ((templateRegex r.table (adjacent b 1)).choice text.toList.toArray).first
        (fun _ => True) i j w → Kept (text.toList.drop j)) :
    ∃ vs, Scans id b.Admits Kept [] text.toList vs ∧
      (templatePattern r.table (adjacent b 1)).captures text =
        vs.map fun v => ⟨groupName b.name 1, String.ofList v⟩ := by
  obtain ⟨slots, vss, hLength, hGroups, hPieces, hScans, hCaptures⟩ :=
    scans_adjacent r b Nat.one_pos text Kept hKept
  obtain ⟨s, rfl⟩ := List.length_eq_one_iff.mp hLength
  have hGroup : s.group = groupName b.name 1 := by
    have hSlot : SlotAt r.table [] s b.pattern := slotAt_of_pieces hPieces
    have hFirst : s.occurrence = 1 := hSlot.occurrence
    rw [hGroups s List.mem_cons_self, hFirst]
  -- an instance of one keyword is one text of its type
  have hSingle (before : List Char) (vs : List (List Char)) (after : List Char) :
      Fits b.language before (slotPieces b [s]) vs after ↔
        ∃ v, vs = [v] ∧ b.Admits before v after := fits_slot
  refine ⟨vss.map (fill (slotPieces b [s])), hScans.texts fun before v after => ?_, ?_⟩
  · simp only [hSingle]
    constructor
    · rintro ⟨_, rfl, v, rfl, hAdmits⟩
      rwa [show fill (slotPieces b [s]) [v] = v from List.append_nil v]
    · intro hAdmits
      exact ⟨[v], List.append_nil v, v, rfl, hAdmits⟩
  · rw [hCaptures, List.map_map, List.map_eq_flatMap]
    refine List.flatMap_congr fun vs hvs => ?_
    obtain ⟨left, right, hFits⟩ := hScans.found vs hvs
    obtain ⟨v, rfl, -⟩ := (hSingle left vs right).mp hFits
    show [Capture.mk s.group (String.ofList v)] =
      [Capture.mk (groupName b.name 1) (String.ofList (v ++ []))]
    rw [hGroup, List.append_nil]

/-- The captures of one keyword are converted by its type. -/
theorem convertCapture_keyword (r : Registry) (b : Builtin) (zone : Calendar.Zone)
    (text : String) (shared : SharedTypes) :
    convertCapture r zone ⟨groupName b.name 1, text⟩ shared = (b.convert zone text, shared) :=
  convertCapture_of_resolve? (isIdentifier_builtin b).ne_empty (by decide) (r.resolve?_builtin b)
    zone text shared

-- ---------------------------------------------------------------------------
-- Values
-- ---------------------------------------------------------------------------

/-- The values that a match yields, and a mismatch where there are none. -/
def valuesOrMismatch (step : Step) (template : String) (values : List Value) :
    Except MatchError (List Value) :=
  if values.isEmpty then .error (.mismatch step.diagnostic template) else .ok values

/-- A step does not match. -/
def IsMismatch (out : Except MatchError (List Value)) : Prop :=
  ∃ step template, out = .error (.mismatch step template)

/-- Only where there are no values a mismatch is reported. -/
theorem isMismatch_valuesOrMismatch {step : Step} {template : String} {values : List Value} :
    IsMismatch (valuesOrMismatch step template values) ↔ values = [] := by
  cases values with
  | nil => exact iff_of_true ⟨_, _, rfl⟩ rfl
  | cons value values =>
    refine iff_of_false ?_ (List.cons_ne_nil value values)
    rintro ⟨s, t, h⟩
    cases h

/-- Captures that are converted whatever the shared types are leave these as they are. -/
theorem convertAll_of_values {r : Registry} {zone : Calendar.Zone} {cs : List Capture}
    {value : Capture → Value}
    (h : ∀ c ∈ cs, ∀ shared, convertCapture r zone c shared = (.ok (value c), shared))
    (shared : SharedTypes) : convertAll r zone cs shared = (.ok (cs.map value), shared) := by
  induction cs with
  | nil => rfl
  | cons c cs ih =>
    obtain ⟨hc, hcs⟩ := List.forall_mem_cons.mp h
    rw [convertAll, hc]
    dsimp only
    rw [ih hcs]
    rfl

/-- Adjacent keywords yield a value for each capture. -/
theorem matchStep_adjacent {r : Registry} {settings : MatchSettings} {step : Step} {b : Builtin}
    {count : Nat} (hCount : 0 < count) {value : Capture → Value}
    (h : ∀ c ∈ (templatePattern r.table (adjacent b count)).captures step.text, ∀ shared,
      convertCapture r settings.zone c shared = (.ok (value c), shared)) (shared : SharedTypes) :
    matchStep r settings step (adjacent b count) shared =
      (valuesOrMismatch step (adjacent b count)
        (((templatePattern r.table (adjacent b count)).captures step.text).map value),
          shared) := by
  have hCompile := compile_adjacent r settings.escape b count
  have hKeyword := hasKeyword_adjacent r b hCount
  by_cases hNone : (templatePattern r.table (adjacent b count)).captures step.text = []
  · obtain ⟨hMismatch, -⟩ :=
      matchStep_of_compile (hasPlaceholder_iff.mpr hKeyword) hCompile step shared
    rw [hMismatch hNone, hNone]
    rfl
  · rw [matchStep_of_captures hKeyword hCompile hNone]
    dsimp only
    rw [convertAll_of_values h, valuesOrMismatch, if_neg]
    rwa [List.isEmpty_iff, List.map_eq_nil_iff]

/-- One keyword yields a value for each text that it captures. -/
theorem matchStep_keyword {r : Registry} {settings : MatchSettings} {step : Step} {b : Builtin}
    {vs : List (List Char)} {value : List Char → Value}
    (hCaptures : (templatePattern r.table (adjacent b 1)).captures step.text =
      vs.map fun v => ⟨groupName b.name 1, String.ofList v⟩)
    (hValue : ∀ v ∈ vs, b.convert settings.zone (String.ofList v) = .ok (value v))
    (shared : SharedTypes) :
    matchStep r settings step (adjacent b 1) shared =
      (valuesOrMismatch step (adjacent b 1) (vs.map value), shared) := by
  have hConvert : ∀ c ∈ (templatePattern r.table (adjacent b 1)).captures step.text, ∀ shared,
      convertCapture r settings.zone c shared = (.ok (value c.text.toList), shared) := by
    intro c hc shared
    rw [hCaptures] at hc
    obtain ⟨v, hv, rfl⟩ := List.mem_map.mp hc
    rw [convertCapture_keyword, hValue v hv, String.toList_ofList]
  rw [matchStep_adjacent Nat.one_pos hConvert, hCaptures, List.map_map]
  simp only [Function.comp_def, String.toList_ofList]

/-- Captures whose conversion leaves the shared types as they are leave them so together. -/
theorem sharedAfter_eq {r : Registry} {zone : Calendar.Zone} {cs : List Capture}
    (h : ∀ c ∈ cs, ∀ shared, (convertCapture r zone c shared).2 = shared)
    (shared : SharedTypes) : sharedAfter r zone cs shared = shared := by
  induction cs with
  | nil => rfl
  | cons c cs ih =>
    obtain ⟨hc, hcs⟩ := List.forall_mem_cons.mp h
    show sharedAfter r zone cs (convertCapture r zone c shared).2 = shared
    rw [hc, ih hcs]

/-- One keyword yields the error for the first text that cannot be converted. -/
theorem matchStep_keyword_error {r : Registry} {settings : MatchSettings} {step : Step}
    {b : Builtin} {before after : List (List Char)} {v : List Char} {reason : ConversionError}
    (hCaptures : (templatePattern r.table (adjacent b 1)).captures step.text =
      (before ++ v :: after).map fun v => ⟨groupName b.name 1, String.ofList v⟩)
    (hBefore : ∀ u ∈ before, ∃ value, b.convert settings.zone (String.ofList u) = .ok value)
    (hv : b.convert settings.zone (String.ofList v) = .error reason) (shared : SharedTypes) :
    matchStep r settings step (adjacent b 1) shared =
      (.error (.conversion step.diagnostic (groupName b.name 1) (String.ofList v) reason),
        shared) := by
  rw [List.map_append, List.map_cons] at hCaptures
  -- built-in types leave the shared types as they are
  have hok : ∀ c ∈ before.map fun v => Capture.mk (groupName b.name 1) (String.ofList v),
      ∀ shared, ∃ value, convertCapture r settings.zone c shared = (.ok value, shared) := by
    intro c hc shared
    obtain ⟨u, hu, rfl⟩ := List.mem_map.mp hc
    obtain ⟨value, hValue⟩ := hBefore u hu
    exact ⟨value, by rw [convertCapture_keyword, hValue]⟩
  have hConvertible : ∀ c ∈ before.map fun v => Capture.mk (groupName b.name 1) (String.ofList v),
      Convertible r settings.zone c := by
    intro c hc shared
    obtain ⟨value, hValue⟩ := hok c hc shared
    exact ⟨value, shared, hValue⟩
  have hShared := sharedAfter_eq (fun c hc shared => by
    obtain ⟨value, hValue⟩ := hok c hc shared
    rw [hValue]) shared
  have hError : Inconvertible r settings.zone ⟨groupName b.name 1, String.ofList v⟩ reason := by
    intro shared
    rw [convertCapture_keyword, hv]
  have hSome : (templatePattern r.table (adjacent b 1)).captures step.text ≠ [] := by
    rw [hCaptures]
    exact List.append_ne_nil_of_right_ne_nil _ (List.cons_ne_nil _ _)
  rw [matchStep_of_captures (hasKeyword_adjacent r b Nat.one_pos)
    (compile_adjacent r settings.escape b 1) hSome]
  dsimp only
  rw [hCaptures, convertAll_of_first hConvertible hError, hShared]

end TypedSteps
