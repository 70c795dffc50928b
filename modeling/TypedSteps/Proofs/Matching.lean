import TypedSteps.Proofs.Registry.Plain

/-!
# What matching finds

What a compiled template says about a text, for registries of plain words and with literal
text escaped: where it matches, what it captures, and when a step is said not to match.

* `captures_in_blocks` — the captures are the texts of instances that follow one another;
* `Registry.HasInstance` — some stretch of a text is an instance of a template;
* `mismatch_iff_no_instance` — a step does not match just when its text has no instance.
-/

namespace TypedSteps

-- ---------------------------------------------------------------------------
-- Captures
-- ---------------------------------------------------------------------------

/-- A pattern does not match just when it has no matches. -/
theorem isMatch_eq_false_iff {p : Pattern} {text : String} :
    p.isMatch text = false ↔ p.program.allMatches text.toList.toArray = [] := by
  rw [Pattern.isMatch, Option.isSome_eq_false_iff, Option.isNone_iff_eq_none,
    ← allMatches_eq_nil_iff]

/-- **Extraction is sound and keeps the order.** The captures of a compiled template come
in blocks with one capture for each slot of the template, named after the groups of the
slots in their order, and there is a block unless the template does not match; and the text
consists of gaps and, one for each block, instances: the template with its keywords
replaced, from left to right, by the texts of the block. -/
theorem captures_in_blocks {r : Registry} (hr : r.Plain) {configured : Bool}
    (hEscape : r.escapes configured = true) (template text : String) :
    ∃ compiled, r.compile configured template = .ok compiled ∧
      compiled.slots = slotsOf (pieces r.table template) ∧
      fill (pieces r.table template)
        (compiled.slots.map fun s => keywordCharacters s.name.toList) = template.toList ∧
      ∃ (blocks : List Block) (rest : List Char),
        (∀ block ∈ blocks, block.2.length = compiled.slots.length) ∧
        (blocks = [] ↔ compiled.pattern.isMatch text = false) ∧
        compiled.pattern.captures text =
          blocks.flatMap (fun block => capturesOfTexts compiled.slots block.2) ∧
        text.toList =
          blocks.flatMap (fun block => block.1 ++ fill (pieces r.table template) block.2) ++
            rest := by
  have hms := matchesFrom_allMatches (templateRegex r.table template) text.toList.toArray
  obtain ⟨blocks, rest, hCount, hLengths, hCaptures, hText⟩ :=
    captures_matchesFrom (fun s pattern h => captures_of_plain hr h) hms
  -- there is a block for each match
  have hNone : blocks = [] ↔ (templatePattern r.table template).isMatch text = false := by
    rw [isMatch_eq_false_iff, ← List.length_eq_zero_iff, hCount, List.length_eq_zero_iff]
    rfl
  refine ⟨_, compile_of_plain hr hEscape template, rfl, fill_keywords r.table template,
    blocks, rest, hLengths, hNone, hCaptures, ?_⟩
  rwa [List.drop_zero, List.toList_toArray] at hText

/-- Two slots yield blocks of two captures, one at least. -/
theorem captures_in_blocks_colored :
    colored.Plain ∧ colored.escapes false = true ∧
    ∃ compiled, colored.compile false "{color} ({number})" = .ok compiled ∧
      compiled.slots.map (·.group) = ["color_1", "number_1"] ∧
      ∃ (blocks : List Block) (rest : List Char),
        blocks ≠ [] ∧ (∀ block ∈ blocks, block.2.length = 2) ∧
        compiled.pattern.captures "red (1), green (22)" =
          blocks.flatMap (fun block => capturesOfTexts compiled.slots block.2) ∧
        "red (1), green (22)".toList =
          blocks.flatMap (fun block =>
            block.1 ++ fill (pieces colored.table "{color} ({number})") block.2) ++ rest := by
  have hEscape : colored.escapes false = true := rfl
  obtain ⟨compiled, hCompile, hSlots, -, blocks, rest, hLengths, hNone, hCaptures, hText⟩ :=
    captures_in_blocks plain_colored hEscape "{color} ({number})" "red (1), green (22)"
  have hBlocks : blocks ≠ [] := by
    have hMatch : (templatePattern colored.table "{color} ({number})").isMatch
        "red (1), green (22)" = true := by decide +kernel
    have hPattern : compiled.pattern = templatePattern colored.table "{color} ({number})" := by
      rw [compile_of_plain plain_colored hEscape, Except.ok.injEq] at hCompile
      rw [← hCompile]
    rw [ne_eq, hNone, hPattern, hMatch]
    exact Bool.noConfusion
  have hGroups : compiled.slots.map (·.group) = ["color_1", "number_1"] := by
    rw [hSlots]
    decide +kernel
  have hCount : compiled.slots.length = 2 := by
    have hLen := congrArg List.length hGroups
    rwa [List.length_map] at hLen
  rw [hCount] at hLengths
  exact ⟨plain_colored, rfl, compiled, hCompile, hGroups, blocks, rest, hBlocks, hLengths,
    hCaptures, hText⟩

example : (templatePattern colored.table "{color} {color}").captures "red green" =
    [⟨"color_1", "red"⟩, ⟨"color_2", "green"⟩] := by
  decide +kernel

-- ---------------------------------------------------------------------------
-- Mismatches
-- ---------------------------------------------------------------------------

/-- Some stretch of a text is an instance of a template: the template with each keyword
replaced by a text that its type stands for in that place. -/
def Registry.HasInstance (r : Registry) (template text : String) : Prop :=
  ∃ before vs after,
    text.toList = before ++ fill (pieces r.table template) vs ++ after ∧
      Fits r.language before (pieces r.table template) vs after

section Instances

variable {r : Registry} {template : String}

/-- The pattern of a template matches just the texts that have an instance of it. -/
theorem isMatch_templatePattern (hr : r.Plain) (template text : String) :
    (templatePattern r.table template).isMatch text = true ↔ r.HasInstance template text := by
  have hCaptures : ∀ s pattern, .slot s pattern ∈ pieces r.table template →
      Captures (r.language s.name) pattern := fun s pattern h => captures_of_plain hr h
  rw [Pattern.isMatch, Option.isSome_iff_exists]
  constructor
  · rintro ⟨m, hm⟩
    obtain ⟨i, j, w, -, -, hMeaning, -⟩ := find_program_eq_some hm
    obtain ⟨vs, hFits, hStands, -⟩ := (meaning_templateRegex hCaptures).mp hMeaning
    refine ⟨_, vs, _, ?_, hFits⟩
    rw [List.append_assoc]
    exact hStands.split
  · rintro ⟨before, vs, after, hText, hFits⟩
    -- the instance stands behind the text before it
    have hStands : Stands text.toList.toArray _ _ _ := stands_of_split hText
    have hBefore : text.toList.take before.length = before := by
      rw [hText, List.append_assoc, List.take_left]
    have hAfter : text.toList.drop
        (before.length + (fill (pieces r.table template) vs).length) = after := by
      rw [hText, ← List.length_append, List.drop_left]
    have hSize : before.length ≤ text.toList.toArray.size := by
      rw [List.size_toArray, hText, List.append_assoc, List.length_append]
      exact Nat.le_add_right _ _
    have hMeaning := (meaning_templateRegex hCaptures).mpr ⟨vs, by rwa [hBefore, hAfter],
      hStands, rfl⟩
    cases hFind : (templatePattern r.table template).program.find text.toList.toArray 0 with
    | some m => exact ⟨m, rfl⟩
    | none => exact absurd hMeaning (find_program_eq_none hFind (Nat.zero_le _) hSize)

/-- A template with slots captures nothing just where it does not match. -/
theorem captures_eq_nil_iff (hr : r.Plain) (hSlots : slotsOf (pieces r.table template) ≠ [])
    (text : String) :
    (templatePattern r.table template).captures text = [] ↔
      (templatePattern r.table template).isMatch text = false := by
  have hms := matchesFrom_allMatches (templateRegex r.table template) text.toList.toArray
  obtain ⟨blocks, rest, hCount, hLengths, hCaptures, -⟩ :=
    captures_matchesFrom (fun s pattern h => captures_of_plain hr h) hms
  rw [isMatch_eq_false_iff, Pattern.captures]
  constructor
  · intro hNil
    have hNil := hCaptures.symm.trans hNil
    cases blocks with
    | nil => exact List.eq_nil_of_length_eq_zero hCount.symm
    | cons block blocks =>
      -- the first block would have a capture for every slot
      have hBlock := hLengths block List.mem_cons_self
      rw [List.flatMap_cons, List.append_eq_nil_iff, capturesOfTexts,
        ← List.length_eq_zero_iff, List.length_zipWith, hBlock, Nat.min_self,
        List.length_eq_zero_iff] at hNil
      exact absurd hNil.1 hSlots
  · intro hNil
    show (Program.allMatches (templatePattern r.table template).program _).flatMap _ = []
    rw [hNil]
    rfl

/-- A template without slots has its own text for an instance, and no other. -/
theorem hasInstance_iff_infix (h : slotsOf (pieces r.table template) = []) (text : String) :
    r.HasInstance template text ↔ template.toList <:+: text.toList := by
  rw [Registry.HasInstance, ← written_pieces r.table template]
  simp only [fill_of_slotsOf_eq_nil h]
  constructor
  · rintro ⟨before, vs, after, hText, -⟩
    exact ⟨before, after, hText.symm⟩
  · rintro ⟨before, after, hText⟩
    exact ⟨before, [], after, hText.symm, fits_of_slotsOf_eq_nil _ h before after⟩

end Instances

/-- A template with keywords that is compiled yields what its captures say. -/
theorem matchStep_of_compile {r : Registry} {settings : MatchSettings} {template : String}
    {compiled : CompiledTemplate} (hKeyword : r.hasPlaceholder template = true)
    (hCompile : r.compile settings.escape template = .ok compiled) (step : Step)
    (shared : SharedTypes) :
    (compiled.pattern.captures step.text = [] →
      matchStep r settings step template shared =
        (.error (.mismatch step.diagnostic template), shared)) ∧
    (compiled.pattern.captures step.text ≠ [] → ∀ s t after,
      matchStep r settings step template shared ≠ (.error (.mismatch s t), after)) := by
  rw [matchStep, hKeyword, hCompile]
  cases hCaptures : compiled.pattern.captures step.text with
  | nil => exact ⟨fun _ => by simp [hCaptures], fun hne => absurd rfl hne⟩
  | cons capture captures =>
    refine ⟨fun hNil => (List.cons_ne_nil _ _ hNil).elim, fun _ s t after => ?_⟩
    simp only [Bool.not_true, Bool.false_eq_true, if_false, hCaptures]
    -- what cannot be converted is another error
    cases hAll : convertAll r settings.zone (capture :: captures) shared with
    | mk result last =>
      cases result with
      | ok values => simp
      | error reason => simp

/-- **A mismatch is reported just when the text has no instance of the template.** The
compiled template matches the texts that have an instance. So where the template has a
keyword, matching a step fails with a mismatch if its text has no instance, and does not
if it has one; and a template without keywords matches where its own text occurs. -/
theorem mismatch_iff_no_instance {r : Registry} (hr : r.Plain) {settings : MatchSettings}
    (hEscape : r.escapes settings.escape = true) (step : Step) (template : String)
    (shared : SharedTypes) :
    ∃ compiled, r.compile settings.escape template = .ok compiled ∧
      (compiled.pattern.isMatch step.text = true ↔ r.HasInstance template step.text) ∧
      (r.hasPlaceholder template = true →
        (¬ r.HasInstance template step.text →
          matchStep r settings step template shared =
            (.error (.mismatch step.diagnostic template), shared)) ∧
        (r.HasInstance template step.text → ∀ s t after,
          matchStep r settings step template shared ≠ (.error (.mismatch s t), after))) ∧
      (r.hasPlaceholder template = false →
        (compiled.pattern.isMatch step.text = true ↔
          template.toList <:+: step.text.toList)) := by
  have hMatch := isMatch_templatePattern hr template step.text
  have hCompile := compile_of_plain hr hEscape template
  refine ⟨_, hCompile, hMatch, ?_, ?_⟩
  · intro hKeyword
    have hSlots := containsPlaceholder_iff.mp hKeyword
    have hCaptures := captures_eq_nil_iff hr hSlots step.text
    obtain ⟨hMismatch, hOther⟩ := matchStep_of_compile hKeyword hCompile step shared
    refine ⟨fun hNone => hMismatch (hCaptures.mpr ?_), fun hSome => hOther fun hNil => ?_⟩
    · exact Bool.eq_false_iff.mpr (mt hMatch.mp hNone)
    · rw [hCaptures.mp hNil] at hMatch
      exact Bool.false_ne_true (hMatch.mpr hSome)
  · intro hKeyword
    -- a template without keywords has no slots, so that its only instance is itself
    have hSlots : slotsOf (pieces r.table template) = [] := by
      refine Classical.byContradiction fun hne => ?_
      have hContains := containsPlaceholder_iff.mpr hne
      rw [Registry.hasPlaceholder, hContains] at hKeyword
      cases hKeyword
    rw [← hasInstance_iff_infix hSlots]
    exact hMatch

/-- The text has an instance of the template, with one color in it. -/
theorem hasInstance_colored : colored.HasInstance "is {color}" "it is red" := by
  have hPieces : pieces colored.table "is {color}" =
      [.literal "is ".toList, .slot ⟨"color", 1, "color_1", 3⟩ "red|green"] := by decide +kernel
  refine ⟨"it ".toList, ["red".toList], [], ?_, ?_⟩
  · rw [hPieces]
    decide +kernel
  · rw [hPieces]
    refine ⟨⟨.custom ⟨"color", "red|green", .text⟩, rfl, ?_⟩, rfl⟩
    have hWord : "red".toList ∈ Text.splitAt '|' "red|green".toList := by decide +kernel
    exact hWord

theorem not_hasInstance_colored : ¬ colored.HasInstance "is {color}" "it is blue" := by
  rw [← isMatch_templatePattern plain_colored]
  decide +kernel

/-- One word of the type is found, another word is not. -/
theorem mismatch_iff_no_instance_colored :
    colored.Plain ∧ colored.escapes false = true ∧ colored.hasPlaceholder "is {color}" = true ∧
    (colored.HasInstance "is {color}" "it is red" ∧ ∀ zone shared s t after,
      matchStep colored ⟨false, zone⟩ ⟨.given, "it is red"⟩ "is {color}" shared ≠
        (.error (.mismatch s t), after)) ∧
    (¬ colored.HasInstance "is {color}" "it is blue" ∧ ∀ zone shared,
      matchStep colored ⟨false, zone⟩ ⟨.given, "it is blue"⟩ "is {color}" shared =
        (.error (.mismatch "Given it is blue" "is {color}"), shared)) := by
  have hKeyword : colored.hasPlaceholder "is {color}" = true := by decide +kernel
  have hEscape (zone : Calendar.Zone) :
      colored.escapes (MatchSettings.mk false zone).escape = true := rfl
  refine ⟨plain_colored, rfl, hKeyword, ⟨hasInstance_colored, ?_⟩, not_hasInstance_colored, ?_⟩
  · intro zone shared
    obtain ⟨compiled, -, -, hKeywords, -⟩ := mismatch_iff_no_instance plain_colored
      (hEscape zone) ⟨.given, "it is red"⟩ "is {color}" shared
    exact (hKeywords hKeyword).2 hasInstance_colored
  · intro zone shared
    obtain ⟨compiled, -, -, hKeywords, -⟩ := mismatch_iff_no_instance plain_colored
      (hEscape zone) ⟨.given, "it is blue"⟩ "is {color}" shared
    exact (hKeywords hKeyword).1 not_hasInstance_colored

end TypedSteps
