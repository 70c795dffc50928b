import TypedSteps.Proofs.Builtin.Denotation
import TypedSteps.Proofs.Matching
import TypedSteps.Proofs.Outcome

/-!
# What the values of a match are

The pattern that finds a text and the conversion that reads it belong to the same type.
So, for registries of plain words and with literal text escaped, the values of a match are
what the captured texts say, and only numbers and dates are ever refused.

* `ParameterType.Denotes`, `convert_of_admits` — the values of the texts of a type;
* `exists_slot_of_capture` — the captures go through the slots in rounds;
* `typed_extraction` — the values of a match, and what is refused.
-/

namespace TypedSteps

open Calendar (Zone)

/-- The value that a text of a type says. For a custom type it is what the transform makes of
the text, given the shared types at that moment. -/
def ParameterType.Denotes (zone : Zone) (shared : SharedTypes) (text : String) :
    ParameterType → Value → Prop
  | builtin b, value => b.Denotes zone text.toList value
  | custom t, value => value = ((t.transform text).run shared).1

/-- A text of a type is converted to the value it says, or it is refused by a built-in
type. -/
theorem convert_of_admits {type : ParameterType} {before after : List Char} {text : String}
    (h : type.Admits before text.toList after) (zone : Zone) (shared : SharedTypes) :
    (∃ value, (type.convert zone text shared).1 = .ok value ∧
      type.Denotes zone shared text value) ∨
    ∃ b reason, type = .builtin b ∧ (type.convert zone text shared).1 = .error reason ∧
      b.Refuses zone text.toList reason := by
  cases type with
  | custom t => exact .inl ⟨_, rfl, rfl⟩
  | builtin b =>
    have hShape : b.Shape text.toList := h.1
    have hConvert := convert_of_shape hShape zone
    rw [String.ofList_toList] at hConvert
    rcases hConvert with ⟨value, hValue, hDenotes⟩ | ⟨reason, hReason, hRefuses⟩
    · exact .inl ⟨value, hValue, hDenotes⟩
    · exact .inr ⟨b, reason, rfl, hReason, hRefuses⟩

section Plain

variable {r : Registry} {template text : String} {c : Capture}

/-- A capture belongs to the slot whose turn it is, and its text is one of the slot's type,
which also converts it. -/
theorem exists_slot_of_capture (hr : r.Plain) (hSize : template.utf8ByteSize < occurrenceBound)
    {j : Nat} (hc : ((templatePattern r.table template).captures text)[j]? = some c) :
    ∃ slot type before after,
      (slotsOf (pieces r.table template))[j % (slotsOf (pieces r.table template)).length]? =
        some slot ∧
      c.group = slot.group ∧ r.resolve? slot.name = some type ∧
      type.Admits before c.text.toList after ∧
      ∀ zone shared, convertCapture r zone c shared = type.convert zone c.text shared := by
  have hms := matchesFrom_allMatches (templateRegex r.table template) text.toList.toArray
  obtain ⟨blocks, rest, -, hBlocks, hCaptures, -⟩ :=
    instances_matchesFrom (fun s pattern h => captures_of_plain hr h) hms
  have hLengths : ∀ block ∈ blocks,
      block.2.length = (slotsOf (pieces r.table template)).length := by
    intro block hBlock
    obtain ⟨before, after, hFits⟩ := hBlocks block hBlock
    exact hFits.length
  have hCaptures : (templatePattern r.table template).captures text = _ := hCaptures
  rw [hCaptures] at hc
  -- the capture stands in one of the blocks, in the place of a slot
  obtain ⟨block, hBlock, slot, v, hSlot, hv, rfl⟩ := exists_of_getElem?_captures hLengths hc
  obtain ⟨before, after, hFits⟩ := hBlocks block hBlock
  obtain ⟨left, right, type, hResolve, hAdmits⟩ := hFits.admits hSlot hv
  refine ⟨slot, type, left, right, hSlot, rfl, hResolve, ?_, ?_⟩
  · rwa [String.toList_ofList]
  · intro zone shared
    obtain ⟨_, pattern, _, hPieces⟩ := exists_piece_of_mem_slotsOf (List.mem_of_getElem? hSlot)
    -- the group of the slot is split into its name and number again
    have hName : slot.name ≠ "" :=
      (hr.reachable.valid.identifiers _ (name_mem_of_resolve? hResolve)).ne_empty
    have hBound : slot.occurrence < occurrenceBound :=
      Nat.lt_of_le_of_lt (occurrence_le_byteLength hPieces) hSize
    rw [(slotAt_of_pieces hPieces).group]
    exact convertCapture_of_resolve? hName hBound hResolve zone _ shared

/-- **Values are typed.** For a template with keywords, of a registry of plain words that
escapes literal text: the values that a match yields are as many as the captures, which go
through the slots of the template in rounds, and each is what the captured text says, read
as a text of the type that its slot names. Where a captured text is refused, its slot names
a built-in type: that of numbers, if the number is too large, or that of dates. -/
theorem typed_extraction (hr : r.Plain) {settings : MatchSettings}
    (hEscape : r.escapes settings.escape = true) (hKeyword : r.HasKeyword template)
    (hSize : template.utf8ByteSize < occurrenceBound) (step : Step) (shared : SharedTypes) :
    ∃ compiled, r.compile settings.escape template = .ok compiled ∧
      compiled.slots = slotsOf (pieces r.table template) ∧ 0 < compiled.slots.length ∧
      (∀ values after, matchStep r settings step template shared = (.ok values, after) →
        values.length = (compiled.pattern.captures step.text).length ∧
        ∀ j value, values[j]? = some value →
          ∃ slot c type, compiled.slots[j % compiled.slots.length]? = some slot ∧
            (compiled.pattern.captures step.text)[j]? = some c ∧ c.group = slot.group ∧
            r.resolve? slot.name = some type ∧
            type.Denotes settings.zone (sharedAfter r settings.zone
              ((compiled.pattern.captures step.text).take j) shared) c.text value) ∧
      ∀ diagnostic group text reason after,
        matchStep r settings step template shared =
          (.error (.conversion diagnostic group text reason), after) →
        ∃ slot ∈ compiled.slots, ∃ b : Builtin, slot.group = group ∧ slot.name = b.name ∧
          r.resolve? slot.name = some (.builtin b) ∧
          b.Refuses settings.zone text.toList reason := by
  have hCompile := compile_of_plain hr hEscape template
  have hSlots := containsPlaceholder_iff.mp (hasPlaceholder_iff.mpr hKeyword)
  refine ⟨_, hCompile, rfl, List.length_pos_iff.mpr hSlots, ?_, ?_⟩
  · intro values after hMatch
    cases matchStep_eq_iff.mp hMatch with
    | plain hNone => exact absurd hKeyword hNone
    | @values compiled _ _ hCompiled _ _ hValues =>
      obtain rfl : _ = compiled := Except.ok.inj (hCompile.symm.trans hCompiled)
      obtain ⟨hLen, hEach⟩ := hValues
      refine ⟨hLen, ?_⟩
      intro j value hValue
      have hj : j < ((templatePattern r.table template).captures step.text).length := by
        rw [← hLen]
        exact (List.getElem?_eq_some_iff.mp hValue).1
      have hc := List.getElem?_eq_getElem hj
      -- the slot whose turn it is, and the type that made the value
      obtain ⟨slot, type, before, after, hSlot, hGroup, hResolve, hAdmits, hConvert⟩ :=
        exists_slot_of_capture hr hSize hc
      refine ⟨slot, _, type, hSlot, hc, hGroup, hResolve, ?_⟩
      have hok := hEach j _ value hc hValue
      rw [hConvert] at hok
      rcases convert_of_admits hAdmits settings.zone _ with
        ⟨value', hValue', hDenotes⟩ | ⟨b, reason, -, hReason, -⟩
      · -- the value is the one that the text denotes, for the conversion has only one result
        rw [hok, Except.ok.injEq] at hValue'
        rwa [hValue']
      · rw [hok] at hReason
        cases hReason
  · intro diagnostic group text reason after hMatch
    cases matchStep_eq_iff.mp hMatch with
    | @conversion compiled before after c _ _ hCompiled hCaptures _ hc =>
      obtain rfl : _ = compiled := Except.ok.inj (hCompile.symm.trans hCompiled)
      -- the capture that fails stands behind those that were converted
      have hat : ((templatePattern r.table template).captures step.text)[before.length]? =
          some c := by
        have hCaptures : (templatePattern r.table template).captures step.text = _ := hCaptures
        rw [hCaptures, List.getElem?_append_right (Nat.le_refl _), Nat.sub_self]
        rfl
      obtain ⟨slot, type, left, right, hSlot, hGroup, hResolve, hAdmits, hConvert⟩ :=
        exists_slot_of_capture hr hSize hat
      refine ⟨slot, List.mem_of_getElem? hSlot, ?_⟩
      have hError := hc shared
      rw [hConvert] at hError
      rcases convert_of_admits hAdmits settings.zone shared with
        ⟨value, hValue, -⟩ | ⟨b, reason', rfl, hReason, hRefuses⟩
      · rw [hError] at hValue
        cases hValue
      · rw [hError, Except.error.injEq] at hReason
        rw [hReason]
        refine ⟨b, hGroup.symm, ?_, hResolve, hRefuses⟩
        -- the built-in type that is found has the name of the slot
        have hName := resolve?_eq_find? r slot.name
        rw [hResolve] at hName
        have hFound := List.find?_some hName.symm
        exact (beq_iff_eq.mp hFound).symm

end Plain

/-- A text with two instances yields four values, and a number that is too large for its
slot is refused. -/
theorem typed_extraction_colored :
    colored.Plain ∧ colored.escapes false = true ∧ colored.HasKeyword "{color} ({number})" ∧
    "{color} ({number})".utf8ByteSize < occurrenceBound ∧ ∀ zone shared,
    (matchStep colored ⟨false, zone⟩ ⟨.given, "red (1), green (22)"⟩ "{color} ({number})" shared =
        (.ok [.string "red", .integer 1, .string "green", .integer 22], shared) ∧
      ∃ (type : ParameterType) (after : SharedTypes), type.Denotes zone after "22" (.integer 22)) ∧
    (matchStep colored ⟨false, zone⟩ ⟨.given, "red (9223372036854775808)"⟩ "{color} ({number})"
          shared = (.error (.conversion "Given red (9223372036854775808)" "number_1"
            "9223372036854775808" .integerOutOfRange), shared) ∧
      ∃ b : Builtin, b.Refuses zone "9223372036854775808".toList .integerOutOfRange) := by
  have hEscape (zone : Zone) : colored.escapes (MatchSettings.mk false zone).escape = true := rfl
  have hPlaceholder : colored.hasPlaceholder "{color} ({number})" = true := by decide +kernel
  have hKeyword := hasPlaceholder_iff.mp hPlaceholder
  have hSize : "{color} ({number})".utf8ByteSize < occurrenceBound := by decide +kernel
  have hCaptures : (templatePattern colored.table "{color} ({number})").captures
      "red (1), green (22)" =
        [⟨"color_1", "red"⟩, ⟨"number_1", "1"⟩, ⟨"color_1", "green"⟩, ⟨"number_1", "22"⟩] := by
    decide +kernel
  have hLarge : (templatePattern colored.table "{color} ({number})").captures
      "red (9223372036854775808)" =
        [⟨"color_1", "red"⟩, ⟨"number_1", "9223372036854775808"⟩] := by
    decide +kernel
  refine ⟨plain_colored, rfl, hKeyword, hSize, ?_⟩
  intro zone shared
  have hCompile := compile_of_plain plain_colored (hEscape zone) "{color} ({number})"
  have hValues : matchStep colored ⟨false, zone⟩ ⟨.given, "red (1), green (22)"⟩
      "{color} ({number})" shared =
        (.ok [.string "red", .integer 1, .string "green", .integer 22], shared) := by
    rw [matchStep_of_captures hKeyword hCompile (by rw [hCaptures]; simp), hCaptures]
    rfl
  have hError : matchStep colored ⟨false, zone⟩ ⟨.given, "red (9223372036854775808)"⟩
      "{color} ({number})" shared =
        (.error (.conversion "Given red (9223372036854775808)" "number_1"
          "9223372036854775808" .integerOutOfRange), shared) := by
    rw [matchStep_of_captures hKeyword hCompile (by rw [hLarge]; simp), hLarge]
    rfl
  refine ⟨⟨hValues, ?_⟩, hError, ?_⟩
  · obtain ⟨compiled, hCompiled, -, -, hok, -⟩ := typed_extraction plain_colored (hEscape zone)
      hKeyword hSize ⟨.given, "red (1), green (22)"⟩ shared
    obtain rfl : _ = compiled := Except.ok.inj (hCompile.symm.trans hCompiled)
    obtain ⟨-, hEach⟩ := hok _ _ hValues
    obtain ⟨slot, c, type, -, hc, -, -, hDenotes⟩ := hEach 3 (.integer 22) rfl
    have hc : ((templatePattern colored.table "{color} ({number})").captures
        "red (1), green (22)")[3]? = some c := hc
    rw [hCaptures] at hc
    cases hc
    exact ⟨type, _, hDenotes⟩
  · obtain ⟨compiled, -, -, -, -, hRefused⟩ := typed_extraction plain_colored (hEscape zone)
      hKeyword hSize ⟨.given, "red (9223372036854775808)"⟩ shared
    obtain ⟨slot, -, b, -, -, -, hRefuses⟩ := hRefused _ _ _ _ _ hError
    exact ⟨b, hRefuses⟩

end TypedSteps
