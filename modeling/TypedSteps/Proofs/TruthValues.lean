import TypedSteps.Proofs.Extraction
import TypedSteps.Proofs.Verbatim

/-!
# Truth values and letter case

A text that was captured for a truth value is `true` just when it is that very word, and
anything else is `false`. The pattern of truth values asks for the very words `true` and
`false`; but literal text that is taken as a pattern can make it ignore letter case, and then
`TRUE` is found and comes out as `false`.

* `SpellsTruth` — texts that spell a truth value, letter case aside;
* `convertCapture_of_truth_slot`, `word_of_truth_slot` — what is converted, and to what;
* `truth_values_follow_the_exact_word` — which values are what the captured texts spell;
* `shouted_truth_is_false` — a value that is not.
-/

namespace TypedSteps

open Calendar (Zone)

/-- A text spells a truth value, letter case aside. -/
def SpellsTruth (text : String) (b : Bool) : Prop :=
  Text.asciiLowercase text = toString b

instance (text : String) (b : Bool) : Decidable (SpellsTruth text b) :=
  inferInstanceAs (Decidable (_ = _))

/-- Every spelling of `false` is converted to it, and of those of `true` just the word itself. -/
theorem beq_true_eq_iff_of_spells {text : String} {b : Bool} (h : SpellsTruth text b) :
    (text == "true") = b ↔ (b = true → text = "true") := by
  cases b with
  | true => simp
  | false =>
    refine iff_of_true ?_ (fun hFalse => nomatch hFalse)
    rw [beq_eq_false_iff_ne]
    rintro rfl
    revert h
    decide

section Truth

variable {r : Registry} {template : String} {slot : Slot}

theorem slots_of_compile {configured : Bool} {compiled : CompiledTemplate}
    (h : r.compile configured template = .ok compiled) :
    compiled.slots = slotsOf (pieces r.table template) :=
  congrArg TemplateSource.slots (toTemplateSource_of_ofTemplate h)

theorem hasKeyword_of_mem_slots (h : slot ∈ slotsOf (pieces r.table template)) :
    r.HasKeyword template :=
  hasPlaceholder_iff.mp (containsPlaceholder_iff.mpr (List.ne_nil_of_mem h))

/-- What the group of a truth value captured is compared with one word, in every registry. -/
theorem convertCapture_of_truth_slot (hSize : template.utf8ByteSize < occurrenceBound)
    (hSlot : slot ∈ slotsOf (pieces r.table template)) (hName : slot.name = Builtin.boolean.name)
    {c : Capture} (hGroup : c.group = slot.group) (zone : Zone) (shared : SharedTypes) :
    convertCapture r zone c shared = (.ok (.boolean (c.text == "true")), shared) := by
  obtain ⟨_, pattern, _, hPieces⟩ := exists_piece_of_mem_slotsOf hSlot
  have hBound : slot.occurrence < occurrenceBound :=
    Nat.lt_of_le_of_lt (occurrence_le_byteLength hPieces) hSize
  obtain ⟨group, text⟩ := c
  obtain rfl : group = slot.group := hGroup
  rw [(slotAt_of_pieces hPieces).group, hName]
  exact convertCapture_of_resolve? (by decide) hBound (r.resolve?_builtin .boolean) zone text shared

/-- Where the literal text stands for itself the group of a truth value captures one of the two
words. -/
theorem word_of_truth_slot (hr : r.Plain) (hSize : template.utf8ByteSize < occurrenceBound)
    (hSlot : slot ∈ slotsOf (pieces r.table template)) (hName : slot.name = Builtin.boolean.name)
    {text : String} {j : Nat} {c : Capture}
    (hc : ((templatePattern r.table template).captures text)[j]? = some c)
    (hGroup : c.group = slot.group) : ∃ b : Bool, c.text = toString b := by
  obtain ⟨turn, type, before, after, hTurn, hGroup', hResolve, hAdmits, -⟩ :=
    exists_slot_of_capture hr hSize hc
  -- the slot whose turn it is has the same group, so it is one of truth values
  have hSame : turn.name = slot.name := by
    obtain ⟨_, _, _, hPieces⟩ := exists_piece_of_mem_slotsOf hSlot
    obtain ⟨_, _, _, hPieces'⟩ := exists_piece_of_mem_slotsOf (List.mem_of_getElem? hTurn)
    rw [hGroup, (slotAt_of_pieces hPieces).group, (slotAt_of_pieces hPieces').group] at hGroup'
    exact (groupName_inj hGroup').1.symm
  rw [hSame, hName, r.resolve?_builtin, Option.some.injEq] at hResolve
  subst hResolve
  have hShape : Builtin.boolean.Shape c.text.toList := hAdmits.1
  rcases hShape with hTrue | hFalse
  · exact ⟨true, String.toList_injective hTrue⟩
  · exact ⟨false, String.toList_injective hFalse⟩

end Truth

/-- **A truth value is `true` just when the very word was captured.** Take a registry without
custom types, in either mode, and a match that yields values. What the group of a truth value
captured is converted to `true` if it is the word `true` and to `false` otherwise. So the value
is the one that the text spells, letter case aside, unless it spells `true` in other letters than
small ones; and in a template whose literal text is escaped, or has no operators, the group
captures nothing but the two words, so the value is always the one that is spelled. -/
theorem truth_values_follow_the_exact_word {r : Registry} (hTypes : r.types = [])
    {settings : MatchSettings} {template : String}
    (hSize : template.utf8ByteSize < occurrenceBound) {compiled : CompiledTemplate}
    (hCompile : r.compile settings.escape template = .ok compiled) {step : Step}
    {shared after : SharedTypes} {values : List Value}
    (hMatch : matchStep r settings step template shared = (.ok values, after)) :
    ∀ slot ∈ compiled.slots, slot.name = Builtin.boolean.name → ∀ (j : Nat) (c : Capture),
      (compiled.pattern.captures step.text)[j]? = some c → c.group = slot.group →
      values[j]? = some (Value.boolean (c.text == "true")) ∧
      (∀ b, SpellsTruth c.text b →
        (values[j]? = some (Value.boolean b) ↔ (b = true → c.text = "true"))) ∧
      (r.escapes settings.escape = true ∨ r.OrdinaryText template →
        ∃ b : Bool, c.text = toString b ∧ values[j]? = some (Value.boolean b)) := by
  intro slot hSlot hName j c hc hGroup
  rw [slots_of_compile hCompile] at hSlot
  -- the value is that of the conversion, which compares the text with one word
  have hValue : values[j]? = some (Value.boolean (c.text == "true")) := by
    cases matchStep_eq_iff.mp hMatch with
    | plain hNone => exact absurd (hasKeyword_of_mem_slots hSlot) hNone
    | @values compiled' _ _ hCompiled _ _ hValues =>
      obtain rfl : compiled = compiled' := Except.ok.inj (hCompile.symm.trans hCompiled)
      obtain ⟨hLen, hEach⟩ := hValues
      have hj : j < values.length := by
        rw [hLen]
        exact (List.getElem?_eq_some_iff.mp hc).1
      have hat := List.getElem?_eq_getElem hj
      have hok := hEach j c values[j] hc hat
      rw [convertCapture_of_truth_slot hSize hSlot hName hGroup, Except.ok.injEq] at hok
      rw [hat, hok]
  refine ⟨hValue, ?_, ?_⟩
  · intro b hb
    rw [hValue, Option.some.injEq, Value.boolean.injEq]
    exact beq_true_eq_iff_of_spells hb
  · intro hLiteral
    have hPlain := plain_of_types_nil hTypes
    -- the compiled pattern is that of the template, for which the slots capture the two words only
    have hPattern : compiled.pattern = templatePattern r.table template := by
      rcases hLiteral with hEscape | hOrdinary
      · exact congrArg CompiledTemplate.pattern
          (Except.ok.inj (hCompile.symm.trans (compile_of_plain hPlain hEscape template)))
      · exact congrArg CompiledTemplate.pattern
          (Except.ok.inj (hCompile.symm.trans
            (compile_of_ordinary hPlain rfl hOrdinary settings.escape)))
    rw [hPattern] at hc
    obtain ⟨b, hb⟩ := word_of_truth_slot hPlain hSize hSlot hName hc hGroup
    refine ⟨b, hb, ?_⟩
    rw [hValue, hb]
    cases b <;> rfl

/-- Two truth values in a template that escapes its literal text. -/
theorem truth_values_follow_the_exact_word_negated :
    (Registry.empty.pin true).types = [] ∧
    "{boolean} (not {boolean})".utf8ByteSize < occurrenceBound ∧
    ∃ compiled, (Registry.empty.pin true).compile false "{boolean} (not {boolean})" =
        .ok compiled ∧
      ∀ zone shared,
        matchStep (Registry.empty.pin true) ⟨false, zone⟩ ⟨.given, "true (not false)"⟩
            "{boolean} (not {boolean})" shared = (.ok [.boolean true, .boolean false], shared) ∧
        ∃ b : Bool, "false" = toString b ∧
          [Value.boolean true, .boolean false][1]? = some (.boolean b) := by
  have hPlain : (Registry.empty.pin true).Plain := plain_of_types_nil rfl
  have hSize : "{boolean} (not {boolean})".utf8ByteSize < occurrenceBound := by decide +kernel
  have hEscape (zone : Zone) :
      (Registry.empty.pin true).escapes (MatchSettings.mk false zone).escape = true := rfl
  have hCaptures : (templatePattern (Registry.empty.pin true).table
      "{boolean} (not {boolean})").captures "true (not false)" =
        [⟨"boolean_1", "true"⟩, ⟨"boolean_2", "false"⟩] := by
    decide +kernel
  have hKeyword : (Registry.empty.pin true).HasKeyword "{boolean} (not {boolean})" :=
    hasPlaceholder_iff.mp (by decide +kernel)
  refine ⟨rfl, hSize, _, compile_of_plain hPlain (hEscape .utc) _, ?_⟩
  intro zone shared
  have hCompile := compile_of_plain hPlain (hEscape zone) "{boolean} (not {boolean})"
  have hMatch : matchStep (Registry.empty.pin true) ⟨false, zone⟩ ⟨.given, "true (not false)"⟩
      "{boolean} (not {boolean})" shared = (.ok [.boolean true, .boolean false], shared) := by
    rw [matchStep_of_captures hKeyword hCompile (by rw [hCaptures]; simp), hCaptures]
    rfl
  have hSlot : ⟨"boolean", 2, "boolean_2", 15⟩ ∈ (TemplateSource.ofTemplate
      (Registry.empty.pin true).table true "{boolean} (not {boolean})").slots := by
    decide +kernel
  refine ⟨hMatch, ?_⟩
  obtain ⟨-, -, hLiteral⟩ := truth_values_follow_the_exact_word rfl hSize hCompile hMatch _ hSlot
    rfl 1 ⟨"boolean_2", "false"⟩ (by rw [hCaptures]; rfl) rfl
  exact hLiteral (.inl rfl)

/-- A word that spells `true` in capital letters, where the literal text makes the pattern ignore
letter case, comes out as `false`. -/
theorem shouted_truth_is_false :
    SpellsTruth "TRUE" true ∧
    ∃ compiled, Registry.empty.compile false "(?i){boolean}" = .ok compiled ∧
      compiled.slots = [⟨"boolean", 1, "boolean_1", 4⟩] ∧
      compiled.pattern.captures "TRUE" = [⟨"boolean_1", "TRUE"⟩] ∧
      ∀ zone shared, matchStep .empty ⟨false, zone⟩ ⟨.given, "TRUE"⟩ "(?i){boolean}" shared =
        (.ok [.boolean false], shared) := by
  have hFound : (Registry.empty.compile false "(?i){boolean}").toOption.map
      (fun compiled => (compiled.slots, compiled.pattern.captures "TRUE")) =
        some ([⟨"boolean", 1, "boolean_1", 4⟩], [⟨"boolean_1", "TRUE"⟩]) := by
    decide +kernel
  have hKeyword : Registry.empty.HasKeyword "(?i){boolean}" :=
    hasPlaceholder_iff.mp (by decide +kernel)
  cases hCompile : Registry.empty.compile false "(?i){boolean}" with
  | error reason =>
    rw [hCompile] at hFound
    cases hFound
  | ok compiled =>
    rw [hCompile, Except.toOption, Option.map_some, Option.some.injEq, Prod.mk.injEq] at hFound
    obtain ⟨hSlots, hCaptures⟩ := hFound
    refine ⟨by decide, compiled, rfl, hSlots, hCaptures, ?_⟩
    intro zone shared
    have hCompile : Registry.empty.compile (MatchSettings.mk false zone).escape "(?i){boolean}" =
        .ok compiled := hCompile
    rw [matchStep_of_captures hKeyword hCompile (by rw [hCaptures]; simp), hCaptures]
    rfl

end TypedSteps
