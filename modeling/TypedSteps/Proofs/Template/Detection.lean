import TypedSteps.Proofs.Registry.Plain
import TypedSteps.Proofs.Template.Slots

/-!
# Three ways to tell that a template has keywords

Whether a step is compared with a pattern at all is settled by cutting the template into tokens,
the slots of the pattern come from its pieces, and a reader would look for keywords in the text.
All three agree for every table, even where the name of an entry holds braces, so that one keyword
contains another: what is skipped behind a keyword can hide keywords, but not the first.

* `hasPlaceholders_of_ofTemplate` — what a compiled template knows of its slots;
* `detection_agrees` — tokens, slots and text agree.
-/

namespace TypedSteps

/-- A compiled template has slots just where keywords are found in it. -/
theorem hasPlaceholders_of_ofTemplate {table : List Parameter} {escape : Bool} {template : String}
    {compiled : CompiledTemplate}
    (h : CompiledTemplate.ofTemplate table escape template = .ok compiled) :
    compiled.hasPlaceholders = containsPlaceholder table template := by
  have hSlots : compiled.slots = slotsOf (pieces table template) :=
    congrArg TemplateSource.slots (toTemplateSource_of_ofTemplate h)
  rw [CompiledTemplate.hasPlaceholders, hSlots, Bool.eq_iff_iff, containsPlaceholder_iff,
    Bool.not_eq_true', List.isEmpty_eq_false_iff]

/-- **The ways to tell that a template has keywords agree.** For every table and every template: a
keyword is found just where the keyword of an entry occurs in the text of the template, and just
where its source has a slot, whether literal text is escaped or not. So for every registry that
can compile the template, the test that decides whether a step is compared with a pattern says
what the compiled template says of itself. -/
theorem detection_agrees (table : List Parameter) (escape : Bool) (template : String) :
    (containsPlaceholder table template = true ↔
      ∃ p ∈ table, keywordCharacters p.name.toList <:+: template.toList) ∧
    (containsPlaceholder table template = true ↔
      (TemplateSource.ofTemplate table escape template).slots ≠ []) ∧
    ∀ (r : Registry) (configured : Bool) (compiled : CompiledTemplate),
      r.compile configured template = .ok compiled →
        r.hasPlaceholder template = compiled.hasPlaceholders := by
  refine ⟨any_isPlaceholder_tokensFrom_iff, containsPlaceholder_iff, ?_⟩
  intro r configured compiled hCompile
  exact (hasPlaceholders_of_ofTemplate hCompile).symm

/-- A keyword whose name holds braces hides the one inside it, and is found itself. -/
theorem detection_agrees_nested :
    containsPlaceholder [⟨"b", "y"⟩, ⟨"a\x7d\x7bb", "x"⟩] "{a}{b}" = true ∧
    keywordCharacters "b".toList <:+: "{a}{b}".toList ∧
    (TemplateSource.ofTemplate [⟨"b", "y"⟩, ⟨"a\x7d\x7bb", "x"⟩] false "{a}{b}").slots.map
      (·.name) = ["a\x7d\x7bb"] ∧
    ∃ compiled, colored.compile false "is {color}" = .ok compiled ∧
      compiled.hasPlaceholders = true := by
  have hInfix : keywordCharacters "b".toList <:+: "{a}{b}".toList :=
    ⟨"{a}".toList, [], by decide⟩
  obtain ⟨hFound, -, -⟩ := detection_agrees [⟨"b", "y"⟩, ⟨"a\x7d\x7bb", "x"⟩] false "{a}{b}"
  obtain ⟨-, -, hCompiled⟩ := detection_agrees colored.table false "is {color}"
  have hEscape : colored.escapes false = true := rfl
  have hCompile := compile_of_plain plain_colored hEscape "is {color}"
  have hKeyword : colored.hasPlaceholder "is {color}" = true := by decide +kernel
  refine ⟨hFound.mpr ⟨⟨"b", "y"⟩, List.mem_cons_self, hInfix⟩, hInfix, by decide +kernel, _,
    hCompile, ?_⟩
  rw [← hCompiled colored false _ hCompile, hKeyword]

end TypedSteps
