import TypedSteps.Proofs.Builtin.Shapes
import TypedSteps.Proofs.Registry.Ownership
import TypedSteps.Proofs.Template.Instances

/-!
# Registries of plain words

A registry whose custom patterns are alternatives of plain words knows a language for
every name: that of a built-in type, or the words of a custom one. Its templates with
escaped literal text can always be compiled, and their slots capture these languages.

* `Registry.Plain` — registries whose custom patterns are plain words;
* `ParameterType.Admits`, `Registry.language` — what a type stands for;
* `captures_of_plain` — the patterns of slots match the languages of their names;
* `ofTemplate_of_readsLiterally`, `compile_of_plain` — templates are compiled to the pattern of
  their pieces, all of them where literal text is escaped.
-/

namespace TypedSteps

/-- A registry that came about by registering, clearing and pinning, and whose custom types
have patterns of plain words. -/
structure Registry.Plain (r : Registry) : Prop where
  reachable : r.Reachable
  words : ∀ t ∈ r.types, PlainPattern t.pattern

/-- A registry without custom types is one of plain words. -/
theorem plain_of_types_nil {r : Registry} (h : r.types = []) : r.Plain := by
  obtain ⟨types, pinned⟩ := r
  obtain rfl : types = [] := h
  refine ⟨?_, fun t ht => nomatch ht⟩
  cases pinned with
  | none => exact .empty
  | some escape => exact .pin .empty escape

/-- A registry with one type of two words that escapes literal text. -/
def colored : Registry :=
  { types := [⟨"color", "red|green", .text⟩], pinned := some true }

theorem plain_colored : colored.Plain := by
  have hRegister : Registry.empty.register "color" "red|green" .text =
      .ok { types := [⟨"color", "red|green", .text⟩] } := rfl
  refine ⟨.pin (.register .empty hRegister) true, ?_⟩
  intro t ht
  rw [List.mem_singleton.mp ht]
  have hWords : PlainPattern "red|green" := by decide +kernel
  exact hWords

/-- Whether a text may stand for a type between two others. A custom type stands for the
words between the bars of its pattern. -/
def ParameterType.Admits : ParameterType → SlotLanguage
  | builtin b, before, v, after => b.Admits before v after
  | custom t, _, v, _ => v ∈ Text.splitAt '|' t.pattern.toList

/-- The texts that the type with a name stands for. -/
def Registry.language (r : Registry) (name : String) : SlotLanguage :=
  fun before v after => ∃ type, r.resolve? name = some type ∧ type.Admits before v after

section Plain

variable {r : Registry} {template : String} {s : Slot} {pattern : String}

/-- A slot has the pattern of the type that its name resolves to. -/
theorem resolve?_of_mem_pieces (h : .slot s pattern ∈ pieces r.table template) :
    s.group = groupName s.name s.occurrence ∧
      ∃ type, r.resolve? s.name = some type ∧ type.parameter = ⟨s.name, pattern⟩ := by
  obtain ⟨before, after, hSplit⟩ := List.append_of_mem h
  have hSlot := slotAt_of_pieces hSplit
  exact ⟨hSlot.group, resolve?_of_slotAt hSlot⟩

/-- The slots of a template can be read. -/
theorem readable_of_plain (hr : r.Plain) (h : .slot s pattern ∈ pieces r.table template) :
    Readable s pattern := by
  obtain ⟨hGroup, type, hResolve, hParameter⟩ := resolve?_of_mem_pieces h
  have hName : IsIdentifier s.name :=
    hr.reachable.valid.identifiers _ (name_mem_of_resolve? hResolve)
  have hPattern : type.parameter.pattern = pattern := by rw [hParameter]
  refine ⟨hGroup, hName, ?_⟩
  rw [← hPattern]
  cases type with
  | builtin b => exact embeds_builtin b
  | custom t => exact (hr.words t (mem_types_of_resolve? hResolve)).embeds

/-- The pattern of a slot matches the language of its name. -/
theorem captures_of_plain (hr : r.Plain) (h : .slot s pattern ∈ pieces r.table template) :
    Captures (r.language s.name) pattern := by
  obtain ⟨-, type, hResolve, hParameter⟩ := resolve?_of_mem_pieces h
  have hPattern : type.parameter.pattern = pattern := by rw [hParameter]
  have hLanguage (before v after : List Char) :
      r.language s.name before v after ↔ type.Admits before v after := by
    constructor
    · rintro ⟨type', hResolve', hAdmits⟩
      rw [hResolve, Option.some.injEq] at hResolve'
      rwa [hResolve']
    · intro hAdmits
      exact ⟨type, hResolve, hAdmits⟩
  intro text i j w
  simp only [hLanguage]
  rw [← hPattern]
  cases type with
  | builtin b =>
    show (bodyLevel b.pattern).close.regex.meaning text i j w ↔ _
    rw [regex_bodyLevel]
    exact meaning_builtin b
  | custom t =>
    exact spells_words text (hr.words t (mem_types_of_resolve? hResolve)) i j w

/-- A template of a plain registry whose literal text is read as it stands is compiled to the
pattern of its pieces. -/
theorem ofTemplate_of_readsLiterally (hr : r.Plain) {escape : Bool}
    (hLiterals : ∀ cs, .literal cs ∈ pieces r.table template → ReadsLiterally escape cs) :
    CompiledTemplate.ofTemplate r.table escape template =
      .ok { TemplateSource.ofTemplate r.table escape template with
        pattern := templatePattern r.table template } :=
  ofTemplate_eq_ok hLiterals fun _ _ h => readable_of_plain hr h

/-- Every template of a plain registry that escapes literal text is compiled to the pattern
of its pieces. -/
theorem compile_of_plain (hr : r.Plain) {configured : Bool}
    (hEscape : r.escapes configured = true) (template : String) :
    r.compile configured template =
      .ok { TemplateSource.ofTemplate r.table true template with
        pattern := templatePattern r.table template } := by
  rw [Registry.compile, hEscape]
  exact ofTemplate_of_readsLiterally hr fun _ _ => .inl rfl

end Plain

end TypedSteps
