import TypedSteps.Proofs.Agreement
import TypedSteps.Proofs.Template.Tables

/-!
# The order of registration

Registries that hold the same types do the same in whatever order the types were registered.
Names are looked up by the first entry that fits, but there is only one: names differ, and at
most one keyword stands at a place of a template.

* `resolve?_perm`, `find?_table_perm` — names and keywords are found in any order;
* `readAlike_of_perm` — templates are read alike;
* `SharedTypes.Alike`, `SharedTypes.Alike.run` — what transforms do to shared types in different
  orders;
* `registration_order_irrelevant` — resolving, compiling and matching.
-/

namespace TypedSteps

open Calendar (Zone)

-- ---------------------------------------------------------------------------
-- Looking up
-- ---------------------------------------------------------------------------

section Order

variable {r r' : Registry}

theorem table_perm (h : r.types.Perm r'.types) : r.table.Perm r'.table :=
  (h.map CustomType.parameter).append_left _

/-- At each place of a template the same entry is found. -/
theorem find?_table_perm (hr : r.Valid) (h : r.types.Perm r'.types) (cs : List Char) :
    r.table.find? (·.standsAt cs) = r'.table.find? (·.standsAt cs) := by
  refine find?_standsAt_perm (table_perm h) (fun p hp => hr.isIdentifier hp) ?_ cs
  rw [Registry.map_name_table]
  exact hr.nodup

/-- A name resolves to the same type. -/
theorem resolve?_perm (hr : r.Valid) (h : r.types.Perm r'.types) (name : String) :
    r.resolve? name = r'.resolve? name := by
  have hTypes : r.types.find? (·.name == name) = r'.types.find? (·.name == name) := by
    refine List.find?_eq_find?_of_perm h ?_
    rintro t ⟨ht, htName⟩ u ⟨hu, huName⟩
    have hNodup := hr.nodup
    rw [Registry.allNames, List.nodup_append] at hNodup
    rw [beq_iff_eq] at htName huName
    exact List.inj_on_of_nodup_map hNodup.2.1 ht hu (htName.trans huName.symm)
  rw [Registry.resolve?, Registry.resolve?, hTypes]

/-- The pieces of a template do not depend on the order of types. -/
theorem pieces_perm (hr : r.Valid) (h : r.types.Perm r'.types) (template : String) :
    pieces r.table template = pieces r'.table template :=
  pieces_congr fun rest _ => find?_table_perm hr h rest

/-- What a template is compiled to does not depend on the order of types. -/
theorem compile_perm (hr : r.Valid) (h : r.types.Perm r'.types) {configured configured' : Bool}
    (hEscape : r.escapes configured = r'.escapes configured') (template : String) :
    r.compile configured template = r'.compile configured' template := by
  rw [Registry.compile, Registry.compile, hEscape]
  exact compiledTemplate_congr (pieces_perm hr h template) _

/-- Registries with the same types read every template alike. -/
theorem readAlike_of_perm (hr : r.Valid) (h : r.types.Perm r'.types) {configured configured' : Bool}
    (hEscape : r.escapes configured = r'.escapes configured') (template : String) :
    ReadAlike r r' configured configured' template where
  keyword := containsPlaceholder_congr (pieces_perm hr h template)
  pattern := by rw [compile_perm hr h hEscape]
  owner := by
    intro compiled _ group _
    rw [ownerOf?, ownerOf?]
    cases splitGroupName? group.1 with
    | none => rfl
    | some parts => exact resolve?_perm hr h parts.1

/-- A registration is judged the same. -/
theorem refusal?_perm (h : r.types.Perm r'.types) (name pattern : String) :
    r.refusal? name pattern = r'.refusal? name pattern := by
  have hAny : r.types.any (·.name == name) = r'.types.any (·.name == name) := h.any_eq
  rw [Registry.refusal?, Registry.refusal?, hAny]

end Order

-- ---------------------------------------------------------------------------
-- Shared types in different orders
-- ---------------------------------------------------------------------------

/-- Shared types that differ in the order of the registered types at most. -/
structure SharedTypes.Alike (s s' : SharedTypes) : Prop where
  types : s.registry.types.Perm s'.registry.types
  nextIdentity : s.nextIdentity = s'.nextIdentity

namespace SharedTypes.Alike

variable {s s' : SharedTypes}

theorem create (h : s.Alike s') (content : String) :
    AgreeUpTo Alike (s.create content) (s'.create content) := by
  refine ⟨?_, h.types, ?_⟩
  · rw [SharedTypes.create, SharedTypes.create, h.nextIdentity]
  · show s.nextIdentity + 1 = s'.nextIdentity + 1
    rw [h.nextIdentity]

/-- A registration is accepted or refused alike. -/
theorem define (h : s.Alike s') (name pattern : String) (transform : Transform) :
    AgreeUpTo Alike (s.define name pattern transform) (s'.define name pattern transform) := by
  -- what is held against a type does not depend on the order of the others
  have hRefusal := refusal?_perm h.types name pattern
  rw [SharedTypes.define, SharedTypes.define, Registry.register, Registry.register, ← hRefusal]
  cases s.registry.refusal? name pattern with
  | some e => exact ⟨rfl, h⟩
  | none => exact ⟨rfl, h.types.append_right _, h.nextIdentity⟩

theorem reset (h : s.Alike s') : s.reset.Alike s'.reset :=
  ⟨.refl _, h.nextIdentity⟩

/-- An action yields the same value, and leaves shared types that differ in the order at
most. -/
theorem run (h : s.Alike s') (a : Action) : AgreeUpTo Alike (a.run s) (a.run s') := by
  induction a generalizing s s' with
  | yield value => exact ⟨rfl, h⟩
  | create content next ih =>
    obtain ⟨payload, next, next', hCreate, hCreate', hNext⟩ := (h.create content).exists_eq
    rw [Action.run, Action.run, hCreate, hCreate']
    exact ih payload hNext
  | define name pattern transform next _ ih =>
    obtain ⟨failure, next, next', hDefine, hDefine', hNext⟩ :=
      (h.define name pattern transform).exists_eq
    rw [Action.run, Action.run, hDefine, hDefine']
    exact ih failure hNext
  | reset next ih => exact ih h.reset

/-- A capture is converted alike. -/
theorem convertCapture (h : s.Alike s') (r : Registry) (zone : Zone) (c : Capture) :
    AgreeUpTo Alike (TypedSteps.convertCapture r zone c s)
      (TypedSteps.convertCapture r zone c s') := by
  obtain ⟨type, -, hConvert⟩ := exists_owns r zone c
  rw [hConvert, hConvert]
  cases type with
  | builtin b => exact ⟨rfl, h⟩
  | custom t =>
    obtain ⟨value, after, after', hRun, hRun', hAfter⟩ := (h.run (t.transform c.text)).exists_eq
    rw [ParameterType.convert, ParameterType.convert, hRun, hRun']
    exact ⟨rfl, hAfter⟩

end SharedTypes.Alike

-- ---------------------------------------------------------------------------
-- The result
-- ---------------------------------------------------------------------------

/-- **The order of registration does not matter.** Take a registry and another one with the same
types in another order, and the same choice whether literal text is escaped. Every name resolves
to the same type; every template has keywords for both or for neither, the same source and slots,
and is compiled to the same pattern or refused for the same reason; and matching a step yields the
same result. The last holds for any transforms where the shared types are the same up to their
order, which the match preserves, and whatever the shared types are where transforms are functions
of the captured text. -/
theorem registration_order_irrelevant {r r' : Registry} (hr : r.Reachable)
    (hTypes : r.types.Perm r'.types) {configured configured' : Bool}
    (hEscape : r.escapes configured = r'.escapes configured') :
    (∀ name, r.resolve? name = r'.resolve? name) ∧
    (∀ template, r.hasPlaceholder template = r'.hasPlaceholder template ∧
      (∀ escape, TemplateSource.ofTemplate r.table escape template =
        TemplateSource.ofTemplate r'.table escape template) ∧
      r.compile configured template = r'.compile configured' template) ∧
    ∀ zone step template shared shared',
      (shared.Alike shared' → AgreeUpTo SharedTypes.Alike
        (matchStep r ⟨configured, zone⟩ step template shared)
        (matchStep r' ⟨configured', zone⟩ step template shared')) ∧
      (r.Pure →
        (matchStep r ⟨configured, zone⟩ step template shared).1 =
          (matchStep r' ⟨configured', zone⟩ step template shared').1) := by
  have hValid := hr.valid
  refine ⟨resolve?_perm hValid hTypes, fun template => ⟨?_, ?_, ?_⟩, ?_⟩
  · exact (readAlike_of_perm hValid hTypes hEscape template).keyword
  · exact ofTemplate_congr (pieces_perm hValid hTypes template)
  · exact compile_perm hValid hTypes hEscape template
  · intro zone step template shared shared'
    have hAlike := readAlike_of_perm hValid hTypes hEscape template
    refine ⟨fun hShared => ?_, fun hPure => ?_⟩
    · exact hAlike.matchStep_agree (fun c s s' h => h.convertCapture r zone c) step hShared
    · exact (hAlike.matchStep_pure hPure zone step shared shared').1

/-- The types of `underscored`, registered in the reverse order. -/
def reordered : Registry :=
  { types := [⟨"a_1_1", "z", .text⟩, ⟨"a_1", "y", .text⟩, ⟨"a", "x", .text⟩] }

/-- Two orders of types with names that are the beginnings of one another. -/
theorem registration_order_irrelevant_underscored :
    underscored.Reachable ∧ underscored.types.Perm reordered.types ∧
    underscored.escapes true = reordered.escapes true ∧
    SharedTypes.Alike { registry := underscored } { registry := reordered } ∧ underscored.Pure ∧
    underscored.resolve? "a_1" = reordered.resolve? "a_1" ∧
    ∀ zone,
      AgreeUpTo SharedTypes.Alike
        (matchStep underscored ⟨true, zone⟩ ⟨.given, "zyx"⟩ "{a_1_1}{a_1}{a}"
          { registry := underscored })
        (matchStep reordered ⟨true, zone⟩ ⟨.given, "zyx"⟩ "{a_1_1}{a_1}{a}"
          { registry := reordered }) ∧
      ∀ shared shared',
        (matchStep underscored ⟨true, zone⟩ ⟨.given, "zyx"⟩ "{a_1_1}{a_1}{a}" shared).1 =
          (matchStep reordered ⟨true, zone⟩ ⟨.given, "zyx"⟩ "{a_1_1}{a_1}{a}" shared').1 := by
  have hPerm : underscored.types.Perm reordered.types := (List.reverse_perm _).symm
  have hEscape : underscored.escapes true = reordered.escapes true := rfl
  have hAlike : SharedTypes.Alike { registry := underscored } { registry := reordered } :=
    ⟨hPerm, rfl⟩
  have hPure : underscored.Pure := by
    intro t ht text
    simp only [underscored, List.mem_cons, List.not_mem_nil, or_false] at ht
    rcases ht with rfl | rfl | rfl <;> exact ⟨.string text, rfl⟩
  obtain ⟨hResolve, -, hMatch⟩ :=
    registration_order_irrelevant reachable_underscored hPerm hEscape
  refine ⟨reachable_underscored, hPerm, hEscape, hAlike, hPure, hResolve "a_1", fun zone => ?_⟩
  constructor
  · exact (hMatch zone _ _ _ _).1 hAlike
  · intro shared shared'
    exact (hMatch zone _ _ shared shared').2 hPure

end TypedSteps
