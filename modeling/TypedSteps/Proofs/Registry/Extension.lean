import TypedSteps.Proofs.Agreement
import TypedSteps.Proofs.Registry.Plain
import TypedSteps.Proofs.Template.Tables

/-!
# Registries with one more type

A type that is registered stands at the end of the table, so it is found only where its own
keyword stands and under its own name only. A template without its keyword is read as before;
and unless the pattern of the template has a group that is named after the new type, every
step is matched as before.

* `resolve?_register` — other names resolve as before;
* `pieces_register`, `compile_register` — templates without the new keyword;
* `unrelated_type_changes_nothing` — registries with and without the new type.
-/

namespace TypedSteps

open Calendar (Zone)

section Extension

variable {r r' : Registry} {name pattern : String} {transform : Transform} {template : String}

theorem table_register (h : r.register name pattern transform = .ok r') :
    r'.table = r.table ++ [⟨name, pattern⟩] := by
  rw [Registry.table, Registry.table, Registry.types_register h, List.map_append,
    List.append_assoc]
  rfl

/-- Registering does not touch the choice whether literal text is escaped. -/
theorem escapes_register (h : r.register name pattern transform = .ok r') (configured : Bool) :
    r'.escapes configured = r.escapes configured := by
  rcases register_cases r name pattern transform with ⟨-, hok⟩ | ⟨e, -, hError⟩
  · rw [hok, Except.ok.injEq] at h
    rw [← h]
    rfl
  · rw [hError] at h
    cases h

/-- Every other name resolves as before. -/
theorem resolve?_register (h : r.register name pattern transform = .ok r') {other : String}
    (hne : other ≠ name) : r'.resolve? other = r.resolve? other := by
  have hTypes : r'.types.find? (·.name == other) = r.types.find? (·.name == other) := by
    rw [Registry.types_register h]
    exact find?_concat_of_neg r.types (beq_false_of_ne hne.symm)
  rw [Registry.resolve?, Registry.resolve?, hTypes]

/-- Where the new keyword does not stand, a template has the pieces it had. -/
theorem pieces_register (h : r.register name pattern transform = .ok r')
    (hUnrelated : ¬ keywordCharacters name.toList <:+: template.toList) :
    pieces r'.table template = pieces r.table template := by
  refine pieces_congr fun rest hRest => ?_
  rw [table_register h]
  refine find?_concat_of_neg r.table (Bool.eq_false_iff.mpr fun hStands => hUnrelated ?_)
  exact List.IsInfix.trans (standsAt_iff.mp hStands).isInfix hRest.isInfix

theorem compile_register (h : r.register name pattern transform = .ok r')
    (hUnrelated : ¬ keywordCharacters name.toList <:+: template.toList) (configured : Bool) :
    r'.compile configured template = r.compile configured template := by
  rw [Registry.compile, Registry.compile, escapes_register h]
  exact compiledTemplate_congr (pieces_register h hUnrelated) _

/-- A group that is not named after the new type has the owner it had. -/
theorem ownerOf?_register (h : r.register name pattern transform = .ok r') {group : String}
    (hGroup : ∀ n, splitGroupName? group ≠ some (name, n)) :
    ownerOf? r' group = ownerOf? r group := by
  rw [ownerOf?, ownerOf?]
  cases hSplit : splitGroupName? group with
  | none => rfl
  | some parts =>
    obtain ⟨other, n⟩ := parts
    refine resolve?_register h ?_
    rintro rfl
    exact hGroup n hSplit

/-- **An unrelated type changes nothing.** For a registry, the registry after an accepted
registration, and a template in which the keyword of the new type does not stand: the template
has keywords for both or for neither, the same source and slots, and is compiled to the same
pattern or refused for the same reason. If moreover no group of the pattern is named after the
new type, every step is matched alike: with the same result and the same shared types, and with
the same result whatever the shared types where transforms are functions of the captured
text. -/
theorem unrelated_type_changes_nothing (hRegister : r.register name pattern transform = .ok r')
    (hUnrelated : ¬ keywordCharacters name.toList <:+: template.toList) :
    r'.hasPlaceholder template = r.hasPlaceholder template ∧
    (∀ escape, TemplateSource.ofTemplate r'.table escape template =
      TemplateSource.ofTemplate r.table escape template) ∧
    (∀ configured, r'.compile configured template = r.compile configured template) ∧
    ∀ configured,
      (∀ compiled, r.compile configured template = .ok compiled →
        ∀ group ∈ compiled.pattern.namedGroups, ∀ n,
          splitGroupName? group.1 ≠ some (name, n)) →
      ∀ zone step,
        (∀ shared, matchStep r' ⟨configured, zone⟩ step template shared =
          matchStep r ⟨configured, zone⟩ step template shared) ∧
        (r.Pure → ∀ shared shared',
          (matchStep r' ⟨configured, zone⟩ step template shared').1 =
            (matchStep r ⟨configured, zone⟩ step template shared).1) := by
  have hPieces := pieces_register hRegister hUnrelated
  have hKeyword : r'.hasPlaceholder template = r.hasPlaceholder template :=
    containsPlaceholder_congr hPieces
  have hCompile := compile_register hRegister hUnrelated
  refine ⟨hKeyword, ofTemplate_congr hPieces, hCompile, ?_⟩
  intro configured hGroups zone step
  have hAlike : ReadAlike r r' configured configured template := by
    refine ⟨hKeyword.symm, ?_, ?_⟩
    · rw [hCompile]
    · intro compiled hok group hGroup
      exact (ownerOf?_register hRegister (hGroups compiled hok group hGroup)).symm
  refine ⟨fun shared => ?_, fun hPure shared shared' => ?_⟩
  · exact (hAlike.matchStep_eq zone step shared).symm
  · exact (hAlike.matchStep_pure hPure zone step shared shared').1.symm

end Extension

/-- A type whose name begins like the one in the template, with an opened keyword besides. -/
theorem unrelated_type_changes_nothing_colored :
    ∃ r', colored.register "col" "x" .length = .ok r' ∧
    ¬ keywordCharacters "col".toList <:+: "{color} \x7bcol".toList ∧
    (∀ compiled, colored.compile false "{color} \x7bcol" = .ok compiled →
      ∀ group ∈ compiled.pattern.namedGroups, ∀ n, splitGroupName? group.1 ≠ some ("col", n)) ∧
    colored.Pure ∧
    r'.compile false "{color} \x7bcol" = colored.compile false "{color} \x7bcol" ∧
    ∀ zone step,
      (∀ shared, matchStep r' ⟨false, zone⟩ step "{color} \x7bcol" shared =
        matchStep colored ⟨false, zone⟩ step "{color} \x7bcol" shared) ∧
      ∀ shared shared', (matchStep r' ⟨false, zone⟩ step "{color} \x7bcol" shared').1 =
        (matchStep colored ⟨false, zone⟩ step "{color} \x7bcol" shared).1 := by
  have hRegister : colored.register "col" "x" .length = .ok
      { colored with types := [⟨"color", "red|green", .text⟩, ⟨"col", "x", .length⟩] } := rfl
  have hUnrelated : ¬ keywordCharacters "col".toList <:+: "{color} \x7bcol".toList := by
    decide +kernel
  have hEscape : colored.escapes false = true := rfl
  have hGroups : ∀ compiled, colored.compile false "{color} \x7bcol" = .ok compiled →
      ∀ group ∈ compiled.pattern.namedGroups, ∀ n, splitGroupName? group.1 ≠ some ("col", n) := by
    intro compiled hok group hGroup n hSplit
    rw [compile_of_plain plain_colored hEscape, Except.ok.injEq] at hok
    have hNamed :
        (templatePattern colored.table "{color} \x7bcol").namedGroups = [("color_1", 1)] := by
      decide +kernel
    rw [← hok] at hGroup
    rw [hNamed, List.mem_singleton] at hGroup
    have hColor : splitGroupName? "color_1" = some ("color", 1) := by decide +kernel
    rw [hGroup, hColor] at hSplit
    exact absurd (Prod.mk.inj (Option.some.inj hSplit)).1 (by decide)
  have hPure : colored.Pure := by
    intro t ht text
    rw [List.mem_singleton.mp ht]
    exact ⟨.string text, rfl⟩
  obtain ⟨-, -, hCompile, hMatch⟩ := unrelated_type_changes_nothing hRegister hUnrelated
  refine ⟨_, hRegister, hUnrelated, hGroups, hPure, hCompile false, fun zone step => ?_⟩
  obtain ⟨hSame, hFunctions⟩ := hMatch false hGroups zone step
  exact ⟨hSame, hFunctions hPure⟩

/-- A group that the template names itself is taken over by a type of that name. -/
example :
    ((matchStep .empty ⟨false, .utc⟩ ⟨.given, "7a"⟩ "(?P<n_1>[0-9]){char}" {}).1.toOption.map
      (·.map Value.integer?) = some [none, none]) ∧
    ((matchStep { types := [⟨"n", "x", .length⟩] } ⟨false, .utc⟩ ⟨.given, "7a"⟩
      "(?P<n_1>[0-9]){char}" {}).1.toOption.map (·.map Value.integer?) = some [some 1, none]) := by
  decide +kernel

end TypedSteps
