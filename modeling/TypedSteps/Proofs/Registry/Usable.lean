import TypedSteps.Registry.Transforms
import TypedSteps.Proofs.Registry.Ownership
import TypedSteps.Proofs.Template.Copies

/-!
# Types that can be used

A registration is accepted when the pattern can be read on its own. In a template the pattern
stands inside two groups, and once for every keyword. So there are accepted types that no
template can use, or none more than once: what is wanted of a pattern is that a parenthesis
behind it is one too many, that it names no groups, and that it can stand three levels deeper.

* `compile_copies_iff` — the pattern of a template that is made of copies of a keyword;
* `usable_iff` — the accepted types that can be used any number of times;
* `accepted_unusable` — accepted types that cannot.
-/

namespace TypedSteps

/-- The reason for which a text is no pattern. -/
def syntaxError? (source : String) : Option SyntaxError :=
  match Regex.read source.toList with
  | .ok _ => none
  | .error e => some e

theorem compile_of_syntaxError? {r : Registry} {configured : Bool} {template : String}
    {e : SyntaxError}
    (h : syntaxError? (TemplateSource.ofTemplate r.table (r.escapes configured) template).source =
      some e) : r.compile configured template = .error e := by
  rw [syntaxError?] at h
  rw [Registry.compile, CompiledTemplate.ofTemplate, Pattern.ofSource]
  cases hRead : Regex.read
      (TemplateSource.ofTemplate r.table (r.escapes configured) template).source.toList with
  | ok found =>
    rw [hRead] at h
    cases h
  | error reason =>
    rw [hRead] at h
    cases h
    rfl

section Usable

variable {r r' : Registry} {name pattern : String} {transform : Transform} {configured : Bool}

/-- Copies of a keyword are compiled where the occurrences of the type's pattern can be read. -/
theorem compile_copies_iff (hr : r.Valid) {t : CustomType} (ht : t ∈ r.types)
    (hEscape : r.escapes configured = true) (count : Nat) :
    (∃ compiled, r.compile configured (copies t.name count) = .ok compiled) ↔
      ∃ p, Pattern.ofSource (fragments t.name t.pattern 1 count) = .ok p := by
  have hEntry : r.table.find? (·.name == t.name) = some ⟨t.name, t.pattern⟩ := by
    rw [← resolve?_eq_find?, resolve?_of_mem_types hr ht]
    rfl
  have hNames : ∀ p ∈ r.table, IsIdentifier p.name := fun p hp => hr.isIdentifier hp
  rw [Registry.compile, hEscape, CompiledTemplate.ofTemplate, source_copies hNames hEntry]
  cases Pattern.ofSource (fragments t.name t.pattern 1 count) with
  | ok p => exact ⟨fun _ => ⟨p, rfl⟩, fun _ => ⟨_, rfl⟩⟩
  | error e => simp

/-- **Which accepted types can be used any number of times.** A type that was accepted can
stand in a template any number of times just when its pattern is no pattern any more with a
closing parenthesis behind it, which it still is if it ends in a comment, when it has no named
groups, and when it nests at least three levels less deeply than patterns may. -/
theorem usable_iff (hr : r.Reachable) (hRegister : r.register name pattern transform = .ok r')
    (hEscape : r.escapes configured = true) :
    (∀ count, 1 ≤ count →
        ∃ compiled, r'.compile configured (copies name count) = .ok compiled) ↔
      (∀ p, Pattern.ofSource (pattern ++ ")") ≠ .ok p) ∧
      (∀ p, Pattern.ofSource pattern = .ok p → p.namedGroups = []) ∧
      (bodyLevel pattern).close.depth + 3 ≤ nestLimit := by
  rcases register_cases r name pattern transform with ⟨hVerdict, hok⟩ | ⟨e, -, hError⟩
  · rw [hok, Except.ok.injEq] at hRegister
    obtain ⟨-, -, hName, p, hp⟩ := verdict_none_iff.mp hVerdict
    obtain ⟨st, hst, hRead⟩ := ofSource_eq_ok_iff.mp hp
    have hValid : r'.Valid :=
      hr.valid.concat (t := ⟨name, pattern, transform⟩) hVerdict (by rw [← hRegister])
    have hMem : ⟨name, pattern, transform⟩ ∈ r'.types := by
      rw [← hRegister]
      exact List.mem_append_right _ List.mem_cons_self
    have hEscape' : r'.escapes configured = true := by
      rw [← hRegister]
      exact hEscape
    have hNames : (∀ q, Pattern.ofSource pattern = .ok q → q.namedGroups = []) ↔
        ∀ own, some own ∉ st.names := by
      rw [hp]
      simp only [Except.ok.injEq, forall_eq', namedGroups_eq_nil_iff, hRead, List.mem_reverse]
    have hBody : bodyLevel pattern = st.level := by
      rw [bodyLevel, hst.run]
    simp only [compile_copies_iff hValid hMem hEscape', readable_fragments_iff hst hName, hNames,
      hBody, opensComment_iff hst, not_exists, ne_eq]
  · rw [hError] at hRegister
    cases hRegister

end Usable

/-- Two words can be used any number of times. -/
theorem usable_iff_colored :
    (Registry.empty.pin true).Reachable ∧ (Registry.empty.pin true).escapes false = true ∧
    ∃ r', (Registry.empty.pin true).register "color" "red|green" .text = .ok r' ∧
      ∀ count, 1 ≤ count → ∃ compiled, r'.compile false (copies "color" count) = .ok compiled := by
  have hReachable : (Registry.empty.pin true).Reachable := .pin .empty true
  have hRegister : (Registry.empty.pin true).register "color" "red|green" .text =
      .ok { types := [⟨"color", "red|green", .text⟩], pinned := some true } := rfl
  refine ⟨hReachable, rfl, _, hRegister, (usable_iff hReachable hRegister rfl).mpr ⟨?_, ?_, ?_⟩⟩
  · have hClosed : Pattern.ofSource ("red|green" ++ ")") = .error .unopenedGroup := rfl
    rw [hClosed]
    intro p hp
    cases hp
  · intro p hp
    cases hp
    rfl
  · have hDepth : (bodyLevel "red|green").close.depth = 2 := by decide +kernel
    rw [hDepth]
    decide

/-- Two types that are accepted and cannot be used: one names a group, so that a template cannot
ask for it twice, and one ends in a comment, so that no template can ask for it at all. -/
theorem accepted_unusable :
    (∃ r', (Registry.empty.pin true).register "a" "(?P<w>x)" .text = .ok r' ∧
      r'.compile false "{a} {a}" = .error .duplicateGroupName) ∧
    ∃ r', (Registry.empty.pin true).register "a" "(?x)a#" .text = .ok r' ∧
      r'.compile false "{a}" = .error .unclosedGroup := by
  have hNamed : (Registry.empty.pin true).register "a" "(?P<w>x)" .text =
      .ok { types := [⟨"a", "(?P<w>x)", .text⟩], pinned := some true } := rfl
  have hCommented : (Registry.empty.pin true).register "a" "(?x)a#" .text =
      .ok { types := [⟨"a", "(?x)a#", .text⟩], pinned := some true } := rfl
  refine ⟨⟨_, hNamed, compile_of_syntaxError? ?_⟩, _, hCommented, compile_of_syntaxError? ?_⟩
  · decide +kernel
  · decide +kernel

end TypedSteps
