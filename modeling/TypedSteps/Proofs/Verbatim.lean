import TypedSteps.Proofs.Agreement
import TypedSteps.Proofs.Registry.Plain

/-!
# Text that reads the same verbatim and escaped

Escaping rewrites more characters than patterns give a meaning to: a closing bracket or brace,
`#`, `&`, `-` and `~` get a backslash, though outside of a class they stand for themselves. So
the two modes make different sources of a template, but the sources are read as the same pattern
as long as the literal text has no operators.

* `Registry.OrdinaryText` — templates whose literal text has no operators;
* `compile_of_ordinary` — the pattern of such a template, in either mode;
* `readAlike_of_ordinary` — registries of the two modes read it alike;
* `modes_agree_on_ordinary_text` — they match every step alike.
-/

namespace TypedSteps

open Calendar (Zone)

/-- A template that has no operators in what the registry takes for literal text. -/
def Registry.OrdinaryText (r : Registry) (template : String) : Prop :=
  ∀ text, Token.literal text ∈ tokens r.table template → ∀ c ∈ text, c ∉ Reading.operators

section Modes

variable {r r' : Registry} {configured configured' : Bool} {template : String}

theorem table_congr (hTypes : r'.types = r.types) : r'.table = r.table := by
  rw [Registry.table, Registry.table, hTypes]

/-- Whether a registry with these types escapes literal text or not, the pattern of the template
is the one of its pieces. -/
theorem compile_of_ordinary (hr : r.Plain) (hTypes : r'.types = r.types)
    (hOrdinary : r.OrdinaryText template) (configured : Bool) :
    r'.compile configured template =
      .ok { TemplateSource.ofTemplate r.table (r'.escapes configured) template with
        pattern := templatePattern r.table template } := by
  rw [Registry.compile, table_congr hTypes]
  refine ofTemplate_of_readsLiterally hr fun cs hcs => .inr ?_
  exact hOrdinary cs (literal_mem_of_piecesFrom hcs)

/-- Registries with the same types read the template alike, whichever mode each is in. -/
theorem readAlike_of_ordinary (hr : r.Plain) (hTypes : r'.types = r.types)
    (hOrdinary : r.OrdinaryText template) (configured configured' : Bool) :
    ReadAlike r r' configured configured' template where
  keyword := by
    rw [Registry.hasPlaceholder, Registry.hasPlaceholder, table_congr hTypes]
  pattern := by
    rw [compile_of_ordinary hr rfl hOrdinary, compile_of_ordinary hr hTypes hOrdinary]
    rfl
  owner := by
    intro _ _ group _
    simp only [ownerOf?, Registry.resolve?, hTypes]

/-- **On ordinary text the two modes agree.** Take a registry of plain words that leaves literal
text as it stands, one with the same types that escapes it, and a template without operators in
its literal text; closing brackets and braces, `#`, `&`, `-`, `~` and all other characters may
stand there. Both compile the template, to the same slots and to patterns that find the same
captures in every text, and both match every step with the same result and the same shared
types. -/
theorem modes_agree_on_ordinary_text (hr : r.Plain) (hTypes : r'.types = r.types)
    (hVerbatim : r.escapes configured = false) (hEscaped : r'.escapes configured' = true)
    (hOrdinary : r.OrdinaryText template) :
    ∃ verbatim escaped,
      r.compile configured template = .ok verbatim ∧
      r'.compile configured' template = .ok escaped ∧
      verbatim.source = (TemplateSource.ofTemplate r.table false template).source ∧
      escaped.source = (TemplateSource.ofTemplate r.table true template).source ∧
      verbatim.slots = escaped.slots ∧
      (∀ text, verbatim.pattern.isMatch text = escaped.pattern.isMatch text ∧
        verbatim.pattern.captures text = escaped.pattern.captures text) ∧
      ∀ zone step shared,
        matchStep r ⟨configured, zone⟩ step template shared =
          matchStep r' ⟨configured', zone⟩ step template shared := by
  have hCompile := compile_of_ordinary hr rfl hOrdinary configured
  have hCompile' := compile_of_ordinary hr hTypes hOrdinary configured'
  rw [hVerbatim] at hCompile
  rw [hEscaped] at hCompile'
  refine ⟨_, _, hCompile, hCompile', rfl, rfl, rfl, fun text => ⟨rfl, rfl⟩, ?_⟩
  exact (readAlike_of_ordinary hr hTypes hOrdinary configured configured').matchStep_eq

end Modes

/-- Text in which every other character is escaped, on both sides of a keyword. -/
theorem modes_agree_on_ordinary_text_colored :
    (colored.pin false).Plain ∧ (colored.pin false).escapes true = false ∧
    colored.escapes false = true ∧ (colored.pin false).OrdinaryText "a-b \x7d ] #{color}&&~" ∧
    (TemplateSource.ofTemplate colored.table false "a-b \x7d ] #{color}&&~").source ≠
      (TemplateSource.ofTemplate colored.table true "a-b \x7d ] #{color}&&~").source ∧
    ∀ zone step shared,
      matchStep (colored.pin false) ⟨true, zone⟩ step "a-b \x7d ] #{color}&&~" shared =
        matchStep colored ⟨false, zone⟩ step "a-b \x7d ] #{color}&&~" shared := by
  have hPlain : (colored.pin false).Plain :=
    ⟨.pin plain_colored.reachable false, plain_colored.words⟩
  have hTypes : colored.types = (colored.pin false).types := rfl
  have hVerbatim : (colored.pin false).escapes true = false := rfl
  have hEscaped : colored.escapes false = true := rfl
  have hOrdinary : (colored.pin false).OrdinaryText "a-b \x7d ] #{color}&&~" := by
    have hTokens : tokens (colored.pin false).table "a-b \x7d ] #{color}&&~" =
        [.literal "a-b \x7d ] #".toList, .placeholder 9 9, .literal "&&~".toList] := by
      decide +kernel
    have hOrdinary {cs : List Char} (h : cs.all fun c => decide (c ∉ Reading.operators)) :
        ∀ c ∈ cs, c ∉ Reading.operators :=
      fun c hc => of_decide_eq_true (List.all_eq_true.mp h c hc)
    intro text hText
    rw [hTokens] at hText
    simp only [List.mem_cons, List.not_mem_nil, or_false, Token.literal.injEq, reduceCtorEq,
      false_or] at hText
    rcases hText with rfl | rfl
    · exact hOrdinary (by decide +kernel)
    · exact hOrdinary (by decide +kernel)
  have hSources : (TemplateSource.ofTemplate colored.table false "a-b \x7d ] #{color}&&~").source ≠
      (TemplateSource.ofTemplate colored.table true "a-b \x7d ] #{color}&&~").source := by
    decide +kernel
  obtain ⟨_, _, -, -, -, -, -, -, hMatch⟩ :=
    modes_agree_on_ordinary_text hPlain hTypes hVerbatim hEscaped hOrdinary
  exact ⟨hPlain, hVerbatim, hEscaped, hOrdinary, hSources, hMatch⟩

end TypedSteps
