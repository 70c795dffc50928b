import TypedSteps.Proofs.Outcome
import TypedSteps.Proofs.Registry.Plain

/-!
# Templates that are compiled

Escaped literal text and groups of plain words make up a pattern that can always be read,
whatever the template says.

* `escaped_templates_compile` — no template is refused by a registry of plain words that
  escapes literal text.
-/

namespace TypedSteps

/-- **Escaping makes every template readable.** A registry of plain words that escapes literal
text compiles every template, to the pattern of its escaped text and its groups; so no match
ever fails because the template is no valid pattern. -/
theorem escaped_templates_compile {r : Registry} (hr : r.Plain) {settings : MatchSettings}
    (hEscape : r.escapes settings.escape = true) (template : String) :
    (∃ compiled, r.compile settings.escape template = .ok compiled ∧
      compiled.toTemplateSource = TemplateSource.ofTemplate r.table true template) ∧
    ∀ step shared t reason after,
      matchStep r settings step template shared ≠
        (.error (.invalidExpression t reason), after) := by
  have hCompile := compile_of_plain hr hEscape template
  refine ⟨⟨_, hCompile, rfl⟩, ?_⟩
  intro step shared t reason after hMatch
  cases matchStep_eq_iff.mp hMatch with
  | unreadable _ hError =>
    rw [hCompile] at hError
    cases hError

/-- Literal text that is no pattern by itself is escaped. -/
theorem escaped_templates_compile_colored :
    colored.Plain ∧ colored.escapes false = true ∧
    (∃ compiled, colored.compile false "*[({color}{color}\\" = .ok compiled ∧
      compiled.source =
        "\\*\\[\\((?P<color_1>(?:red|green))(?P<color_2>(?:red|green))\\\\") ∧
    ∀ zone step shared t reason after,
      matchStep colored ⟨false, zone⟩ step "*[({color}{color}\\" shared ≠
        (.error (.invalidExpression t reason), after) := by
  have hEscape (zone : Calendar.Zone) :
      colored.escapes (MatchSettings.mk false zone).escape = true := rfl
  have hSource : (TemplateSource.ofTemplate colored.table true "*[({color}{color}\\").source =
      "\\*\\[\\((?P<color_1>(?:red|green))(?P<color_2>(?:red|green))\\\\" := by
    decide +kernel
  refine ⟨plain_colored, rfl, ?_, ?_⟩
  · obtain ⟨⟨compiled, hCompile, hBuilt⟩, -⟩ :=
      escaped_templates_compile plain_colored (hEscape .utc) "*[({color}{color}\\"
    exact ⟨compiled, hCompile, by rw [hBuilt, hSource]⟩
  · intro zone step shared
    exact (escaped_templates_compile plain_colored (hEscape zone) "*[({color}{color}\\").2 step
      shared

end TypedSteps
