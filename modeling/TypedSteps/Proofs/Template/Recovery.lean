import TypedSteps.Proofs.Template.Reading
import TypedSteps.Registry.Transforms

/-!
# A template is recovered from its source

With literal text escaped, a parenthesis without a backslash begins the group of a placeholder
and nothing else. The name of the group says which parameter the placeholder asks for, and so
how long its pattern is, whatever characters stand in that. So a source is read back from left
to right without looking into patterns, and no two templates have the same source.

* `openedGroup`, `parameterOf?` — the group that begins at a place, and its parameter;
* `recoverFrom`, `recoverTemplate` — the template that a source was made of;
* `recoverFrom_escapeCharacters`, `recoverFrom_fragment` — literal text and placeholders are read
  back;
* `template_recovered_from_source` — every template is recovered, so none has the source of
  another.
-/

namespace TypedSteps

-- ---------------------------------------------------------------------------
-- Reading a source back
-- ---------------------------------------------------------------------------

/-- The name of the group that begins behind an opening parenthesis. -/
def openedGroup (cs : List Char) : List Char :=
  (cs.drop "?P<".length).takeWhile (· != '>')

/-- The parameter that a group is named after. -/
def parameterOf? (table : List Parameter) (group : List Char) : Option Parameter :=
  (splitAtLast? '_' group).bind fun (name, _) => table.find? (·.name == String.ofList name)

/-- The number of characters that a fragment has behind its opening parenthesis. -/
def fragmentRest (group : List Char) (p : Parameter) : Nat :=
  "?P<>(?:))".toList.length + group.length + p.pattern.toList.length

/-- What the rest of a source was made of, its first `skip` characters left out. A backslash
stands before a literal character, and a parenthesis without one begins a fragment. -/
def recoverFrom (table : List Parameter) : Nat → List Char → List Char
  | _, [] => []
  | skip + 1, _ :: cs => recoverFrom table skip cs
  | 0, c :: cs =>
    if c = '\\' then cs.take 1 ++ recoverFrom table 1 cs
    else if c = '(' then
      match parameterOf? table (openedGroup cs) with
      | some p =>
        keywordCharacters p.name.toList ++
          recoverFrom table (fragmentRest (openedGroup cs) p) cs
      | none => recoverFrom table 0 cs
    else c :: recoverFrom table 0 cs

/-- The template that a source was made of. -/
def recoverTemplate (table : List Parameter) (source : String) : String :=
  String.ofList (recoverFrom table 0 source.toList)

section Recovery

variable {table : List Parameter}

theorem recoverFrom_skip (table : List Parameter) (cs rest : List Char) :
    recoverFrom table cs.length (cs ++ rest) = recoverFrom table 0 rest := by
  induction cs with
  | nil => rfl
  | cons c cs ih => exact ih

/-- Escaped text is read back as the text it stands for. -/
theorem recoverFrom_escapeCharacters (table : List Parameter) (cs rest : List Char) :
    recoverFrom table 0 (escapeCharacters cs ++ rest) = cs ++ recoverFrom table 0 rest := by
  induction cs with
  | nil => rfl
  | cons c cs ih =>
    rw [escapeCharacters]
    by_cases hMeta : isMetaCharacter c = true
    · rw [if_pos hMeta, List.cons_append, List.cons_append, recoverFrom, if_pos rfl]
      show c :: recoverFrom table 0 (escapeCharacters cs ++ rest) = _
      rw [ih, List.cons_append]
    · have hBackslash : c ≠ '\\' := by
        rintro rfl
        exact hMeta (by decide)
      have hOpen : c ≠ '(' := by
        rintro rfl
        exact hMeta (by decide)
      rw [if_neg hMeta, List.cons_append, recoverFrom, if_neg hBackslash, if_neg hOpen, ih,
        List.cons_append]

theorem openedGroup_append {group : List Char} (h : '>' ∉ group) (rest : List Char) :
    openedGroup ("?P<".toList ++ (group ++ '>' :: rest)) = group := by
  have hAll : ∀ c ∈ group, (· != '>') c = true := by
    intro c hc
    refine bne_iff_ne.mpr ?_
    rintro rfl
    exact h hc
  have hDrop : ("?P<".toList ++ (group ++ '>' :: rest)).drop "?P<".length =
      group ++ '>' :: rest := rfl
  rw [openedGroup, hDrop, List.takeWhile_append_of_pos hAll,
    List.takeWhile_cons_of_neg (by decide), List.append_nil]

/-- A group is named after the first entry with its name. -/
theorem parameterOf?_groupName (table : List Parameter) (name : String) (n : Nat) :
    parameterOf? table (groupName name n).toList = table.find? (·.name == name) := by
  rw [parameterOf?, splitAtLast?_groupName, Option.bind_some]
  dsimp only
  rw [String.ofList_toList]

/-- A fragment is read back as the keyword of its parameter. -/
theorem recoverFrom_fragment {name pattern : String} (hName : IsIdentifier name)
    (hEntry : table.find? (·.name == name) = some ⟨name, pattern⟩) (n : Nat) (rest : List Char) :
    recoverFrom table 0 ((fragment name n pattern).toList ++ rest) =
      keywordCharacters name.toList ++ recoverFrom table 0 rest := by
  generalize hInner : ("?P<" ++ groupName name n ++ ">(?:" ++ pattern ++ "))").toList = inner
  have hShape : (fragment name n pattern).toList = '(' :: inner := by
    rw [← hInner]
    simp [fragment]
  have hGroup : openedGroup (inner ++ rest) = (groupName name n).toList := by
    rw [← openedGroup_append (close_notMem_groupName hName n)
      ("(?:".toList ++ pattern.toList ++ "))".toList ++ rest), ← hInner]
    simp
  have hLength : fragmentRest (groupName name n).toList ⟨name, pattern⟩ = inner.length := by
    rw [← hInner, fragmentRest]
    simp
    omega
  rw [hShape, List.cons_append, recoverFrom, if_neg (by decide), if_pos rfl, hGroup,
    parameterOf?_groupName, hEntry]
  dsimp only
  rw [hLength, recoverFrom_skip]

/-- The text of some pieces is read back as what the pieces stand for. -/
theorem recoverFrom_pieces {ps : List Piece}
    (h : ∀ s pattern, .slot s pattern ∈ ps →
      IsIdentifier s.name ∧ table.find? (·.name == s.name) = some ⟨s.name, pattern⟩) :
    recoverFrom table 0 (ps.flatMap (·.text true)) = ps.flatMap Piece.written := by
  induction ps with
  | nil => rfl
  | cons p ps ih =>
    have ih := ih fun s pattern hs => h s pattern (List.mem_cons_of_mem _ hs)
    rw [List.flatMap_cons, List.flatMap_cons, ← ih]
    cases p with
    | literal cs => exact recoverFrom_escapeCharacters table cs _
    | slot s pattern =>
      obtain ⟨hName, hEntry⟩ := h s pattern List.mem_cons_self
      exact recoverFrom_fragment hName hEntry s.occurrence _

/-- Where all parameters have identifiers for names, a template is recovered from its source. -/
theorem recoverTemplate_source (hNames : ∀ p ∈ table, IsIdentifier p.name) (template : String) :
    recoverTemplate table (TemplateSource.ofTemplate table true template).source = template := by
  have hPieces : recoverFrom table 0 ((pieces table template).flatMap (·.text true)) =
      template.toList := by
    rw [← written_pieces table template]
    refine recoverFrom_pieces fun s pattern hs => ?_
    obtain ⟨before, after, hSplit⟩ := List.append_of_mem hs
    have hEntry := (slotAt_of_pieces hSplit).entry
    exact ⟨hNames _ (List.mem_of_find?_eq_some hEntry), hEntry⟩
  have hSource : (TemplateSource.ofTemplate table true template).source.toList =
      (pieces table template).flatMap (·.text true) := String.toList_ofList
  rw [recoverTemplate, hSource, hPieces, String.ofList_toList]

end Recovery

/-- **With literal text escaped no text imitates a placeholder.** Take any registry that
registering, clearing and pinning lead to, whatever patterns it accepted. Every template is
recovered from the source of its pattern; so templates with the same source are the same. -/
theorem template_recovered_from_source {r : Registry} (hr : r.Reachable) :
    (∀ template,
      recoverTemplate r.table (TemplateSource.ofTemplate r.table true template).source =
        template) ∧
    ∀ template template',
      (TemplateSource.ofTemplate r.table true template).source =
          (TemplateSource.ofTemplate r.table true template').source → template = template' := by
  have hRecovered : ∀ template,
      recoverTemplate r.table (TemplateSource.ofTemplate r.table true template).source =
        template := recoverTemplate_source fun p hp => hr.valid.isIdentifier hp
  refine ⟨hRecovered, fun template template' h => ?_⟩
  rw [← hRecovered template, h, hRecovered]

/-- A registry in which the pattern of one type is the fragment of another. -/
def disguised : Registry :=
  { types := [⟨"b", "x", .text⟩, ⟨"a", "(?P<b_1>(?:x))", .text⟩] }

theorem reachable_disguised : disguised.Reachable := by
  let first : Registry := { types := [⟨"b", "x", .text⟩] }
  have hFirst : Registry.empty.register "b" "x" .text = .ok first := rfl
  have hNone : first.refusal? "a" "(?P<b_1>(?:x))" = none := by decide +kernel
  have hSecond : first.register "a" "(?P<b_1>(?:x))" .text = .ok disguised := by
    rw [Registry.register, hNone]
    rfl
  exact .register (.register .empty hFirst) hSecond

/-- The source of `{a}` holds the fragment of `{b}`, and is a template itself, one without
placeholders. All three templates are recovered, and the first and the last differ in source. -/
theorem template_recovered_from_source_disguised :
    disguised.Reachable ∧
    (TemplateSource.ofTemplate disguised.table true "\x7ba\x7d").source =
      "(?P<a_1>(?:(?P<b_1>(?:x))))" ∧
    (∀ template ∈ ["\x7ba\x7d", "\x7bb\x7d", "(?P<a_1>(?:(?P<b_1>(?:x))))"],
      recoverTemplate disguised.table
        (TemplateSource.ofTemplate disguised.table true template).source = template) ∧
    (TemplateSource.ofTemplate disguised.table true "\x7ba\x7d").source ≠
      (TemplateSource.ofTemplate disguised.table true "(?P<a_1>(?:(?P<b_1>(?:x))))").source := by
  obtain ⟨hRecovered, hInjective⟩ := template_recovered_from_source reachable_disguised
  refine ⟨reachable_disguised, by decide +kernel, fun template _ => hRecovered template, ?_⟩
  exact fun h => absurd (hInjective _ _ h) (by decide)

end TypedSteps
