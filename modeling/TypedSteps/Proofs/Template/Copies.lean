import TypedSteps.Proofs.Template.Occurrences
import TypedSteps.Proofs.Template.Tables

/-!
# Copies of a keyword

A template that says one keyword several times. Its pattern is made up of as many occurrences
of the type's pattern, counted from one.

* `copies` — copies of a keyword with blanks between them;
* `keywordAt?_keyword` — the keyword of a name is found where it stands;
* `source_copies` — the source of such a template.
-/

namespace TypedSteps

/-- Some copies of a keyword with blanks between them. -/
def copies (name : String) (count : Nat) : String :=
  " ".intercalate (List.replicate count (keyword name))

theorem toList_copies_one (name : String) :
    (copies name 1).toList = keywordCharacters name.toList := by
  rw [copies, List.replicate_one, String.intercalate_singleton, keyword, String.toList_ofList]

/-- Further copies follow the first behind a blank. -/
theorem toList_copies_succ (name : String) (count : Nat) :
    (copies name (count + 2)).toList =
      keywordCharacters name.toList ++ ' ' :: (copies name (count + 1)).toList := by
  rw [copies, List.replicate_succ, List.replicate_succ, String.intercalate_cons_cons,
    String.toList_append, String.toList_append, List.append_assoc, ← List.replicate_succ, keyword,
    String.toList_ofList]
  rfl

section Copies

variable {table : List Parameter} {name pattern : String}

/-- Where the keyword of a name stands, the entry with that name is found. -/
theorem keywordAt?_keyword (hNames : ∀ p ∈ table, IsIdentifier p.name)
    (hEntry : table.find? (·.name == name) = some ⟨name, pattern⟩) (rest : List Char) :
    ∃ index, table[index]? = some ⟨name, pattern⟩ ∧
      keywordAt? table (keywordCharacters name.toList ++ rest) = some (⟨name, pattern⟩, index) := by
  have hOwn : Parameter.standsAt ⟨name, pattern⟩ (keywordCharacters name.toList ++ rest) = true :=
    standsAt_iff.mpr (List.prefix_append _ rest)
  obtain ⟨p, index, hFound, hName⟩ := exists_keywordAt?_of_standsAt
    (fun p hp => close_notMem (hNames p hp)) (List.mem_of_find?_eq_some hEntry) hOwn
  have hFirst := find?_name_of_keywordAt? hFound
  rw [hName, hEntry, Option.some.injEq] at hFirst
  subst hFirst
  exact ⟨index, (keywordAt?_eq_some_iff.mp hFound).1, hFound⟩

/-- Characters that belong to a keyword are passed over. -/
theorem tokensFrom_skip (table : List Parameter) (start : Nat) (cs rest : List Char) :
    ∃ next, tokensFrom table cs.length start (cs ++ rest) = tokensFrom table 0 next rest := by
  induction cs generalizing start with
  | nil => exact ⟨start, rfl⟩
  | cons c cs ih => exact ih (start + c.utf8Size)

/-- The text of some tokens in the pattern of a template. -/
def tokensText (table : List Parameter) (seen : List String) (ts : List Token) : List Char :=
  (piecesFrom table seen ts).flatMap (·.text true)

/-- A character that joins a literal is escaped in front of it. -/
theorem tokensText_addLiteral (seen : List String) (c : Char) (ts : List Token) :
    tokensText table seen (addLiteral c ts) = escapeCharacters [c] ++ tokensText table seen ts := by
  match ts with
  | [] => rfl
  | .placeholder start index :: rest => rfl
  | .literal text :: rest =>
    show escapeCharacters ([c] ++ text) ++ tokensText table seen rest = _
    rw [escapeCharacters_append, List.append_assoc]
    rfl

/-- A keyword adds its fragment, numbered by how often the name has been seen. -/
theorem tokensText_placeholder {seen : List String} {start index : Nat} {ts : List Token}
    (h : table[index]? = some ⟨name, pattern⟩) :
    tokensText table seen (.placeholder start index :: ts) =
      (fragment name (seen.count name + 1) pattern).toList ++ tokensText table (name :: seen) ts := by
  rw [tokensText, piecesFrom, h]
  rfl

/-- A keyword where a template is cut into tokens. -/
theorem tokensFrom_keyword {index : Nat} {rest : List Char}
    (hFound : keywordAt? table (keywordCharacters name.toList ++ rest) =
      some (⟨name, pattern⟩, index)) (start : Nat) :
    ∃ next, tokensFrom table 0 start (keywordCharacters name.toList ++ rest) =
      .placeholder start index :: tokensFrom table 0 next rest := by
  obtain ⟨next, hNext⟩ :=
    tokensFrom_skip table (start + '{'.utf8Size) (name.toList ++ ['}']) rest
  rw [List.length_append] at hNext
  refine ⟨next, ?_⟩
  rw [keywordCharacters, List.cons_append, List.cons_append] at hFound ⊢
  rw [tokensFrom, hFound]
  dsimp only
  rw [← hNext]
  rfl

/-- A keyword and the rest of a template. -/
theorem tokensText_keyword (hNames : ∀ p ∈ table, IsIdentifier p.name)
    (hEntry : table.find? (·.name == name) = some ⟨name, pattern⟩) (seen : List String)
    (start : Nat) (rest : List Char) :
    ∃ next, tokensText table seen
        (tokensFrom table 0 start (keywordCharacters name.toList ++ rest)) =
      (fragment name (seen.count name + 1) pattern).toList ++
        tokensText table (name :: seen) (tokensFrom table 0 next rest) := by
  obtain ⟨index, hGet, hFound⟩ := keywordAt?_keyword hNames hEntry rest
  obtain ⟨next, hNext⟩ := tokensFrom_keyword hFound start
  exact ⟨next, by rw [hNext, tokensText_placeholder hGet]⟩

/-- The copies of a keyword compile to its fragments, numbered on. -/
theorem tokensText_copies (hNames : ∀ p ∈ table, IsIdentifier p.name)
    (hEntry : table.find? (·.name == name) = some ⟨name, pattern⟩) (count : Nat)
    (seen : List String) (start : Nat) :
    tokensText table seen (tokensFrom table 0 start (copies name count).toList) =
      (fragments name pattern (seen.count name + 1) count).toList := by
  induction count generalizing seen start with
  | zero => rfl
  | succ count ih =>
    have hCount : (name :: seen).count name = seen.count name + 1 := List.count_cons_self
    -- the last copy has no blank behind it
    cases count with
    | zero =>
      obtain ⟨next, hNext⟩ := tokensText_keyword hNames hEntry seen start []
      rw [toList_copies_one, fragments_one, ← List.append_nil (keywordCharacters name.toList), hNext]
      exact List.append_nil _
    | succ count =>
      obtain ⟨next, hNext⟩ := tokensText_keyword hNames hEntry seen start
        (' ' :: (copies name (count + 1)).toList)
      -- no keyword begins with a blank, so it is a literal of its own
      have hBlank : keywordAt? table (' ' :: (copies name (count + 1)).toList) = none :=
        keywordAt?_eq_none_iff.mpr fun _ _ => rfl
      rw [toList_copies_succ, hNext, toList_fragments_succ, tokensFrom, hBlank]
      dsimp only
      rw [tokensText_addLiteral, ih, hCount]
      rfl

/-- The source of a template of copies of a keyword. -/
theorem source_copies (hNames : ∀ p ∈ table, IsIdentifier p.name)
    (hEntry : table.find? (·.name == name) = some ⟨name, pattern⟩) (count : Nat) :
    (TemplateSource.ofTemplate table true (copies name count)).source =
      fragments name pattern 1 count := by
  rw [← String.toList_inj]
  have hText := tokensText_copies hNames hEntry count [] 0
  rw [List.count_nil] at hText
  rw [← hText]
  exact String.toList_ofList

end Copies

end TypedSteps
