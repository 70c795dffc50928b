import TypedSteps.Template.Source
import TypedSteps.Proofs.Regex.Reading
import TypedSteps.Proofs.Registry.Reachable
import TypedSteps.Proofs.Template.Slots

/-!
# The pattern of a template is read back

The source of a template is read as what it was put together from: the characters of the
literal text, if that is escaped or holds no operators, and for each slot a group around the
pattern of its type.

* `isGroupName_groupName` — the groups of identifiers have names that can be read;
* `ReadsLiterally`, `run_pieces` — literal text that is read as itself, and all pieces in turn;
* `pieceRegexes`, `templatePattern` — what the source of a template is read as;
* `ofTemplate_eq_ok` — a template whose patterns can stand in groups is compiled to that.
-/

namespace TypedSteps

-- ---------------------------------------------------------------------------
-- Names of groups
-- ---------------------------------------------------------------------------

/-- The letters of identifiers are among those that group names may begin with. -/
theorem isAlphabetic_of_isLetter {c : Char} (h : IsLetter c) :
    Unicode.isAlphabetic c = true := by
  -- the first two ranges of the table are those of the Latin letters
  have hFirst : ∃ rest, Unicode.alphabetic.ranges = (0x41, 0x5A) :: (0x61, 0x7A) :: rest :=
    ⟨_, rfl⟩
  obtain ⟨rest, hRest⟩ := hFirst
  rw [Unicode.isAlphabetic, Unicode.CharSet.contains_iff, hRest]
  rcases h with ⟨hLow, hHigh⟩ | ⟨hLow, hHigh⟩
  · exact ⟨_, List.mem_cons_self, Char.le_def.mp hLow, Char.le_def.mp hHigh⟩
  · exact ⟨_, List.mem_cons_of_mem _ List.mem_cons_self, Char.le_def.mp hLow, Char.le_def.mp hHigh⟩

/-- The digits are among the characters of group names. -/
theorem isAlphanumeric_of_digit {c : Char} (h : '0' ≤ c ∧ c ≤ '9') :
    Unicode.isAlphanumeric c = true := by
  have hFirst : ∃ rest, Unicode.number.ranges = (0x30, 0x39) :: rest := ⟨_, rfl⟩
  obtain ⟨rest, hRest⟩ := hFirst
  rw [Unicode.isAlphanumeric, Bool.or_eq_true, Unicode.CharSet.contains_iff (s := Unicode.number),
    hRest]
  exact .inr ⟨_, List.mem_cons_self, Char.le_def.mp h.1, Char.le_def.mp h.2⟩

/-- The groups of a type that has an identifier for a name can be read. -/
theorem isGroupName_groupName {name : String} (h : IsIdentifier name) (n : Nat) :
    isGroupName (groupName name n).toList = true := by
  obtain ⟨c, cs, hName, hc, hcs⟩ := h
  -- letters are among letters and digits
  have hLetter {d : Char} (hd : IsLetter d) : Unicode.isAlphanumeric d = true := by
    have hAlpha := isAlphabetic_of_isLetter hd
    rw [Unicode.isAlphabetic] at hAlpha
    rw [Unicode.isAlphanumeric, hAlpha, Bool.true_or]
  rw [toList_groupName, hName, List.cons_append, isGroupName, Bool.and_eq_true, List.all_append,
    List.all_cons, Bool.and_eq_true]
  refine ⟨?_, ?_, ?_⟩
  · rcases hc with hc | rfl
    · rw [isAlphabetic_of_isLetter hc, Bool.or_true]
    · rfl
  · rw [List.all_eq_true]
    intro d hd
    rcases hcs d hd with hd | hd | rfl
    · rw [hLetter hd, Bool.or_true]
    · rw [isAlphanumeric_of_digit hd, Bool.or_true]
    · rfl
  · rw [Bool.and_eq_true, List.all_eq_true]
    refine ⟨rfl, fun d hd => ?_⟩
    have hDigit := List.all_eq_true.mp (all_isDigit_toDigits n) d hd
    rw [isAlphanumeric_of_digit, Bool.or_true]
    simpa [Char.isDigit, Char.le_def] using hDigit

/-- A group name does not have the bracket that ends it. -/
theorem close_notMem_groupName {name : String} (h : IsIdentifier name) (n : Nat) :
    '>' ∉ (groupName name n).toList := by
  rw [toList_groupName]
  intro hMem
  rcases List.mem_append.mp hMem with hMem | hMem
  · exact absurd (h.continues hMem) (by decide)
  · rcases List.mem_cons.mp hMem with heq | hMem
    · exact absurd heq (by decide)
    · have hDigit := List.all_eq_true.mp (all_isDigit_toDigits n) _ hMem
      exact absurd hDigit (by decide)

-- ---------------------------------------------------------------------------
-- Pieces
-- ---------------------------------------------------------------------------

/-- A slot whose group can be read, with a pattern that can stand in it. -/
structure Readable (s : Slot) (pattern : String) : Prop where
  group : s.group = groupName s.name s.occurrence
  name : IsIdentifier s.name
  body : Embeds pattern

/-- The level after some pieces, where `index` is the index of the next group. -/
def Level.pushPieces : Level → Nat → List Piece → Level
  | level, _, [] => level
  | level, index, .literal cs :: ps => (level.pushLiterals cs).pushPieces index ps
  | level, index, .slot _ pattern :: ps => (level.pushNamed index pattern).pushPieces (index + 1) ps

/-- What pieces are read as, where `index` is the index of the next group. -/
def pieceRegexes : Nat → List Piece → List Regex
  | _, [] => []
  | index, .literal cs :: ps => cs.map .char ++ pieceRegexes index ps
  | index, .slot _ pattern :: ps =>
    .group index (.concat [(bodyLevel pattern).close.regex]) :: pieceRegexes (index + 1) ps

/-- Literal text that is read as the characters it consists of: escaped text, and text without
operators. -/
def ReadsLiterally (escape : Bool) (cs : List Char) : Prop :=
  escape = true ∨ ∀ c ∈ cs, c ∉ Reading.operators

/-- Literal text is read as itself, escaped or made of plain characters. -/
theorem run_literal {escape : Bool} {cs : List Char} (h : ReadsLiterally escape cs) (level : Level)
    (frames : List Frame) (names : List (Option String)) (rest : List Char) :
    (Reading.outside level frames names).run 0 ((Piece.literal cs).text escape ++ rest) =
      (Reading.outside (level.pushLiterals cs) frames names).run 0 rest := by
  cases escape with
  | true => exact run_escapeCharacters level frames names cs rest
  | false => exact run_ordinaries (h.resolve_left Bool.false_ne_true) level frames names rest

/-- The text of pieces is read piece by piece. -/
theorem run_pieces {escape : Bool} {ps : List Piece}
    (hLiterals : ∀ cs, .literal cs ∈ ps → ReadsLiterally escape cs)
    (h : ∀ s pattern, .slot s pattern ∈ ps → Readable s pattern)
    (hNodup : ((slotsOf ps).map (·.group)).Nodup) (level : Level) {names : List (Option String)}
    (hFresh : ∀ s ∈ slotsOf ps, some s.group ∉ names) :
    (Reading.outside level [] names).run 0 (ps.flatMap (·.text escape)) =
      .ok (Reading.outside (level.pushPieces (names.length + 1) ps) []
        (((slotsOf ps).map fun s => some s.group).reverse ++ names)) := by
  -- piece by piece; each slot opens the next group, so the names so far count them
  induction ps generalizing level names with
  | nil => rfl
  | cons p ps ih =>
    have hRest : ∀ s pattern, .slot s pattern ∈ ps → Readable s pattern :=
      fun s pattern hs => h s pattern (List.mem_cons_of_mem _ hs)
    have hRestLiterals : ∀ cs, .literal cs ∈ ps → ReadsLiterally escape cs :=
      fun cs hcs => hLiterals cs (List.mem_cons_of_mem _ hcs)
    cases p with
    | literal cs =>
      rw [List.flatMap_cons, run_literal (hLiterals cs List.mem_cons_self),
        ih hRestLiterals hRest hNodup (level.pushLiterals cs) hFresh]
      rfl
    | slot s pattern =>
      have hs := h s pattern List.mem_cons_self
      rw [slotsOf_slot, List.map_cons, List.nodup_cons] at hNodup
      have hsFresh : some s.group ∉ names := hFresh s List.mem_cons_self
      -- the group is named now, and no later slot has the same name
      have hRestFresh : ∀ t ∈ slotsOf ps, some t.group ∉ some s.group :: names := by
        intro t ht hMem
        rcases List.mem_cons.mp hMem with heq | hMem
        · have hGroup : s.group ∈ (slotsOf ps).map (·.group) := by
            rw [← Option.some.inj heq]
            exact List.mem_map_of_mem ht
          exact hNodup.1 hGroup
        · exact hFresh t (List.mem_cons_of_mem _ ht) hMem
      have hName : isGroupName s.group.toList = true := by
        rw [hs.group]
        exact isGroupName_groupName hs.name _
      have hClose : '>' ∉ s.group.toList := by
        rw [hs.group]
        exact close_notMem_groupName hs.name _
      have hText : (Piece.slot s pattern).text escape =
          ("(?P<" ++ s.group ++ ">(?:" ++ pattern ++ "))").toList := by
        rw [hs.group]
        rfl
      rw [List.flatMap_cons, hText, run_named hs.body hName hClose level [] hsFresh,
        ih hRestLiterals hRest hNodup.2 _ hRestFresh, slotsOf_slot, List.map_cons,
        List.reverse_cons, List.append_assoc]
      rfl

/-- Literal characters join the sequence and are not nested. -/
theorem pushLiterals_spec (level : Level) (cs : List Char) :
    (level.pushLiterals cs).branches = level.branches ∧
      (level.pushLiterals cs).items.reverse.map (·.regex) =
        level.items.reverse.map (·.regex) ++ cs.map .char ∧
      ∀ bound, (∀ item ∈ level.items, item.depth ≤ bound) →
        ∀ item ∈ (level.pushLiterals cs).items, item.depth ≤ bound := by
  induction cs generalizing level with
  | nil => exact ⟨rfl, (List.append_nil _).symm, fun _ h => h⟩
  | cons c cs ih =>
    obtain ⟨hBranches, hItems, hDepth⟩ := ih (level.push (.char c) 0)
    refine ⟨hBranches, hItems.trans ?_, fun bound h => hDepth bound ?_⟩
    · simp only [Level.push, List.reverse_cons, List.map_append, List.map_cons, List.map_nil,
        List.append_assoc, List.singleton_append]
    · exact List.forall_mem_cons.mpr ⟨Nat.zero_le _, h⟩

/-- The level after some pieces holds what the pieces are read as. -/
theorem pushPieces_spec {ps : List Piece}
    (h : ∀ s pattern, .slot s pattern ∈ ps → Readable s pattern) (level : Level) (index : Nat) :
    (level.pushPieces index ps).branches = level.branches ∧
      (level.pushPieces index ps).items.reverse.map (·.regex) =
        level.items.reverse.map (·.regex) ++ pieceRegexes index ps ∧
      ((∀ item ∈ level.items, item.depth ≤ 102) →
        ∀ item ∈ (level.pushPieces index ps).items, item.depth ≤ 102) := by
  induction ps generalizing level index with
  | nil => exact ⟨rfl, (List.append_nil _).symm, fun h => h⟩
  | cons p ps ih =>
    have hRest : ∀ s pattern, .slot s pattern ∈ ps → Readable s pattern :=
      fun s pattern hs => h s pattern (List.mem_cons_of_mem _ hs)
    cases p with
    | literal cs =>
      obtain ⟨hBranches, hItems, hDepth⟩ := pushLiterals_spec level cs
      obtain ⟨hBranches', hItems', hDepth'⟩ := ih hRest (level.pushLiterals cs) index
      refine ⟨hBranches'.trans hBranches, hItems'.trans ?_, fun h => hDepth' (hDepth 102 h)⟩
      rw [hItems, List.append_assoc]
      rfl
    | slot s pattern =>
      -- a body nests no deeper than the limit for it, and its two groups add one each
      have hBody := (h s pattern List.mem_cons_self).body.depth
      obtain ⟨hBranches, hItems, hDepth⟩ := ih hRest (level.pushNamed index pattern) (index + 1)
      refine ⟨hBranches, hItems.trans ?_, fun h => hDepth ?_⟩
      · simp only [Level.pushNamed, Level.push, List.reverse_cons, List.map_append, List.map_cons,
          List.map_nil, List.append_assoc, List.singleton_append]
        rfl
      · exact List.forall_mem_cons.mpr ⟨Nat.add_le_add_right hBody 2, h⟩

-- ---------------------------------------------------------------------------
-- Templates
-- ---------------------------------------------------------------------------

/-- What the source of a template is read as. -/
def templateRegex (table : List Parameter) (template : String) : Regex :=
  .concat (pieceRegexes 1 (pieces table template))

/-- The pattern of a template whose literal text is read as the characters it consists of. -/
def templatePattern (table : List Parameter) (template : String) : Pattern :=
  ⟨templateRegex table template, (slotsOf (pieces table template)).map fun s => some s.group,
    (templateRegex table template).program⟩

/-- A level in which no alternative is finished is what its one sequence is. -/
theorem close_of_branches_nil {level : Level} (h : level.branches = []) :
    level.close.regex = .concat (level.items.reverse.map (·.regex)) := by
  obtain ⟨branches, items⟩ := level
  obtain rfl : branches = [] := h
  rfl

/-- A template whose pieces can be read is compiled to the pattern of its pieces. -/
theorem ofTemplate_eq_ok {table : List Parameter} {escape : Bool} {template : String}
    (hLiterals : ∀ cs, .literal cs ∈ pieces table template → ReadsLiterally escape cs)
    (h : ∀ s pattern, .slot s pattern ∈ pieces table template → Readable s pattern) :
    CompiledTemplate.ofTemplate table escape template =
      .ok { TemplateSource.ofTemplate table escape template with
        pattern := templatePattern table template } := by
  have hRun : (Reading.outside .empty [] []).run 0
      ((pieces table template).flatMap (·.text escape)) =
        .ok (Reading.outside (Level.empty.pushPieces 1 (pieces table template)) []
          (((slotsOf (pieces table template)).map fun s => some s.group).reverse ++ [])) :=
    run_pieces hLiterals h (nodup_groups table template) .empty fun _ _ => List.not_mem_nil
  obtain ⟨hBranches, hItems, hDepth⟩ := pushPieces_spec h .empty 1
  -- the pattern of a template nests far less deep than is allowed
  have hDepth : (Level.empty.pushPieces 1 (pieces table template)).close.depth ≤ 102 + 2 := by
    refine depth_close_le (hDepth ?_) ?_
    · intro item hItem
      cases hItem
    · rw [hBranches]
      intro b hb
      cases hb
  have hRead : Regex.read ((pieces table template).flatMap (·.text escape)) =
      .ok (templateRegex table template,
        (slotsOf (pieces table template)).map fun s => some s.group) := by
    have hStart : Reading.start.run 0 ((pieces table template).flatMap (·.text escape)) =
        .ok (Reading.outside (Level.empty.pushPieces 1 (pieces table template)) []
          ((slotsOf (pieces table template)).map fun s => some s.group).reverse) := by
      rw [← List.append_nil (List.reverse _)]
      exact hRun
    rw [Regex.read, hStart]
    simp only [Reading.finish, Reading.outside, List.isEmpty_nil, Bool.not_true, Bool.false_eq_true,
      if_false, List.reverse_reverse]
    -- two levels more than the bodies have, for the sequence and the choice
    have hLimit : 102 + 2 ≤ nestLimit := by decide
    rw [if_neg (Nat.not_lt.mpr (Nat.le_trans hDepth hLimit)), close_of_branches_nil hBranches, hItems]
    rfl
  have hSource : Pattern.ofSource (TemplateSource.ofTemplate table escape template).source =
      .ok (templatePattern table template) := by
    rw [Pattern.ofSource, TemplateSource.ofTemplate]
    simp only [String.toList_ofList]
    rw [hRead]
    rfl
  rw [CompiledTemplate.ofTemplate]
  simp only [hSource]

end TypedSteps
