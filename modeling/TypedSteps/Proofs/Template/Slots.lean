import TypedSteps.Template.Source
import TypedSteps.Proofs.Template.Tokens
import TypedSteps.Proofs.Template.GroupNames

/-!
# Slots of a template

The pieces of a template keep what its tokens say: they join to the template, and every
slot among them stands where its keyword stands, holds the pattern of the first table
entry with its name, and is counted among the slots of that name.

* `written_pieces` — the pieces join to the template;
* `containsPlaceholder_iff` — there are slots where keywords stand;
* `Lexed.slot_split`, `SlotAt`, `slotAt_of_pieces` — what a slot says about its place;
* `nodup_groups` — no two slots share a group;
* `occurrence_le_byteLength` — there are no more slots than the template has bytes.
-/

namespace TypedSteps

/-- The stretch of the template that a piece stands for. -/
def Piece.written : Piece → List Char
  | literal text => text
  | slot s _ => keywordCharacters s.name.toList

/-- The slots among some pieces. -/
def slotsOf (ps : List Piece) : List Slot :=
  ps.filterMap Piece.slot?

theorem slotsOf_literal (text : List Char) (ps : List Piece) :
    slotsOf (.literal text :: ps) = slotsOf ps := rfl

theorem slotsOf_slot (s : Slot) (pattern : String) (ps : List Piece) :
    slotsOf (.slot s pattern :: ps) = s :: slotsOf ps := rfl

/-- A slot has its place among the pieces that it comes from, behind the slots before it. -/
theorem exists_piece_of_slotsOf_eq {ps : List Piece} {before after : List Slot} {s : Slot}
    (h : slotsOf ps = before ++ s :: after) :
    ∃ front pattern back, ps = front ++ .slot s pattern :: back ∧ slotsOf front = before := by
  obtain ⟨front, rest, rfl, hFront, hRest⟩ := List.filterMap_eq_append_iff.mp h
  obtain ⟨literals, piece, back, rfl, hLiterals, hPiece, -⟩ := List.filterMap_eq_cons_iff.mp hRest
  cases piece with
  | literal text => cases hPiece
  | slot s' pattern =>
    obtain rfl : s' = s := Option.some.inj hPiece
    refine ⟨front ++ literals, pattern, back, (List.append_assoc _ _ _).symm, ?_⟩
    rw [slotsOf, List.filterMap_append, hFront, List.filterMap_eq_nil_iff.mpr hLiterals,
      List.append_nil]

/-- Every slot stands in its place among the pieces. -/
theorem exists_piece_of_mem_slotsOf {ps : List Piece} {s : Slot} (h : s ∈ slotsOf ps) :
    ∃ before pattern after, ps = before ++ .slot s pattern :: after := by
  obtain ⟨before, after, hSplit⟩ := List.append_of_mem h
  obtain ⟨front, pattern, back, hps, -⟩ := exists_piece_of_slotsOf_eq hSplit
  exact ⟨front, pattern, back, hps⟩

-- ---------------------------------------------------------------------------
-- Pieces and tokens
-- ---------------------------------------------------------------------------

section

variable {table : List Parameter} {start : Nat} {cs : List Char} {ts : List Token}

/-- A placeholder whose entry is in the table becomes a slot. -/
theorem piecesFrom_placeholder {index : Nat} {p : Parameter} (h : table[index]? = some p)
    (seen : List String) (ts : List Token) :
    piecesFrom table seen (.placeholder start index :: ts) =
      .slot ⟨p.name, seen.count p.name + 1, groupName p.name (seen.count p.name + 1), start⟩
        p.pattern :: piecesFrom table (p.name :: seen) ts := by
  rw [piecesFrom, h]

/-- The pieces of tokens are written as the text they were read from. -/
theorem Lexed.written_piecesFrom (h : Lexed table start cs ts) (seen : List String) :
    (piecesFrom table seen ts).flatMap Piece.written = cs := by
  induction h generalizing seen with
  | nil => rfl
  | literal _ _ _ _ ih =>
    rw [piecesFrom, List.flatMap_cons, ih]
    rfl
  | placeholder hFound _ ih =>
    rw [piecesFrom_placeholder (keywordAt?_eq_some_iff.mp hFound).1, List.flatMap_cons, ih]
    rfl

/-- There is a slot if there is a placeholder among the tokens. -/
theorem Lexed.any_isPlaceholder_iff (h : Lexed table start cs ts) (seen : List String) :
    ts.any Token.isPlaceholder = true ↔ slotsOf (piecesFrom table seen ts) ≠ [] := by
  induction h with
  | nil => exact iff_of_false Bool.false_ne_true fun hSlots => hSlots rfl
  | literal _ _ _ _ ih => exact ih
  | placeholder hFound _ _ =>
    rw [piecesFrom_placeholder (keywordAt?_eq_some_iff.mp hFound).1]
    exact iff_of_true rfl (List.cons_ne_nil _ _)

end

/-- The pieces of a template join to it. -/
theorem written_pieces (table : List Parameter) (template : String) :
    (pieces table template).flatMap Piece.written = template.toList :=
  (lexed_tokens table template).written_piecesFrom []

/-- A template has slots just when a keyword of the table stands in it. -/
theorem containsPlaceholder_iff {table : List Parameter} {template : String} :
    containsPlaceholder table template = true ↔ slotsOf (pieces table template) ≠ [] :=
  (lexed_tokens table template).any_isPlaceholder_iff []

/-- Compiling a template keeps its source and its slots. -/
theorem toTemplateSource_of_ofTemplate {table : List Parameter} {escape : Bool}
    {template : String} {compiled : CompiledTemplate}
    (h : CompiledTemplate.ofTemplate table escape template = .ok compiled) :
    compiled.toTemplateSource = TemplateSource.ofTemplate table escape template := by
  rw [CompiledTemplate.ofTemplate] at h
  split at h
  · rw [← Except.ok.inj h]
  · cases h

/-- Literal pieces come from literal tokens. -/
theorem literal_mem_of_piecesFrom {table : List Parameter} {seen : List String} {ts : List Token}
    {text : List Char} (h : .literal text ∈ piecesFrom table seen ts) : .literal text ∈ ts := by
  induction ts generalizing seen with
  | nil => cases h
  | cons t ts ih =>
    cases t with
    | literal other =>
      rcases List.mem_cons.mp h with heq | h
      · rw [Piece.literal.inj heq]
        exact List.mem_cons_self
      · exact List.mem_cons_of_mem _ (ih h)
    | placeholder start index =>
      rw [piecesFrom] at h
      cases hp : table[index]? with
      | none =>
        rw [hp] at h
        exact List.mem_cons_of_mem _ (ih h)
      | some p =>
        rw [hp] at h
        rcases List.mem_cons.mp h with heq | h
        · cases heq
        · exact List.mem_cons_of_mem _ (ih h)

-- ---------------------------------------------------------------------------
-- The place of a slot
-- ---------------------------------------------------------------------------

/-- The entry whose keyword was found is the first entry with its name. -/
theorem findIdx?_name_of_keywordAt? {table : List Parameter} {cs : List Char} {p : Parameter}
    {index : Nat} (h : keywordAt? table cs = some (p, index)) :
    table.findIdx? (·.name == p.name) = some index := by
  obtain ⟨hGet, hStands, hBefore⟩ := keywordAt?_eq_some_iff.mp h
  obtain ⟨hLen, hGet⟩ := List.getElem?_eq_some_iff.mp hGet
  rw [List.findIdx?_eq_some_iff_getElem]
  refine ⟨hLen, by simp [hGet], ?_⟩
  intro j hj
  have hj' : j < table.length := by omega
  have hFalse := hBefore j hj table[j] (List.getElem?_eq_getElem hj')
  -- an entry of the same name would have the same keyword
  have hne : table[j].name ≠ p.name := by
    intro hName
    rw [standsAt_iff, ← hName, ← standsAt_iff, hFalse] at hStands
    cases hStands
  simpa using hne

/-- A keyword belongs to the first entry with its name. -/
theorem find?_name_of_keywordAt? {table : List Parameter} {cs : List Char} {p : Parameter}
    {index : Nat} (h : keywordAt? table cs = some (p, index)) :
    table.find? (·.name == p.name) = some p := by
  rw [List.find?_eq_bind_findIdx?_getElem?, findIdx?_name_of_keywordAt? h]
  exact (keywordAt?_eq_some_iff.mp h).1

/-- What a slot with a pattern says about its place after some pieces: where it starts,
that the pattern is the one of the first table entry with its name, and which occurrence
of that name it is. -/
structure SlotAt (table : List Parameter) (before : List Piece) (s : Slot) (pattern : String) :
    Prop where
  start : s.start = byteLength (before.flatMap Piece.written)
  entry : table.find? (·.name == s.name) = some ⟨s.name, pattern⟩
  occurrence :
    s.occurrence = ((slotsOf before).map (·.name)).count s.name + 1
  group : s.group = groupName s.name s.occurrence

/-- A slot notes where its token stands, the first entry with its name, and how many slots of its
name came before. -/
theorem Lexed.slot_split {table : List Parameter} {start : Nat} {cs : List Char} {ts : List Token}
    (h : Lexed table start cs ts) {seen : List String} {before after : List Piece} {s : Slot}
    {pattern : String} (hSplit : piecesFrom table seen ts = before ++ .slot s pattern :: after) :
    s.start = start + byteLength (before.flatMap Piece.written) ∧
      table.find? (·.name == s.name) = some ⟨s.name, pattern⟩ ∧
      s.occurrence = seen.count s.name + ((slotsOf before).map (·.name)).count s.name + 1 ∧
      s.group = groupName s.name s.occurrence := by
  -- token by token: what stands before the slot grows, and so do the names that were seen
  induction h generalizing seen before with
  | nil => simp [piecesFrom] at hSplit
  | literal _ _ _ _ ih =>
    rw [piecesFrom] at hSplit
    cases before with
    | nil => cases hSplit
    | cons b before =>
      rw [List.cons_append, List.cons.injEq] at hSplit
      obtain ⟨rfl, hSplit⟩ := hSplit
      rw [List.flatMap_cons, byteLength_append, ← Nat.add_assoc]
      exact ih hSplit
  | @placeholder start index p cs ts hFound _ ih =>
    rw [piecesFrom_placeholder (keywordAt?_eq_some_iff.mp hFound).1] at hSplit
    cases before with
    | nil =>
      rw [List.nil_append, List.cons.injEq, Piece.slot.injEq] at hSplit
      obtain ⟨⟨rfl, rfl⟩, -⟩ := hSplit
      exact ⟨rfl, find?_name_of_keywordAt? hFound, rfl, rfl⟩
    | cons b before =>
      rw [List.cons_append, List.cons.injEq] at hSplit
      obtain ⟨rfl, hSplit⟩ := hSplit
      obtain ⟨hStart, hEntry, hCount, hGroup⟩ := ih hSplit
      -- the slot in front is counted among those seen, or among those before
      refine ⟨?_, hEntry, ?_, hGroup⟩
      · rw [List.flatMap_cons, byteLength_append, ← Nat.add_assoc]
        exact hStart
      · show s.occurrence =
          seen.count s.name + (p.name :: (slotsOf before).map (·.name)).count s.name + 1
        rw [hCount, List.count_cons, List.count_cons]
        omega

/-- Each slot of a template notes where it stands. -/
theorem slotAt_of_pieces {table : List Parameter} {template : String} {before after : List Piece}
    {s : Slot} {pattern : String}
    (h : pieces table template = before ++ .slot s pattern :: after) :
    SlotAt table before s pattern := by
  obtain ⟨hStart, hEntry, hCount, hGroup⟩ := (lexed_tokens table template).slot_split h
  rw [Nat.zero_add] at hStart
  rw [List.count_nil, Nat.zero_add] at hCount
  exact ⟨hStart, hEntry, hCount, hGroup⟩

-- ---------------------------------------------------------------------------
-- Counting
-- ---------------------------------------------------------------------------

section Counting

variable {table : List Parameter} {start : Nat} {cs : List Char} {ts : List Token}

/-- Later slots of a name have higher numbers. -/
theorem Lexed.count_lt_occurrence (h : Lexed table start cs ts) {seen : List String} {s : Slot}
    (hs : s ∈ slotsOf (piecesFrom table seen ts)) :
    seen.count s.name < s.occurrence ∧ s.group = groupName s.name s.occurrence := by
  obtain ⟨before, pattern, after, hSplit⟩ := exists_piece_of_mem_slotsOf hs
  obtain ⟨-, -, hCount, hGroup⟩ := h.slot_split hSplit
  exact ⟨by omega, hGroup⟩

/-- No two slots have the same group. -/
theorem Lexed.nodup_groups (h : Lexed table start cs ts) (seen : List String) :
    ((slotsOf (piecesFrom table seen ts)).map (·.group)).Nodup := by
  induction h generalizing seen with
  | nil => exact List.nodup_nil
  | literal _ _ _ _ ih => exact ih seen
  | @placeholder start index p cs ts hFound hRest ih =>
    rw [piecesFrom_placeholder (keywordAt?_eq_some_iff.mp hFound).1, slotsOf_slot, List.map_cons,
      List.nodup_cons]
    refine ⟨?_, ih (p.name :: seen)⟩
    intro hMem
    obtain ⟨s, hs, hGroup⟩ := List.mem_map.mp hMem
    obtain ⟨hlt, hName⟩ := hRest.count_lt_occurrence hs
    rw [hName] at hGroup
    obtain ⟨hName, hOcc⟩ := groupName_inj hGroup
    rw [hName, List.count_cons_self] at hlt
    omega

end Counting

/-- No two slots of a template share a group. -/
theorem nodup_groups (table : List Parameter) (template : String) :
    ((slotsOf (pieces table template)).map (·.group)).Nodup :=
  (lexed_tokens table template).nodup_groups []

/-- There are no more slots than characters in the template. -/
theorem length_slotsOf_le (ps : List Piece) :
    (slotsOf ps).length ≤ (ps.flatMap Piece.written).length := by
  induction ps with
  | nil => exact Nat.le_refl _
  | cons p ps ih =>
    rw [List.flatMap_cons, List.length_append]
    cases p with
    | literal text =>
      rw [slotsOf_literal]
      omega
    | slot s pattern =>
      have hKey : (Piece.slot s pattern).written.length = s.name.toList.length + 2 :=
        length_keywordCharacters _
      rw [slotsOf_slot, List.length_cons]
      omega

/-- The number of a slot is at most the number of bytes of its template. -/
theorem occurrence_le_byteLength {table : List Parameter} {template : String}
    {before after : List Piece} {s : Slot} {pattern : String}
    (h : pieces table template = before ++ .slot s pattern :: after) :
    s.occurrence ≤ template.utf8ByteSize := by
  have hSlot := slotAt_of_pieces h
  have hCount := List.count_le_length (a := s.name)
    (l := (slotsOf before).map (·.name))
  rw [List.length_map] at hCount
  have hBefore := length_slotsOf_le before
  have hKey : (Piece.slot s pattern).written.length = s.name.toList.length + 2 :=
    length_keywordCharacters _
  have hTemplate : template.toList.length ≤ template.utf8ByteSize := by
    have hle := length_le_byteLength template.toList
    rwa [byteLength, String.ofList_toList] at hle
  have hWhole := congrArg List.length (written_pieces table template)
  rw [h, List.flatMap_append, List.flatMap_cons, List.length_append, List.length_append] at hWhole
  rw [hSlot.occurrence]
  omega

end TypedSteps
