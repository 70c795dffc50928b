import TypedSteps.Proofs.Template.Slots

/-!
# Slots are numbered for each name

The slots of a template come in the order of their keywords, and those of one name are counted
from one. The names of groups keep name and number apart, so that no two slots share a group,
whatever the names in the table. In the source every slot has a fragment in its own group, between
the literals that stand between the keywords.

* `Lexed.starts_increase` — slots come in the order of the template;
* `Woven`, `woven_piecesFrom` — literals and slots are woven into the source;
* `slots_numbered_per_name` — slots and source of a template.
-/

namespace TypedSteps

/-- The source that some tokens and their slots make up: the text of each literal, escaped or as
it stands, and for each placeholder the pattern of its entry in the group of the next slot. -/
inductive Woven (table : List Parameter) (escape : Bool) :
    List Token → List Slot → List Char → Prop
  | nil : Woven table escape [] [] []
  | literal {text source : List Char} {ts : List Token} {slots : List Slot}
      (hRest : Woven table escape ts slots source) :
      Woven table escape (.literal text :: ts) slots
        ((if escape then escapeCharacters text else text) ++ source)
  | placeholder {s : Slot} {index : Nat} {p : Parameter} {source : List Char} {ts : List Token}
      {slots : List Slot} (hGet : table[index]? = some p) (hName : s.name = p.name)
      (hRest : Woven table escape ts slots source) :
      Woven table escape (.placeholder s.start index :: ts) (s :: slots)
        (("(?P<" ++ s.group ++ ">(?:" ++ p.pattern ++ "))").toList ++ source)

section

variable {table : List Parameter} {start : Nat} {cs : List Char} {ts : List Token}

/-- Slots come in the order of the template, from where the text of their tokens begins. -/
theorem Lexed.starts_increase (h : Lexed table start cs ts) (seen : List String) :
    (slotsOf (piecesFrom table seen ts)).Pairwise (fun s later => s.start < later.start) ∧
      ∀ s ∈ slotsOf (piecesFrom table seen ts), start ≤ s.start := by
  induction h generalizing seen with
  | nil => exact ⟨.nil, fun s hs => absurd hs List.not_mem_nil⟩
  | literal _ _ _ _ ih =>
    rw [piecesFrom, slotsOf_literal]
    obtain ⟨hOrder, hBound⟩ := ih seen
    exact ⟨hOrder, fun s hs => Nat.le_trans (Nat.le_add_right _ _) (hBound s hs)⟩
  | @placeholder start index p cs ts hFound _ ih =>
    rw [piecesFrom_placeholder (keywordAt?_eq_some_iff.mp hFound).1, slotsOf_slot]
    obtain ⟨hOrder, hBound⟩ := ih (p.name :: seen)
    have hWidth : 0 < byteLength (keywordCharacters p.name.toList) := by
      have hle := length_le_byteLength (keywordCharacters p.name.toList)
      rw [length_keywordCharacters] at hle
      omega
    have hLater : ∀ s ∈ slotsOf (piecesFrom table (p.name :: seen) ts), start < s.start := by
      intro s hs
      have hle := hBound s hs
      omega
    refine ⟨List.pairwise_cons.mpr ⟨hLater, hOrder⟩, ?_⟩
    intro s hs
    rcases List.mem_cons.mp hs with rfl | hs
    · exact Nat.le_refl start
    · exact Nat.le_of_lt (hLater s hs)

/-- The pieces for some tokens weave them and their slots into the source. -/
theorem woven_piecesFrom (h : Lexed table start cs ts) (escape : Bool) (seen : List String) :
    Woven table escape ts (slotsOf (piecesFrom table seen ts))
      ((piecesFrom table seen ts).flatMap (·.text escape)) := by
  induction h generalizing seen with
  | nil => exact .nil
  | literal _ _ _ _ ih =>
    rw [piecesFrom, slotsOf_literal, List.flatMap_cons]
    exact .literal (ih seen)
  | @placeholder start index p cs ts hFound _ ih =>
    have hGet := (keywordAt?_eq_some_iff.mp hFound).1
    rw [piecesFrom_placeholder hGet, slotsOf_slot, List.flatMap_cons]
    exact .placeholder (s := ⟨p.name, _, _, start⟩) hGet rfl (ih (p.name :: seen))

end

/-- The number of a slot counts the slots of its name up to it. -/
theorem occurrence_eq_countP {table : List Parameter} {template : String}
    {before after : List Slot} {s : Slot}
    (h : slotsOf (pieces table template) = before ++ s :: after) :
    s.occurrence = (before ++ [s]).countP (·.name == s.name) ∧
      s.group = groupName s.name s.occurrence := by
  obtain ⟨front, pattern, back, hSplit, rfl⟩ := exists_piece_of_slotsOf_eq h
  have hSlot := slotAt_of_pieces hSplit
  have hLast : [s].countP (·.name == s.name) = 1 := by simp
  have hCount : ((slotsOf front).map (·.name)).count s.name =
      (slotsOf front).countP (·.name == s.name) := by
    rw [List.count, List.countP_map]
    rfl
  rw [List.countP_append, hLast, ← hCount]
  exact ⟨hSlot.occurrence, hSlot.group⟩

/-- **Slots are numbered for each name and share no group.** For every table, every template and
either way to write literals: slots come in the order of the template, each is numbered by the
slots of its name up to it, its group is the one of its name and number, and no two slots have the
same group. The source is woven of the template's literals and of one fragment for each slot, in its
group. -/
theorem slots_numbered_per_name (table : List Parameter) (escape : Bool) (template : String) :
    let built := TemplateSource.ofTemplate table escape template
    built.slots.Pairwise (fun s later => s.start < later.start) ∧
    (∀ before s after, built.slots = before ++ s :: after →
      s.occurrence = (before ++ [s]).countP (·.name == s.name) ∧
        s.group = groupName s.name s.occurrence) ∧
    built.slots.Pairwise (fun s other => s.group ≠ other.group) ∧
    Woven table escape (tokens table template) built.slots built.source.toList := by
  intro built
  have hLexed := lexed_tokens table template
  refine ⟨(hLexed.starts_increase []).1, fun before s after => occurrence_eq_countP,
    List.pairwise_map.mp (nodup_groups table template), ?_⟩
  have hSource : built.source.toList = (pieces table template).flatMap (·.text escape) :=
    String.toList_ofList
  rw [hSource]
  exact woven_piecesFrom hLexed escape []

/-- A name may read like the group of another one. -/
example : (TemplateSource.ofTemplate [⟨"a", "x"⟩, ⟨"a_1", "y"⟩] false "{a}{a_1}{a}").slots =
    [⟨"a", 1, "a_1", 0⟩, ⟨"a_1", 1, "a_1_1", 3⟩, ⟨"a", 2, "a_2", 8⟩] := by decide

end TypedSteps
