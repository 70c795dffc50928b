import TypedSteps.Proofs.Regex.Search
import TypedSteps.Proofs.Template.Reading

/-!
# Instances of templates

An instance of a template is what becomes of it when each keyword is replaced by a text.
The pattern of a template finds the instances whose texts are the right ones for their
types, and the texts are what its groups capture.

* `fill` — a template with texts in place of its keywords;
* `SlotLanguage`, `Fits` — texts that are right for the types of their slots;
* `meaning_templateRegex` — a match of the pattern is an instance;
* `capturesOf_match` — the captures of a match are the texts of the instance;
* `instances_matchesFrom`, `captures_matchesFrom` — the captures of all matches;
* `exists_of_getElem?_captures` — which slot a capture belongs to.
-/

namespace TypedSteps

-- ---------------------------------------------------------------------------
-- Filling a template
-- ---------------------------------------------------------------------------

/-- The pieces of a template, its slots replaced from left to right by texts. -/
def fill : List Piece → List (List Char) → List Char
  | [], _ => []
  | .literal cs :: ps, vs => cs ++ fill ps vs
  | .slot _ _ :: _, [] => []
  | .slot _ _ :: ps, v :: vs => v ++ fill ps vs

/-- The keywords in place of the slots give the template back. -/
theorem fill_keywords (table : List Parameter) (template : String) :
    fill (pieces table template)
        ((slotsOf (pieces table template)).map fun s => keywordCharacters s.name.toList) =
      template.toList := by
  have hFill (ps : List Piece) :
      fill ps ((slotsOf ps).map fun s => keywordCharacters s.name.toList) =
        ps.flatMap Piece.written := by
    induction ps with
    | nil => rfl
    | cons p ps ih =>
      rw [List.flatMap_cons, ← ih]
      cases p with
      | literal cs => rfl
      | slot s pattern => rfl
  rw [hFill, written_pieces]

/-- Without slots there is nothing to fill in. -/
theorem fill_of_slotsOf_eq_nil {ps : List Piece} (h : slotsOf ps = []) (vs : List (List Char)) :
    fill ps vs = ps.flatMap Piece.written := by
  induction ps with
  | nil => rfl
  | cons p ps ih =>
    cases p with
    | literal cs =>
      rw [List.flatMap_cons, ← ih h]
      rfl
    | slot s pattern => cases h

/-- The texts that may stand between two others. -/
abbrev SlotLanguage := List Char → List Char → List Char → Prop

/-- The texts in place of the slots are admitted by the languages of the slots, each between
what stands before it and what stands after it. -/
def Fits (language : String → SlotLanguage) :
    List Char → List Piece → List (List Char) → List Char → Prop
  | _, [], vs, _ => vs = []
  | before, .literal cs :: ps, vs, after => Fits language (before ++ cs) ps vs after
  | _, .slot _ _ :: _, [], _ => False
  | before, .slot s _ :: ps, v :: vs, after =>
    language s.name before v (fill ps vs ++ after) ∧ Fits language (before ++ v) ps vs after

/-- Every slot has its text. -/
theorem Fits.length {language : String → SlotLanguage} {before after : List Char} {ps : List Piece}
    {vs : List (List Char)} (h : Fits language before ps vs after) :
    vs.length = (slotsOf ps).length := by
  induction ps generalizing before vs with
  | nil =>
    obtain rfl : vs = [] := h
    rfl
  | cons p ps ih =>
    cases p with
    | literal cs => exact ih h
    | slot s pattern =>
      cases vs with
      | nil => cases h
      | cons v vs =>
        rw [slotsOf_slot, List.length_cons, List.length_cons, ih h.2]

/-- A text that fits its slot is admitted by the language of the slot. -/
theorem Fits.admits {language : String → SlotLanguage} {before after : List Char} {ps : List Piece}
    {vs : List (List Char)} (h : Fits language before ps vs after) {i : Nat} {s : Slot}
    {v : List Char} (hs : (slotsOf ps)[i]? = some s) (hv : vs[i]? = some v) :
    ∃ left right, language s.name left v right := by
  induction ps generalizing before vs i with
  | nil => cases hs
  | cons p ps ih =>
    cases p with
    | literal cs => exact ih h hs hv
    | slot t pattern =>
      cases vs with
      | nil => cases hv
      | cons u vs =>
        rw [slotsOf_slot] at hs
        cases i with
        | zero =>
          cases hs
          cases hv
          exact ⟨_, _, h.1⟩
        | succ i => exact ih h.2 hs hv

/-- Without slots nothing has to fit. -/
theorem fits_of_slotsOf_eq_nil (language : String → SlotLanguage) {ps : List Piece}
    (h : slotsOf ps = []) (before after : List Char) : Fits language before ps [] after := by
  induction ps generalizing before with
  | nil => rfl
  | cons p ps ih =>
    cases p with
    | literal cs => exact ih h (before ++ cs)
    | slot s pattern => cases h

-- ---------------------------------------------------------------------------
-- Matches
-- ---------------------------------------------------------------------------

/-- What the groups of some pieces save, where `index` is the index of the first group and
`i` the position at which the pieces begin. -/
def saves : Nat → Nat → List Piece → List (List Char) → Slots
  | _, _, [], _ => []
  | index, i, .literal cs :: ps, vs => saves index (i + cs.length) ps vs
  | _, _, .slot _ _ :: _, [] => []
  | index, i, .slot _ _ :: ps, v :: vs =>
    saves (index + 1) (i + v.length) ps vs ++
      [(2 * index + 1, i + v.length), (2 * index, i)]

/-- A pattern matches the texts of a language in their place. -/
def Captures (language : SlotLanguage) (pattern : String) : Prop :=
  ∀ text i j w, (bodyLevel pattern).close.regex.meaning text i j w ↔
    w = [] ∧ ∃ v, Stands text i j v ∧ language (text.toList.take i) v (text.toList.drop j)

/-- What stands before the end of a stretch is what stands before it, and the stretch. -/
theorem Stands.take {text : Array Char} {i j : Nat} {v : List Char} (h : Stands text i j v) :
    text.toList.take j = text.toList.take i ++ v := by
  obtain ⟨h, rfl⟩ := h
  rw [List.take_add, h, List.take_left]

/-- The group of a slot matches a text of the slot's language, and saves where it begins and
ends. -/
theorem meaning_group {language : SlotLanguage} {pattern : String}
    (h : Captures language pattern) {text : Array Char} {index i j : Nat} {w : Slots} :
    (Regex.group index (.concat [(bodyLevel pattern).close.regex])).meaning text i j w ↔
      ∃ v, Stands text i j v ∧ language (text.toList.take i) v (text.toList.drop j) ∧
        w = [(2 * index + 1, j), (2 * index, i)] := by
  rw [Regex.meaning, Regex.meaning_concat, Regex.meaningAll_singleton, Meaning.save_seq_save_iff]
  constructor
  · intro hGroup
    obtain ⟨u, hBody, hw⟩ := hGroup
    obtain ⟨rfl, v, hv, hLanguage⟩ := (h text i j u).mp hBody
    exact ⟨v, hv, hLanguage, hw⟩
  · intro hText
    obtain ⟨v, hv, hLanguage, hw⟩ := hText
    exact ⟨[], (h text i j []).mpr ⟨rfl, v, hv, hLanguage⟩, hw⟩

/-- Pieces match where the texts of an instance stand, and save where these begin and end. -/
theorem meaning_pieceRegexes {language : String → SlotLanguage} {ps : List Piece}
    (h : ∀ s pattern, .slot s pattern ∈ ps → Captures (language s.name) pattern)
    {text : Array Char} {index i j : Nat} {w : Slots} :
    Regex.meaningAll text (pieceRegexes index ps) i j w ↔
      ∃ vs, Fits language (text.toList.take i) ps vs (text.toList.drop j) ∧
        Stands text i j (fill ps vs) ∧ w = saves index i ps vs := by
  -- the pieces are matched from left to right, so what is before each of them is in the text
  induction ps generalizing index i w with
  | nil =>
    constructor
    · rintro ⟨hj, hw⟩
      exact ⟨[], rfl, stands_nil.mpr hj, hw⟩
    · rintro ⟨vs, -, hStands, hw⟩
      exact ⟨stands_nil.mp hStands, hw⟩
  | cons p ps ih =>
    have ih := @ih fun s pattern hs => h s pattern (List.mem_cons_of_mem _ hs)
    cases p with
    | literal cs =>
      rw [pieceRegexes, Regex.meaningAll_append]
      constructor
      · rintro ⟨k, u, v, hcs, hRest, rfl⟩
        -- literal text stands there itself and saves nothing
        obtain ⟨rfl, x, hx, rfl⟩ := (spells_literal _ i k u).mp hcs
        obtain ⟨vs, hFits, hStands, rfl⟩ := ih.mp hRest
        refine ⟨vs, ?_, stands_append.mpr ⟨k, hx, hStands⟩, ?_⟩
        · rwa [hx.take] at hFits
        · rw [List.append_nil, hx.2]
          rfl
      · rintro ⟨vs, hFits, hStands, rfl⟩
        obtain ⟨k, hx, hStands⟩ := stands_append.mp hStands
        refine ⟨k, [], saves index k ps vs, ?_, ?_, ?_⟩
        · exact (spells_literal cs i k []).mpr ⟨rfl, cs, hx, rfl⟩
        · refine ih.mpr ⟨vs, ?_, hStands, rfl⟩
          rw [hx.take]
          exact hFits
        · rw [List.append_nil, hx.2]
          rfl
    | slot s pattern =>
      have hPattern := h s pattern List.mem_cons_self
      rw [pieceRegexes, Regex.meaningAll_cons]
      constructor
      · rintro ⟨k, u, v, hGroup, hRest, rfl⟩
        -- the group captures some text of its language, which fills the slot
        obtain ⟨x, hx, hLanguage, rfl⟩ := (meaning_group hPattern).mp hGroup
        obtain ⟨vs, hFits, hStands, rfl⟩ := ih.mp hRest
        refine ⟨x :: vs, ⟨?_, ?_⟩, stands_append.mpr ⟨k, hx, hStands⟩, ?_⟩
        · rwa [← hStands.1]
        · rwa [hx.take] at hFits
        · rw [hx.2]
          rfl
      · rintro ⟨vs, hFits, hStands, rfl⟩
        cases vs with
        | nil => cases hFits
        | cons x vs =>
          obtain ⟨k, hx, hStands⟩ := stands_append.mp hStands
          obtain ⟨hLanguage, hFits⟩ := hFits
          -- what may follow the slot is the text behind it, the later pieces included
          rw [← hStands.1] at hLanguage
          refine ⟨k, [(2 * index + 1, k), (2 * index, i)], saves (index + 1) k ps vs, ?_, ?_, ?_⟩
          · exact (meaning_group hPattern).mpr ⟨x, hx, hLanguage, rfl⟩
          · refine ih.mpr ⟨vs, ?_, hStands, rfl⟩
            rwa [hx.take]
          · rw [hx.2]
            rfl

-- ---------------------------------------------------------------------------
-- Captures
-- ---------------------------------------------------------------------------

/-- What the groups of some slots capture when the given texts stand in them. -/
def capturesOfTexts (slots : List Slot) (vs : List (List Char)) : List Capture :=
  slots.zipWith (fun s v => ⟨s.group, String.ofList v⟩) vs

/-- A slot is looked up behind entries of other slots. -/
theorem lookup_append_of_ne {k : Nat} {xs ys : Slots} (h : ∀ p ∈ xs, p.1 ≠ k) :
    (xs ++ ys).lookup k = ys.lookup k := by
  have hNone : xs.lookup k = none := by
    rw [List.lookup_eq_none_iff]
    intro p hp
    exact bne_iff_ne.mpr (h p hp).symm
  rw [List.lookup_append, hNone, Option.none_or]

/-- The slots that pieces save belong to their groups. -/
theorem le_of_mem_saves {index i : Nat} {ps : List Piece} {vs : List (List Char)} {p : Nat × Nat}
    (h : p ∈ saves index i ps vs) : 2 * index ≤ p.1 := by
  induction ps generalizing index i vs with
  | nil => cases h
  | cons q ps ih =>
    cases q with
    | literal cs => exact ih h
    | slot s pattern =>
      cases vs with
      | nil => cases h
      | cons v vs =>
        rw [saves, List.mem_append] at h
        rcases h with h | h
        · have hle := ih h
          omega
        · rw [List.mem_cons, List.mem_singleton] at h
          rcases h with rfl | rfl
          · exact Nat.le_succ _
          · exact Nat.le_refl _

/-- The ends of a group are those that were saved last for its index. -/
theorem span?_of_later {newer : Slots} {index : Nat}
    (h : ∀ p ∈ newer, p.1 ≠ 2 * index ∧ p.1 ≠ 2 * index + 1) (i j : Nat) (older : Slots) :
    Match.span? ⟨newer ++ ([(2 * index + 1, j), (2 * index, i)] ++ older)⟩ index =
      some (i, j) := by
  rw [Match.span?, Match.slot?, Match.slot?, lookup_append_of_ne fun p hp => (h p hp).1,
    lookup_append_of_ne fun p hp => (h p hp).2]
  have hOdd : (2 * index == 2 * index + 1) = false := beq_false_of_ne (by omega)
  simp only [List.cons_append, List.nil_append, List.lookup_cons, hOdd, BEq.rfl]

/-- The groups of some pieces captured the texts that stand in their slots. -/
theorem spans_of_saves {text : Array Char} {index i j : Nat} {ps : List Piece}
    {vs : List (List Char)} (hLen : vs.length = (slotsOf ps).length)
    (hStands : Stands text i j (fill ps vs)) {newer : Slots} (hNewer : ∀ p ∈ newer, p.1 < 2 * index)
    (older : Slots) :
    (((slotsOf ps).map (·.group)).zipIdx index).filterMap (fun (name, k) =>
        (Match.span? ⟨newer ++ saves index i ps vs ++ older⟩ k).map fun (a, b) =>
          Capture.mk name (String.ofList (text.extract a b).toList)) =
      capturesOfTexts (slotsOf ps) vs := by
  induction ps generalizing index i vs older with
  | nil => rfl
  | cons p ps ih =>
    cases p with
    | literal cs =>
      obtain ⟨k, hcs, hRest⟩ := stands_append.mp hStands
      obtain ⟨-, rfl⟩ := hcs
      exact ih hLen hRest hNewer older
    | slot s pattern =>
      cases vs with
      | nil => cases hLen
      | cons v vs =>
        obtain ⟨k, hv, hRest⟩ := stands_append.mp hStands
        have hk : k = i + v.length := hv.2
        -- the slots that are saved later belong to groups with other indices
        have hLater : ∀ p ∈ newer ++ saves (index + 1) k ps vs,
            p.1 ≠ 2 * index ∧ p.1 ≠ 2 * index + 1 := by
          intro p hp
          rcases List.mem_append.mp hp with hp | hp
          · have hlt := hNewer p hp
            omega
          · have hle := le_of_mem_saves hp
            omega
        have hSlots : newer ++ saves index i (.slot s pattern :: ps) (v :: vs) ++ older =
            newer ++ saves (index + 1) k ps vs ++
              ([(2 * index + 1, k), (2 * index, i)] ++ older) := by
          rw [saves, ← hk]
          simp only [List.append_assoc]
        rw [hSlots, slotsOf_slot, List.map_cons, List.zipIdx_cons, List.filterMap_cons]
        simp only [span?_of_later hLater, Option.map_some]
        rw [ih (Nat.succ.inj hLen) hRest _ _, hv.extract]
        · rfl
        · intro p hp
          have hlt := hNewer p hp
          omega

-- ---------------------------------------------------------------------------
-- Patterns of templates
-- ---------------------------------------------------------------------------

section Templates

variable {table : List Parameter} {template : String} {language : String → SlotLanguage}
  {text : Array Char}

/-- The named groups of a template are those of its slots, in order. -/
theorem namedGroups_templatePattern (table : List Parameter) (template : String) :
    (templatePattern table template).namedGroups =
      ((slotsOf (pieces table template)).map (·.group)).zipIdx 1 := by
  have hNames (slots : List Slot) (n : Nat) :
      ((slots.map fun s => some s.group).zipIdx n).filterMap
          (fun entry => entry.1.map fun n => (n, entry.2)) =
        (slots.map (·.group)).zipIdx n := by
    induction slots generalizing n with
    | nil => rfl
    | cons s slots ih =>
      rw [List.map_cons, List.zipIdx_cons, List.filterMap_cons, ih]
      rfl
  exact hNames _ 1

/-- A match of the pattern of a template is an instance whose texts fit. -/
theorem meaning_templateRegex
    (h : ∀ s pattern, .slot s pattern ∈ pieces table template →
      Captures (language s.name) pattern) {i j : Nat} {w : Slots} :
    (templateRegex table template).meaning text i j w ↔
      ∃ vs, Fits language (text.toList.take i) (pieces table template) vs
          (text.toList.drop j) ∧
        Stands text i j (fill (pieces table template) vs) ∧
        w = saves 1 i (pieces table template) vs := by
  rw [templateRegex, Regex.meaning_concat, meaning_pieceRegexes h]

/-- The captures of a match are the texts of the instance. -/
theorem capturesOf_match {i j : Nat} {vs : List (List Char)} {m : Match}
    (hLen : vs.length = (slotsOf (pieces table template)).length)
    (hStands : Stands text i j (fill (pieces table template) vs))
    (hm : m.slots = (1, j) :: saves 1 i (pieces table template) vs ++ [(0, i)]) :
    (templatePattern table template).capturesOf text m =
      capturesOfTexts (slotsOf (pieces table template)) vs := by
  obtain ⟨slots⟩ := m
  obtain rfl : slots = [(1, j)] ++ saves 1 i (pieces table template) vs ++ [(0, i)] := hm
  rw [Pattern.capturesOf, namedGroups_templatePattern]
  refine spans_of_saves hLen hStands ?_ _
  intro p hp
  rw [List.mem_singleton.mp hp]
  exact Nat.lt_succ_self 1

/-- A gap before an instance, and the texts of the instance. -/
abbrev Block := List Char × List (List Char)

/-- Matches that follow one another cut the text into gaps and instances whose texts fit, and
their captures are the texts of the instances, one after the other. -/
theorem instances_matchesFrom
    (h : ∀ s pattern, .slot s pattern ∈ pieces table template →
      Captures (language s.name) pattern) {start : Nat} {ms : List Match}
    (hms : MatchesFrom (templateRegex table template) text start ms) :
    ∃ (blocks : List Block) (rest : List Char),
      blocks.length = ms.length ∧
      (∀ block ∈ blocks, ∃ before after,
        Fits language before (pieces table template) block.2 after) ∧
      ms.flatMap ((templatePattern table template).capturesOf text) =
        blocks.flatMap (fun block => capturesOfTexts (slotsOf (pieces table template)) block.2) ∧
      text.toList.drop start =
        blocks.flatMap (fun block => block.1 ++ fill (pieces table template) block.2) ++ rest := by
  induction ms generalizing start with
  | nil => exact ⟨[], text.toList.drop start, rfl, by simp, rfl, rfl⟩
  | cons m ms ih =>
    obtain ⟨i, j, w, hStart, hSize, hMeaning, hSlots, hRest⟩ := hms
    obtain ⟨vs, hFits, hStands, rfl⟩ := (meaning_templateRegex h).mp hMeaning
    obtain ⟨blocks, rest, hCount, hBlocks, hCaptures, hText⟩ := ih hRest
    -- the text between the end of the last match and the beginning of this one
    have hGap : text.toList.drop start =
        (text.toList.drop start).take (i - start) ++ text.toList.drop i := by
      have hDrop : text.toList.drop i = (text.toList.drop start).drop (i - start) := by
        rw [List.drop_drop, Nat.add_sub_cancel' hStart]
      rw [hDrop, List.take_append_drop]
    refine ⟨((text.toList.drop start).take (i - start), vs) :: blocks, rest, ?_, ?_, ?_, ?_⟩
    · rw [List.length_cons, List.length_cons, hCount]
    · exact List.forall_mem_cons.mpr ⟨⟨_, _, hFits⟩, hBlocks⟩
    · rw [List.flatMap_cons, List.flatMap_cons, hCaptures,
        capturesOf_match hFits.length hStands hSlots]
    · -- the gap, the instance, and what follows it
      calc text.toList.drop start
          = (text.toList.drop start).take (i - start) ++ text.toList.drop i := hGap
        _ = (text.toList.drop start).take (i - start) ++
              (fill (pieces table template) vs ++ text.toList.drop j) := by rw [hStands.1]
        _ = _ := by
          rw [hText, List.flatMap_cons]
          simp only [List.append_assoc]

/-- The instances that follow one another have a text for every slot. -/
theorem captures_matchesFrom
    (h : ∀ s pattern, .slot s pattern ∈ pieces table template →
      Captures (language s.name) pattern) {start : Nat} {ms : List Match}
    (hms : MatchesFrom (templateRegex table template) text start ms) :
    ∃ (blocks : List Block) (rest : List Char),
      blocks.length = ms.length ∧
      (∀ block ∈ blocks, block.2.length = (slotsOf (pieces table template)).length) ∧
      ms.flatMap ((templatePattern table template).capturesOf text) =
        blocks.flatMap (fun block => capturesOfTexts (slotsOf (pieces table template)) block.2) ∧
      text.toList.drop start =
        blocks.flatMap (fun block => block.1 ++ fill (pieces table template) block.2) ++ rest := by
  obtain ⟨blocks, rest, hCount, hBlocks, hCaptures, hText⟩ := instances_matchesFrom h hms
  refine ⟨blocks, rest, hCount, ?_, hCaptures, hText⟩
  intro block hBlock
  obtain ⟨before, after, hFits⟩ := hBlocks block hBlock
  exact hFits.length

/-- The captures of blocks go through the slots in rounds. -/
theorem exists_of_getElem?_captures {slots : List Slot} {blocks : List Block}
    (hLengths : ∀ block ∈ blocks, block.2.length = slots.length) {j : Nat} {c : Capture}
    (hc : (blocks.flatMap fun block => capturesOfTexts slots block.2)[j]? = some c) :
    ∃ block ∈ blocks, ∃ s v, slots[j % slots.length]? = some s ∧
      block.2[j % slots.length]? = some v ∧ c = ⟨s.group, String.ofList v⟩ := by
  induction blocks generalizing j with
  | nil => cases hc
  | cons block blocks ih =>
    obtain ⟨hLen, hLengths⟩ := List.forall_mem_cons.mp hLengths
    have hCount : (capturesOfTexts slots block.2).length = slots.length := by
      rw [capturesOfTexts, List.length_zipWith, hLen, Nat.min_self]
    rw [List.flatMap_cons] at hc
    -- the capture belongs to the first block, or to a later one and so many places further left
    by_cases hj : j < slots.length
    · rw [List.getElem?_append_left (by rwa [hCount]), capturesOfTexts,
        List.getElem?_zipWith_eq_some] at hc
      obtain ⟨s, v, hs, hv, rfl⟩ := hc
      rw [Nat.mod_eq_of_lt hj]
      exact ⟨block, List.mem_cons_self, s, v, hs, hv, rfl⟩
    · have hle := Nat.le_of_not_lt hj
      rw [List.getElem?_append_right (by rwa [hCount]), hCount] at hc
      obtain ⟨other, hOther, s, v, hs, hv, rfl⟩ := ih hLengths hc
      rw [← Nat.mod_eq_sub_mod hle] at hs hv
      exact ⟨other, List.mem_cons_of_mem _ hOther, s, v, hs, hv, rfl⟩

end Templates

end TypedSteps
