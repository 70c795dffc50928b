import TypedSteps.Proofs.Builtin.Shapes
import TypedSteps.Proofs.Regex.Search

/-!
# Whole texts of the built-in types

Between `^` and `$` the pattern of a built-in type matches a text only as a whole, and then
the text is one that the type stands for.

* `Builtin.wholePattern`, `Builtin.MatchesWhole` — the pattern between anchors;
* `matchesWhole_iff` — it matches just the texts of the type.
-/

namespace TypedSteps

/-- The pattern of a built-in type, anchored to the ends of the text. -/
def Builtin.wholePattern (b : Builtin) : Except SyntaxError Pattern :=
  Pattern.ofSource ("^(?:" ++ b.pattern ++ ")$")

/-- The pattern of a built-in type matches a text in full. -/
def Builtin.MatchesWhole (b : Builtin) (text : String) : Prop :=
  ∃ p, b.wholePattern = .ok p ∧ p.isMatch text = true

/-- The expression of a type between the assertions that the text begins and ends. -/
def Builtin.wholeRegex (b : Builtin) : Regex :=
  .concat [.look .textStart, b.regex, .look .textEnd]

/-- The anchored pattern of a type is read as the anchored expression. -/
theorem wholePattern_eq (b : Builtin) :
    b.wholePattern = .ok ⟨b.wholeRegex, [], b.wholeRegex.program⟩ := by
  generalize hLevel : ((Level.empty.push (.look .textStart) 0).push
    (bodyLevel b.pattern).close.regex ((bodyLevel b.pattern).close.depth + 1)).push
      (.look .textEnd) 0 = level
  -- the anchors stand around the body in a group of its own
  have hRun : Reading.start.run 0 ("^(?:" ++ b.pattern ++ ")$").toList =
      .ok (Reading.outside level [] []) := by
    have hCharacters : ("^(?:" ++ b.pattern ++ ")$").toList =
        '^' :: '(' :: '?' :: ':' :: (b.pattern.toList ++ ')' :: ['$']) := by
      simp only [String.toList_append, List.append_assoc]
      rfl
    rw [hCharacters, ← hLevel]
    show (Reading.outside (Level.empty.push (.look .textStart) 0) [] []).run 0 _ = _
    rw [run_openPlain, (embeds_builtin b).run]
    rfl
  have hRegex : level.close.regex = b.wholeRegex := by
    rw [← hLevel, Builtin.wholeRegex, ← regex_bodyLevel]
    rfl
  -- the body nests one deeper for its group, and the sequence adds another level
  have hDepth : ¬ nestLimit < level.close.depth := by
    have hBody := (embeds_builtin b).depth
    have hBound : level.close.depth ≤ 101 + 2 := by
      rw [← hLevel]
      refine depth_close_le ?_ ?_
      · intro item hItem
        simp only [Level.push, Level.empty, List.mem_cons, List.not_mem_nil, or_false] at hItem
        rcases hItem with rfl | rfl | rfl
        · exact Nat.zero_le _
        · exact Nat.succ_le_succ hBody
        · exact Nat.zero_le _
      · intro branch hBranch
        cases hBranch
    exact Nat.not_lt.mpr (Nat.le_trans hBound (by decide))
  rw [Builtin.wholePattern, Pattern.ofSource, Regex.read, hRun]
  simp only [Reading.finish, Reading.outside, List.isEmpty_nil, Bool.not_true, Bool.false_eq_true,
    if_false, hDepth, hRegex, List.reverse_nil]

/-- The anchored expression matches the whole of a text that the type stands for. -/
theorem meaning_wholeRegex (b : Builtin) {text : Array Char} {i j : Nat} {w : Slots}
    (hi : i ≤ text.size) :
    b.wholeRegex.meaning text i j w ↔
      i = 0 ∧ j = text.size ∧ w = [] ∧ b.Shape text.toList := by
  -- the two anchors hold at the ends of the text
  have hStart : Look.textStart.holds (charBefore text i) text[i]? = true ↔ i = 0 := by
    rw [Look.holds, Option.isNone_iff_eq_none, charBefore]
    by_cases hZero : i = 0
    · rw [if_pos hZero]
      exact iff_of_true rfl hZero
    · rw [if_neg hZero, Array.getElem?_eq_none_iff]
      omega
  have hEnd : Look.textEnd.holds (charBefore text j) text[j]? = true ↔ text.size ≤ j := by
    rw [Look.holds, Option.isNone_iff_eq_none, Array.getElem?_eq_none_iff]
  rw [Builtin.wholeRegex, Regex.meaning_concat]
  show Meaning.seq (.check _) (Meaning.seq (b.regex.meaning text)
    (Meaning.seq (.check _) .skip)) i j w ↔ _
  rw [Meaning.seq_skip, Meaning.check_seq_check_iff, meaning_builtin, hStart, hEnd]
  constructor
  · rintro ⟨rfl, ⟨rfl, v, ⟨hText, hj⟩, hShape, -⟩, hSize⟩
    rw [List.drop_zero, List.drop_eq_nil_of_le (by rwa [Array.length_toList]), List.append_nil]
      at hText
    rw [Nat.zero_add, ← hText, Array.length_toList] at hj
    rw [← hText] at hShape
    exact ⟨rfl, hj, rfl, hShape⟩
  · rintro ⟨rfl, rfl, rfl, hShape⟩
    -- nothing stands around a match of the whole text, so that no word touches it
    have hNil : text.toList.drop text.size = [] :=
      List.drop_eq_nil_of_le (Nat.le_of_eq Array.length_toList)
    refine ⟨rfl, ⟨rfl, text.toList, ⟨?_, ?_⟩, hShape, fun _ => ?_⟩, Nat.le_refl _⟩
    · rw [hNil, List.append_nil, List.drop_zero]
    · rw [Nat.zero_add, Array.length_toList]
    · rw [hNil, List.take_zero]
      constructor
      · intro c hc
        cases hc
      · intro c hc
        cases hc

/-- The anchored pattern of a built-in type matches just the texts that the type stands for. -/
theorem matchesWhole_iff (b : Builtin) (text : String) :
    b.MatchesWhole text ↔ b.Shape text.toList := by
  have hMatch : (⟨b.wholeRegex, [], b.wholeRegex.program⟩ : Pattern).isMatch text = true ↔
      b.Shape text.toList := by
    rw [Pattern.isMatch]
    constructor
    · intro h
      obtain ⟨m, hm⟩ := Option.isSome_iff_exists.mp h
      obtain ⟨i, j, w, -, hi, hMeaning, -⟩ := find_program_eq_some hm
      exact ((meaning_wholeRegex b hi).mp hMeaning).2.2.2
    · intro hShape
      cases hFind : b.wholeRegex.program.find text.toList.toArray 0 with
      | some m => rfl
      | none =>
        have hMeaning := (meaning_wholeRegex b (Nat.zero_le _)).mpr ⟨rfl, rfl, rfl, hShape⟩
        exact absurd hMeaning (find_program_eq_none hFind (Nat.le_refl 0) (Nat.zero_le _))
  rw [← hMatch, Builtin.MatchesWhole, wholePattern_eq]
  constructor
  · rintro ⟨p, hp, h⟩
    rwa [Except.ok.inj hp]
  · exact fun h => ⟨_, rfl, h⟩

end TypedSteps
