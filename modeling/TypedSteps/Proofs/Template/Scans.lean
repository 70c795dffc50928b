import TypedSteps.Proofs.Regex.AllMatches
import TypedSteps.Proofs.Template.Instances

/-!
# A template is found from left to right

The matches of a template's pattern are a plain scan of the text: the leftmost instance is taken,
then the leftmost instance behind it, and so on until there is none.

* `Opens`, `NothingOpens`, `Scans` — what is taken from a text from left to right;
* `Scans.first`, `Scans.eq_nil` — how a scan begins and where it ends;
* `begins_iff_opens` — matches begin where instances do;
* `scans_allMatches` — the matches of a template are such a scan.
-/

namespace TypedSteps

-- ---------------------------------------------------------------------------
-- Scans
-- ---------------------------------------------------------------------------

section Scans

variable {α : Type} (spell : α → List Char) (Found : List Char → α → List Char → Prop)

/-- Something that may be found between two texts begins a text behind another. -/
def Opens (before rest : List Char) : Prop :=
  ∃ x after, rest = spell x ++ after ∧ Found before x after

/-- Nothing that may be found begins in a gap between two texts. -/
def NothingOpens (before gap after : List Char) : Prop :=
  ∀ xs ys, gap = xs ++ ys → ys ≠ [] → ¬ Opens spell Found (before ++ xs) (ys ++ after)

/-- What is taken from a text from left to right: each time the leftmost that there is in what is
left, where something with the property `Kept` is left behind it; and after the last there is no
more. -/
def Scans (Kept : List Char → Prop) : List Char → List Char → List α → Prop
  | before, rest, [] => ∀ gap tail, rest = gap ++ tail → ¬ Opens spell Found (before ++ gap) tail
  | before, rest, x :: xs =>
    ∃ gap after, rest = gap ++ spell x ++ after ∧ Found (before ++ gap) x after ∧ Kept after ∧
      NothingOpens spell Found before gap (spell x ++ after) ∧
      Scans Kept (before ++ gap ++ spell x) after xs

end Scans

section Scans

variable {α : Type} {spell : α → List Char} {Found : List Char → α → List Char → Prop}
  {Kept : List Char → Prop} {before rest : List Char} {xs : List α}

/-- What is taken is something that may be found. -/
theorem Scans.found (h : Scans spell Found Kept before rest xs) :
    ∀ x ∈ xs, ∃ left right, Found left x right := by
  induction xs generalizing before rest with
  | nil => exact List.forall_mem_nil _
  | cons x xs ih =>
    obtain ⟨gap, after, -, hFound, -, -, hRest⟩ := h
    exact List.forall_mem_cons.mpr ⟨⟨_, _, hFound⟩, ih hRest⟩

/-- A scan that takes nothing found no place where anything begins. -/
theorem nothingOpens_of_scans_nil (h : Scans spell Found Kept before rest []) :
    NothingOpens spell Found before rest [] := by
  intro xs ys hRest _
  rw [List.append_nil]
  exact h xs ys hRest

/-- Where something opens at once, nothing is left out before what is taken first. -/
theorem Scans.first (h : Scans spell Found Kept before rest xs)
    (hOpens : Opens spell Found before rest) :
    ∃ x ys after, xs = x :: ys ∧ rest = spell x ++ after ∧ Found before x after ∧ Kept after ∧
      Scans spell Found Kept (before ++ spell x) after ys := by
  cases xs with
  | nil =>
    refine absurd hOpens ?_
    have hNone := h [] rest rfl
    rwa [List.append_nil] at hNone
  | cons x ys =>
    obtain ⟨gap, after, hRest, hFound, hKept, hLeft, hScans⟩ := h
    have hGap : gap = [] := by
      refine Classical.byContradiction fun hne => hLeft [] gap rfl hne ?_
      rwa [← List.append_assoc, ← hRest, List.append_nil]
    subst hGap
    rw [List.append_nil] at hFound hScans
    exact ⟨x, ys, after, rfl, hRest, hFound, hKept, hScans⟩

/-- Where nothing is left nothing is taken, if all that may be found has characters. -/
theorem Scans.eq_nil (h : Scans spell Found Kept before [] xs)
    (hNonempty : ∀ {before x after}, Found before x after → spell x ≠ []) : xs = [] := by
  cases xs with
  | nil => rfl
  | cons x xs =>
    obtain ⟨gap, after, hRest, hFound, -⟩ := h
    have hEmpty := (List.append_eq_nil_iff.mp hRest.symm).1
    exact absurd (List.append_eq_nil_iff.mp hEmpty).2 (hNonempty hFound)

/-- The texts of what is taken are taken themselves. -/
theorem Scans.texts {language : SlotLanguage}
    (hText : ∀ before v after, (∃ x, spell x = v ∧ Found before x after) ↔ language before v after)
    (h : Scans spell Found Kept before rest xs) :
    Scans id language Kept before rest (xs.map spell) := by
  have hOpens (before rest : List Char) :
      Opens id language before rest ↔ Opens spell Found before rest := by
    constructor
    · rintro ⟨v, after, rfl, hv⟩
      obtain ⟨x, rfl, hx⟩ := (hText before v after).mpr hv
      exact ⟨x, after, rfl, hx⟩
    · rintro ⟨x, after, rfl, hx⟩
      exact ⟨spell x, after, rfl, (hText before _ after).mp ⟨x, rfl, hx⟩⟩
  induction xs generalizing before rest with
  | nil =>
    intro gap tail hRest hOpen
    exact h gap tail hRest ((hOpens _ _).mp hOpen)
  | cons x xs ih =>
    obtain ⟨gap, after, hRest, hFound, hKept, hLeft, hScans⟩ := h
    refine ⟨gap, after, hRest, (hText _ _ _).mp ⟨x, rfl, hFound⟩, hKept, ?_, ih hScans⟩
    intro ys zs hGap hzs hOpen
    exact hLeft ys zs hGap hzs ((hOpens _ _).mp hOpen)

end Scans

-- ---------------------------------------------------------------------------
-- Matches
-- ---------------------------------------------------------------------------

section Matches

variable {table : List Parameter} {template : String} {language : String → SlotLanguage}
  {text : Array Char}

/-- A stretch of the text after a position leads to a later position. -/
theorem stands_of_drop {start : Nat} {xs ys : List Char} (h : text.toList.drop start = xs ++ ys) :
    Stands text start (start + xs.length) xs ∧ text.toList.drop (start + xs.length) = ys := by
  have hDrop : text.toList.drop (start + xs.length) = ys := by
    rw [← List.drop_drop, h, List.drop_left]
  exact ⟨⟨by rw [hDrop, h], rfl⟩, hDrop⟩

/-- Between two positions stands a stretch of the text. -/
theorem exists_stands {start i : Nat} (hStart : start ≤ i) (hSize : i ≤ text.size) :
    ∃ gap, Stands text start i gap := by
  have hDrop : (text.toList.drop start).drop (i - start) = text.toList.drop i := by
    rw [List.drop_drop, Nat.add_sub_cancel' hStart]
  refine ⟨(text.toList.drop start).take (i - start), ?_, ?_⟩
  · rw [← hDrop, List.take_append_drop]
  · rw [List.length_take, List.length_drop, Array.length_toList]
    omega

/-- A match of a template's pattern begins where an instance does. -/
theorem begins_iff_opens
    (h : ∀ s pattern, .slot s pattern ∈ pieces table template →
      Captures (language s.name) pattern) {i : Nat} :
    (templateRegex table template).Begins text i ↔
      Opens (fill (pieces table template))
        (fun before vs after => Fits language before (pieces table template) vs after)
        (text.toList.take i) (text.toList.drop i) := by
  constructor
  · rintro ⟨j, w, hMeaning⟩
    obtain ⟨vs, hFits, hStands, -⟩ := (meaning_templateRegex h).mp hMeaning
    exact ⟨vs, text.toList.drop j, hStands.1, hFits⟩
  · rintro ⟨vs, after, hRest, hFits⟩
    obtain ⟨hStands, hAfter⟩ := stands_of_drop hRest
    rw [← hAfter] at hFits
    exact ⟨_, _, (meaning_templateRegex h).mpr ⟨vs, hFits, hStands, rfl⟩⟩

/-- The matches from a position on are a scan of the rest of the text, and their captures are the
texts of its instances. -/
theorem scans_of_finds {Kept : List Char → Prop}
    (h : ∀ s pattern, .slot s pattern ∈ pieces table template →
      Captures (language s.name) pattern)
    (hKept : ∀ {i j w},
      ((templateRegex table template).choice text).first (fun _ => True) i j w →
        Kept (text.toList.drop j)) {start : Nat} (hStart : start ≤ text.size) {ms : List Match}
    (hms : Finds (templateRegex table template) text start ms) :
    ∃ vss, Scans (fill (pieces table template))
        (fun before vs after => Fits language before (pieces table template) vs after) Kept
        (text.toList.take start) (text.toList.drop start) vss ∧
      ms.flatMap ((templatePattern table template).capturesOf text) =
        vss.flatMap (capturesOfTexts (slotsOf (pieces table template))) := by
  -- each match leaves the rest of the text to the following ones
  induction ms generalizing start with
  | nil =>
    refine ⟨[], ?_, rfl⟩
    intro gap tail hRest hOpens
    obtain ⟨hGap, hTail⟩ := stands_of_drop hRest
    rw [← hTail, ← hGap.take] at hOpens
    have hLength := congrArg List.length hRest
    rw [List.length_drop, List.length_append, Array.length_toList] at hLength
    exact hms _ (Nat.le_add_right _ _) (by omega) ((begins_iff_opens h).mpr hOpens)
  | cons m ms ih =>
    obtain ⟨i, j, w, hle, hSize, hLeft, hFirst, hSlots, hRest⟩ := hms
    have hCan := ((templateRegex table template).choice text).sound hFirst
    rw [Regex.can_choice] at hCan
    obtain ⟨vs, hFits, hStands, rfl⟩ := (meaning_templateRegex h).mp hCan.1
    -- the gap before the match, its instance, and the text behind it
    obtain ⟨gap, hGap⟩ := exists_stands hle hSize
    have hj : j ≤ text.size := by
      obtain ⟨-, hBound⟩ := Regex.meaning_bounds hCan.1
      omega
    obtain ⟨vss, hScans, hCaptures⟩ := ih hj hRest
    refine ⟨vs :: vss, ⟨gap, text.toList.drop j, ?_, ?_, hKept hFirst, ?_, ?_⟩, ?_⟩
    · rw [hGap.1, hStands.1, List.append_assoc]
    · rwa [← hGap.take]
    · rintro xs ys rfl hys hOpens
      obtain ⟨k, hxs, hys'⟩ := stands_append.mp hGap
      have hlt : k < i := by
        have hPos := List.length_pos_iff.mpr hys
        rw [hys'.2]
        omega
      -- a place in the gap is one from which there is no match
      have hBetween : ys ++ (fill (pieces table template) vs ++ text.toList.drop j) =
          text.toList.drop k := by
        rw [hys'.1, hStands.1]
      rw [hBetween, ← hxs.take] at hOpens
      have hk : start ≤ k := by
        rw [hxs.2]
        exact Nat.le_add_right _ _
      exact hLeft k hk hlt ((begins_iff_opens h).mpr hOpens)
    · rwa [← hGap.take, ← hStands.take]
    · rw [List.flatMap_cons, List.flatMap_cons, hCaptures,
        capturesOf_match hFits.length hStands hSlots]

/-- The loops of a template's pattern are those of the patterns in its slots. -/
theorem loopsConsume_templateRegex
    (h : ∀ s pattern, .slot s pattern ∈ pieces table template →
      (bodyLevel pattern).close.regex.loopsConsume = true) :
    (templateRegex table template).loopsConsume = true := by
  -- the indices of the groups do not matter to the loops
  have hPieces (index : Nat) (ps : List Piece)
      (hps : ∀ s pattern, .slot s pattern ∈ ps →
        (bodyLevel pattern).close.regex.loopsConsume = true) :
      ∀ r ∈ pieceRegexes index ps, r.loopsConsume = true := by
    induction ps generalizing index with
    | nil => exact List.forall_mem_nil _
    | cons p ps ih =>
      have ih := fun index => ih index fun s pattern hs => hps s pattern (List.mem_cons_of_mem _ hs)
      cases p with
      | literal cs =>
        rw [pieceRegexes, List.forall_mem_append, List.forall_mem_map]
        exact ⟨fun c _ => rfl, ih index⟩
      | slot s pattern =>
        rw [pieceRegexes, List.forall_mem_cons]
        refine ⟨?_, ih (index + 1)⟩
        rw [Regex.loopsConsume, Regex.loopsConsume_concat, List.forall_mem_singleton]
        exact hps s pattern List.mem_cons_self
  rw [templateRegex, Regex.loopsConsume_concat]
  exact hPieces 1 _ h

/-- **The matches of a template** whose instances are not empty are a scan of the text from left
to right, and the captures are the texts of the instances. -/
theorem scans_allMatches {Kept : List Char → Prop}
    (h : ∀ s pattern, .slot s pattern ∈ pieces table template →
      Captures (language s.name) pattern)
    (hLoops : ∀ s pattern, .slot s pattern ∈ pieces table template →
      (bodyLevel pattern).close.regex.loopsConsume = true)
    (hNonempty : ∀ {before vs after},
      Fits language before (pieces table template) vs after →
        fill (pieces table template) vs ≠ []) {text : String}
    (hKept : ∀ {i j w},
      ((templateRegex table template).choice text.toList.toArray).first (fun _ => True) i j w →
        Kept (text.toList.drop j)) :
    ∃ vss, Scans (fill (pieces table template))
        (fun before vs after => Fits language before (pieces table template) vs after) Kept []
        text.toList vss ∧
      (templatePattern table template).captures text =
        vss.flatMap (capturesOfTexts (slotsOf (pieces table template))) := by
  have hAdvances : ∀ {i j w},
      (templateRegex table template).meaning text.toList.toArray i j w → i < j := by
    intro i j w hMeaning
    obtain ⟨vs, hFits, hStands, -⟩ := (meaning_templateRegex h).mp hMeaning
    have hPos := List.length_pos_iff.mpr (hNonempty hFits)
    rw [hStands.2]
    omega
  exact scans_of_finds h hKept (Nat.zero_le _)
    (finds_allMatches (loopsConsume_templateRegex hLoops) hAdvances)

end Matches

end TypedSteps
