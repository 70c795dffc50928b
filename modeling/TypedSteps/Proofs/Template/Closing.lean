import TypedSteps.Proofs.Template.Adjacent
import TypedSteps.Proofs.Template.Lexing

/-!
# Literal text and one keyword at the end

A template that is literal text, with no keyword of the registry in it, and behind it the keyword
of a built-in type. In a registry that escapes literal text it is compiled to the characters of the
text and one group, and where the group takes all that stands behind these characters the whole
text is one match.

* `closing`, `pieces_closing`, `compile_closing` — such templates, their pieces and their patterns;
* `first_closing` — how a match ends is how the group does;
* `captures_closing` — the captures of a text that is one match;
* `matchStep_closing` — its value.
-/

namespace TypedSteps

/-- Literal text and behind it the keyword of a built-in type. -/
def closing (p : String) (b : Builtin) : String :=
  p ++ keyword b.name

theorem toList_closing (p : String) (b : Builtin) :
    (closing p b).toList = p.toList ++ keywordCharacters b.name.toList := by
  rw [closing, String.toList_append, keyword, String.toList_ofList]

-- ---------------------------------------------------------------------------
-- Pieces
-- ---------------------------------------------------------------------------

section Pieces

variable {table : List Parameter}

/-- Characters at which no keyword stands become one literal, if there is no other behind them. -/
theorem tokensFrom_keywordFree {text after : List Char} (hSome : text ≠ [])
    (hFree : KeywordFree table text after)
    (hNext : ∀ next other, (tokensFrom table 0 next after).head? ≠ some (.literal other))
    (start : Nat) :
    ∃ next, tokensFrom table 0 start (text ++ after) =
      .literal text :: tokensFrom table 0 next after := by
  induction text generalizing start with
  | nil => exact absurd rfl hSome
  | cons c text ih =>
    have hNone : keywordAt? table (c :: (text ++ after)) = none :=
      hFree (c :: text) List.suffix_rfl (List.cons_ne_nil c text)
    rw [List.cons_append, tokensFrom, hNone]
    dsimp only
    cases text with
    | nil =>
      refine ⟨start + c.utf8Size, ?_⟩
      rw [List.nil_append]
      cases hTokens : tokensFrom table 0 (start + c.utf8Size) after with
      | nil => rfl
      | cons t ts =>
        cases t with
        | placeholder _ _ => rfl
        | literal other => exact absurd (by rw [hTokens]; rfl) (hNext (start + c.utf8Size) other)
    | cons d text =>
      have hRest : KeywordFree table (d :: text) after := fun rest hRest hNonempty =>
        hFree rest (hRest.trans (List.suffix_cons c _)) hNonempty
      obtain ⟨next, hNext⟩ := ih (List.cons_ne_nil d text) hRest (start + c.utf8Size)
      exact ⟨next, by rw [hNext]; rfl⟩

/-- Where no keyword stands in a text none begins in it, whatever keyword follows: names hold no
braces. -/
theorem keywordFree_of_not_infix (hNames : ∀ p ∈ table, IsIdentifier p.name) {text : List Char}
    (hFree : ∀ p ∈ table, ¬ keywordCharacters p.name.toList <:+: text) (name : List Char) :
    KeywordFree table text (keywordCharacters name) := by
  intro rest hRest hNonempty
  rw [keywordAt?_eq_none_iff]
  intro p hp
  rw [Bool.eq_false_iff]
  intro hStands
  have hInside : ¬ keywordCharacters p.name.toList <+: rest := fun hFront =>
    hFree p hp (hFront.isInfix.trans hRest.isInfix)
  have hFront := standsAt_iff.mp hStands
  obtain ⟨tail, hTail⟩ := (List.prefix_or_prefix_of_prefix hFront
    (List.prefix_append rest _)).resolve_left hInside
  -- the part of the keyword behind the text begins with the brace of the keyword that follows
  rw [← hTail, List.prefix_append_right_inj] at hFront
  cases tail with
  | nil =>
    rw [List.append_nil] at hTail
    exact hInside (hTail ▸ List.prefix_rfl)
  | cons c tail =>
    obtain ⟨more, hMore⟩ := hFront
    obtain rfl : c = '{' := (List.cons.inj hMore).1
    obtain ⟨d, rest, rfl⟩ := List.exists_cons_of_ne_nil hNonempty
    have hName : rest ++ '{' :: tail = p.name.toList ++ ['}'] := (List.cons.inj hTail).2
    have hMem : '{' ∈ p.name.toList ++ ['}'] := by
      rw [← hName]
      exact List.mem_append_right rest List.mem_cons_self
    rcases List.mem_append.mp hMem with hMem | hMem
    · exact absurd ((hNames p hp).continues hMem) (by decide)
    · exact absurd hMem (by decide)

/-- The piece of a literal text, if it is not empty. -/
def literalPieces (cs : List Char) : List Piece :=
  if cs = [] then [] else [.literal cs]

/-- A slot behind literal text is the only one. -/
theorem eq_of_slot_mem {cs : List Char} {s slot : Slot} {pattern body : String}
    (h : .slot s pattern ∈ literalPieces cs ++ [.slot slot body]) : s = slot ∧ pattern = body := by
  rw [literalPieces] at h
  rcases List.mem_append.mp h with h | h
  · split at h
    · cases h
    · cases List.mem_singleton.mp h
  · cases List.mem_singleton.mp h
    exact ⟨rfl, rfl⟩

/-- Literal text and one keyword make a literal and a slot. -/
theorem pieces_closing {r : Registry} (hr : r.Valid) {p : String} (hp : ¬ r.HasKeyword p)
    (b : Builtin) :
    ∃ slot, slot.name = b.name ∧ slot.occurrence = 1 ∧ slot.group = groupName b.name 1 ∧
      pieces r.table (closing p b) = literalPieces p.toList ++ [.slot slot b.pattern] := by
  obtain ⟨index, hGet, hFound⟩ := keywordAt?_builtin r b []
  have hTokens (start : Nat) : tokensFrom r.table 0 start (keywordCharacters b.name.toList) =
      [.placeholder start index] := by
    obtain ⟨next, hNext⟩ := tokensFrom_keyword hFound start
    rwa [List.append_nil] at hNext
  have hSlot (start : Nat) : piecesFrom r.table [] [.placeholder start index] =
      [.slot ⟨b.name, 1, groupName b.name 1, start⟩ b.pattern] :=
    piecesFrom_placeholder hGet [] []
  rw [pieces, tokens, toList_closing, literalPieces]
  by_cases hNil : p.toList = []
  · rw [if_pos hNil, hNil, List.nil_append, hTokens, hSlot]
    exact ⟨_, rfl, rfl, rfl, rfl⟩
  · have hFree := keywordFree_of_not_infix (fun _ => hr.isIdentifier)
      (fun q hq hInfix => hp ⟨q, hq, hInfix⟩) b.name.toList
    obtain ⟨next, hNext⟩ := tokensFrom_keywordFree hNil hFree
      (fun next other => by rw [hTokens]; nofun) 0
    rw [if_neg hNil, hNext, hTokens, piecesFrom, hSlot]
    exact ⟨_, rfl, rfl, rfl, rfl⟩

end Pieces

-- ---------------------------------------------------------------------------
-- The pattern
-- ---------------------------------------------------------------------------

section Closing

variable {r : Registry} {p : String} {b : Builtin}

/-- Where literal text is escaped such a template is compiled. -/
theorem compile_closing (hr : r.Valid) (hp : ¬ r.HasKeyword p) {configured : Bool}
    (hEscape : r.escapes configured = true) (b : Builtin) :
    r.compile configured (closing p b) =
      .ok { TemplateSource.ofTemplate r.table (r.escapes configured) (closing p b) with
        pattern := templatePattern r.table (closing p b) } := by
  obtain ⟨slot, hName, hOccurrence, hGroup, hPieces⟩ := pieces_closing hr hp b
  refine ofTemplate_eq_ok (fun _ _ => .inl hEscape) fun s pattern hs => ?_
  rw [hPieces] at hs
  obtain ⟨rfl, rfl⟩ := eq_of_slot_mem hs
  refine ⟨?_, ?_, embeds_builtin b⟩
  · rw [hGroup, hName, hOccurrence]
  · rw [hName]
    exact isIdentifier_builtin b

theorem hasKeyword_closing (r : Registry) (p : String) (b : Builtin) :
    r.HasKeyword (closing p b) := by
  refine ⟨b.parameter, ?_, p.toList, [], ?_⟩
  · exact List.mem_append_left _ (List.mem_map_of_mem (Builtin.mem_all b))
  · rw [toList_closing, List.append_nil]
    rfl

theorem concat_eq_ofFactors {rs : List Regex} (h : ∀ r ∈ rs, r.factors = [r]) :
    Regex.concat rs = .ofFactors rs := by
  rw [Regex.concat, List.flatMap_congr h, List.flatMap_singleton']

theorem concat_regex (b : Builtin) : Regex.concat [b.regex] = b.regex := by
  cases b <;> rfl

/-- The pattern is the characters of the literal text and a group. -/
theorem templateRegex_closing (hr : r.Valid) (hp : ¬ r.HasKeyword p) (b : Builtin) :
    templateRegex r.table (closing p b) =
      .ofFactors (p.toList.map .char ++ [.group 1 b.regex]) := by
  obtain ⟨slot, -, -, -, hPieces⟩ := pieces_closing hr hp b
  have hRegexes (cs : List Char) :
      pieceRegexes 1 (literalPieces cs ++ [.slot slot b.pattern]) =
        cs.map .char ++ [.group 1 b.regex] := by
    have hSlot : pieceRegexes 1 [.slot slot b.pattern] = [.group 1 b.regex] := by
      rw [pieceRegexes, regex_bodyLevel, concat_regex]
      rfl
    rw [literalPieces]
    split
    next hNil => rw [hNil, List.nil_append, hSlot]; rfl
    next => rw [List.singleton_append, pieceRegexes, hSlot]
  rw [templateRegex, hPieces, hRegexes]
  refine concat_eq_ofFactors fun r hMem => ?_
  rcases List.mem_append.mp hMem with hMem | hMem
  · obtain ⟨c, -, rfl⟩ := List.mem_map.mp hMem
    rfl
  · rw [List.mem_singleton.mp hMem]
    rfl

/-- How a match ends is how the expression of the type does. -/
theorem first_closing (hr : r.Valid) (hp : ¬ r.HasKeyword p) {text : Array Char} {i j : Nat}
    {w : Slots}
    (h : ((templateRegex r.table (closing p b)).choice text).first (fun _ => True) i j w) :
    ∃ K k u, (∀ l, K l) ∧ (b.regex.choice text).first K k j u := by
  rw [templateRegex_closing hr hp] at h
  obtain ⟨k, u, hGroup⟩ := first_ofFactors_concat h
  obtain ⟨K, v, hK, hBody⟩ := first_group (fun _ => trivial) hGroup
  exact ⟨K, k, v, hK, hBody⟩

-- ---------------------------------------------------------------------------
-- One match
-- ---------------------------------------------------------------------------

theorem fill_closing (cs : List Char) (s : Slot) (pattern : String) (v : List Char) :
    fill (literalPieces cs ++ [.slot s pattern]) [v] = cs ++ v := by
  have hSlot : fill [.slot s pattern] [v] = v := List.append_nil v
  rw [literalPieces]
  split
  next hNil => rw [hNil, List.nil_append, List.nil_append, hSlot]
  next => rw [List.singleton_append, fill, hSlot]

/-- The instances are the literal text and a text of the type. -/
theorem fits_closing {cs before after : List Char} {vs : List (List Char)} {s : Slot}
    {pattern : String} :
    Fits b.language before (literalPieces cs ++ [.slot s pattern]) vs after ↔
      ∃ v, vs = [v] ∧ b.Admits (before ++ cs) v after := by
  rw [literalPieces]
  split
  next hNil => rw [hNil, List.append_nil, List.nil_append, fits_slot]
  next => exact fits_slot

/-- Where a text is the literal text and a text of the type, and the type leaves nothing of it
behind, the whole text is one match. -/
theorem captures_closing (hr : r.Valid) (hp : ¬ r.HasKeyword p) {text : String} {v : List Char}
    (hText : text.toList = p.toList ++ v) (hAdmits : b.Admits p.toList v [])
    {Kept : List Char → Prop}
    (hKept : ∀ {K i j w}, (∀ k, K k) →
      (b.regex.choice text.toList.toArray).first K i j w → Kept (text.toList.drop j))
    (hWhole : ∀ {u after}, v = u ++ after → Kept after → after = []) :
    (templatePattern r.table (closing p b)).captures text =
      [⟨groupName b.name 1, String.ofList v⟩] := by
  obtain ⟨slot, hName, -, hGroup, hPieces⟩ := pieces_closing hr hp b
  have hSlots : ∀ s pattern, .slot s pattern ∈ pieces r.table (closing p b) →
      pattern = b.pattern := by
    intro s pattern hs
    rw [hPieces] at hs
    exact (eq_of_slot_mem hs).2
  have hNonempty : ∀ {before vs after},
      Fits b.language before (pieces r.table (closing p b)) vs after →
        fill (pieces r.table (closing p b)) vs ≠ [] := by
    intro before vs after hFits hNil
    rw [hPieces] at hFits hNil
    obtain ⟨u, rfl, hu⟩ := fits_closing.mp hFits
    rw [fill_closing] at hNil
    exact ne_nil_of_admits hu (List.append_eq_nil_iff.mp hNil).2
  have hFirst : ∀ {i j w},
      ((templateRegex r.table (closing p b)).choice text.toList.toArray).first
        (fun _ => True) i j w → Kept (text.toList.drop j) := by
    intro i j w h
    obtain ⟨K, k, u, hK, hBody⟩ := first_closing hr hp h
    exact hKept hK hBody
  obtain ⟨vss, hScans, hCaptures⟩ := scans_of_slots hSlots hNonempty hFirst
  -- the whole text is an instance, so the leftmost one begins where it does
  have hOpens : Opens (fill (pieces r.table (closing p b)))
      (fun before vs after => Fits b.language before (pieces r.table (closing p b)) vs after)
      [] text.toList := by
    refine ⟨[v], [], ?_, ?_⟩
    · rw [hPieces, fill_closing, hText, List.append_nil]
    · rw [hPieces]
      exact fits_closing.mpr ⟨v, rfl, hAdmits⟩
  obtain ⟨_, vss', after, rfl, hRest, hFound, hAfter, hScans⟩ := hScans.first hOpens
  rw [hPieces] at hFound hRest
  obtain ⟨u, rfl, hu⟩ := fits_closing.mp hFound
  rw [fill_closing, hText, List.append_assoc, List.append_cancel_left_eq] at hRest
  obtain rfl := hWhole hRest hAfter
  rw [List.append_nil] at hRest
  have hSlot : slotsOf (literalPieces p.toList ++ [.slot slot b.pattern]) = [slot] := by
    rw [literalPieces]
    split <;> rfl
  rw [hCaptures, hScans.eq_nil hNonempty, hPieces, hSlot, ← hRest, ← hGroup]
  rfl

/-- A text that is one match yields the value of what the group captured. -/
theorem matchStep_closing (hr : r.Valid) (hp : ¬ r.HasKeyword p) {settings : MatchSettings}
    (hEscape : r.escapes settings.escape = true) (step : Step) {v : List Char}
    (hCaptures : (templatePattern r.table (closing p b)).captures step.text =
      [⟨groupName b.name 1, String.ofList v⟩])
    {value : Value} (hValue : b.convert settings.zone (String.ofList v) = .ok value)
    (shared : SharedTypes) :
    matchStep r settings step (closing p b) shared = (.ok [value], shared) := by
  have hSome : (templatePattern r.table (closing p b)).captures step.text ≠ [] := by
    rw [hCaptures]
    exact List.cons_ne_nil _ _
  rw [matchStep_of_captures (hasKeyword_closing r p b) (compile_closing hr hp hEscape b) hSome]
  dsimp only
  rw [hCaptures, convertAll, convertCapture_keyword, hValue]
  rfl

end Closing

end TypedSteps
