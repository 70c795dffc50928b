import TypedSteps.Template.Token

/-!
# Tokens give the template back

Cutting a template into tokens loses nothing: each token stands for a stretch of the
template, `Token.written`, and the stretches join to the whole. A placeholder notes the
number of bytes before it, and the place of the first table entry whose keyword stands
there.

* `keywordAt?_eq_some_iff` — what a keyword found at a place of a template says;
* `Lexed`, `lexed_tokens` — what the tokens of a template are;
* `Lexed.split` — tokens at the front stand for the front of the text;
* `Lexed.written` — the tokens join to the template;
* `Lexed.placeholder_split` — placeholders note where they stand;
* `any_isPlaceholder_tokensFrom_iff` — there are placeholders where keywords stand.
-/

namespace TypedSteps

/-- The number of bytes that characters take in UTF-8. -/
def byteLength (cs : List Char) : Nat :=
  (String.ofList cs).utf8ByteSize

theorem byteLength_nil : byteLength [] = 0 := rfl

theorem byteLength_append (cs ds : List Char) :
    byteLength (cs ++ ds) = byteLength cs + byteLength ds := by
  rw [byteLength, String.ofList_append, String.utf8ByteSize_append]
  rfl

theorem byteLength_cons (c : Char) (cs : List Char) :
    byteLength (c :: cs) = c.utf8Size + byteLength cs := by
  have hc : byteLength [c] = c.utf8Size := by
    show (String.singleton c).utf8ByteSize = c.utf8Size
    exact String.utf8ByteSize_singleton
  rw [show c :: cs = [c] ++ cs from rfl, byteLength_append, hc]

/-- Every character takes a byte at least. -/
theorem length_le_byteLength (cs : List Char) : cs.length ≤ byteLength cs := by
  induction cs with
  | nil => simp [byteLength_nil]
  | cons c cs ih =>
    have hc : 0 < c.utf8Size := c.utf8Size_pos
    rw [byteLength_cons, List.length_cons]
    omega

-- ---------------------------------------------------------------------------
-- Keywords
-- ---------------------------------------------------------------------------

theorem length_keywordCharacters (name : List Char) :
    (keywordCharacters name).length = name.length + 2 := by
  simp [keywordCharacters]

/-- A keyword stands at a place if the text goes on with it there. -/
theorem standsAt_iff {p : Parameter} {cs : List Char} :
    p.standsAt cs = true ↔ keywordCharacters p.name.toList <+: cs := by
  rw [Parameter.standsAt, List.isPrefixOf_iff_prefix]

/-- Where a keyword stands, the rest of the text is the keyword and what comes after
it. -/
theorem eq_keyword_append_drop {p : Parameter} {c : Char} {cs : List Char}
    (h : p.standsAt (c :: cs) = true) :
    c :: cs = keywordCharacters p.name.toList ++ cs.drop (p.name.toList.length + 1) := by
  obtain ⟨rest, hRest⟩ := standsAt_iff.mp h
  have hDrop : (c :: cs).drop (p.name.toList.length + 2) = rest := by
    rw [← hRest, ← length_keywordCharacters, List.drop_left]
  rw [← hRest, ← hDrop]
  rfl

/-- A keyword that stands at a character begins with that character. -/
theorem keyword_eq_cons_take {p : Parameter} {c : Char} {cs : List Char}
    (h : p.standsAt (c :: cs) = true) :
    keywordCharacters p.name.toList = c :: cs.take (p.name.toList.length + 1) := by
  have hTake := congrArg (List.take (p.name.toList.length + 2)) (eq_keyword_append_drop h)
  rw [← length_keywordCharacters, List.take_left, length_keywordCharacters] at hTake
  exact hTake.symm

/-- The keyword found at a place is the one of the first entry whose keyword stands
there. -/
theorem keywordAt?_eq_some_iff {table : List Parameter} {cs : List Char} {p : Parameter}
    {index : Nat} :
    keywordAt? table cs = some (p, index) ↔
      table[index]? = some p ∧ p.standsAt cs = true ∧
        ∀ j < index, ∀ q, table[j]? = some q → q.standsAt cs = false := by
  rw [keywordAt?, List.find?_eq_some_iff_getElem]
  constructor
  · rintro ⟨hp, i, hi, hGet, hBefore⟩
    rw [List.getElem_zipIdx, Prod.mk.injEq] at hGet
    obtain ⟨hGet, hIndex⟩ := hGet
    rw [List.length_zipIdx] at hi
    obtain rfl : i = index := by omega
    refine ⟨by rw [List.getElem?_eq_getElem hi, hGet], hp, ?_⟩
    intro j hj q hq
    have hLen : j < table.length := by omega
    rw [List.getElem?_eq_getElem hLen, Option.some.injEq] at hq
    -- the entries before the one that is found have no keyword there
    have hFalse := hBefore j hj
    rw [List.getElem_zipIdx, hq] at hFalse
    simpa using hFalse
  · rintro ⟨hGet, hp, hBefore⟩
    obtain ⟨hLen, hGet⟩ := List.getElem?_eq_some_iff.mp hGet
    refine ⟨hp, index, by rw [List.length_zipIdx]; exact hLen, ?_, ?_⟩
    · rw [List.getElem_zipIdx, hGet, Nat.zero_add]
    · intro j hj
      have hj' : j < table.length := by omega
      have hFalse := hBefore j hj table[j] (List.getElem?_eq_getElem hj')
      rw [List.getElem_zipIdx]
      simpa using hFalse

-- ---------------------------------------------------------------------------
-- What tokens stand for
-- ---------------------------------------------------------------------------

/-- The stretch of the template that a token stands for. -/
def Token.written (table : List Parameter) : Token → List Char
  | literal text => text
  | placeholder _ index =>
    match table[index]? with
    | some p => keywordCharacters p.name.toList
    | none => []

/-- A placeholder is written as the keyword of its entry. -/
theorem written_placeholder {table : List Parameter} {start index : Nat} {p : Parameter}
    (h : table[index]? = some p) :
    Token.written table (.placeholder start index) = keywordCharacters p.name.toList := by
  rw [Token.written, h]

-- ---------------------------------------------------------------------------
-- What cutting does
-- ---------------------------------------------------------------------------

section Cutting

variable {table : List Parameter}

/-- No keyword begins in a text that other characters follow. -/
def KeywordFree (table : List Parameter) (text after : List Char) : Prop :=
  ∀ rest, rest <:+ text → rest ≠ [] → keywordAt? table (rest ++ after) = none

theorem keywordFree_nil (after : List Char) : KeywordFree table [] after :=
  fun _ hRest hNonempty => absurd (List.suffix_nil.mp hRest) hNonempty

/-- A character at which no keyword begins may be put in front. -/
theorem KeywordFree.cons {c : Char} {text after : List Char} (h : KeywordFree table text after)
    (hNone : keywordAt? table (c :: (text ++ after)) = none) :
    KeywordFree table (c :: text) after := by
  intro rest hRest hNonempty
  rcases List.suffix_cons_iff.mp hRest with rfl | hRest
  · exact hNone
  · exact h rest hRest hNonempty

/-- What the tokens of a text are that begins at some offset of a template. A literal is not
empty, no keyword begins in it, and no other literal follows it. A placeholder stands where a
keyword is found, and notes the offset and the place of the entry. -/
inductive Lexed (table : List Parameter) : Nat → List Char → List Token → Prop
  | nil (start : Nat) : Lexed table start [] []
  | literal {start : Nat} {text cs : List Char} {ts : List Token} (hNonempty : text ≠ [])
      (hFree : KeywordFree table text cs) (hNext : ∀ other, ts.head? ≠ some (.literal other))
      (hRest : Lexed table (start + byteLength text) cs ts) :
      Lexed table start (text ++ cs) (.literal text :: ts)
  | placeholder {start index : Nat} {p : Parameter} {cs : List Char} {ts : List Token}
      (hFound : keywordAt? table (keywordCharacters p.name.toList ++ cs) = some (p, index))
      (hRest : Lexed table (start + byteLength (keywordCharacters p.name.toList)) cs ts) :
      Lexed table start (keywordCharacters p.name.toList ++ cs) (.placeholder start index :: ts)

section

variable {start : Nat} {cs : List Char} {ts : List Token}

/-- A character at which no keyword stands joins the literal behind it, or becomes one. -/
theorem Lexed.addLiteral {c : Char} (hNone : keywordAt? table (c :: cs) = none)
    (h : Lexed table (start + c.utf8Size) cs ts) :
    Lexed table start (c :: cs) (addLiteral c ts) := by
  have hWidth : start + byteLength [c] = start + c.utf8Size := by
    rw [byteLength_cons, byteLength_nil, Nat.add_zero]
  have hFree := (keywordFree_nil cs).cons hNone
  cases h with
  | nil => exact .literal (List.cons_ne_nil c []) hFree (by simp) (.nil _)
  | literal hNonempty hFree' hNext hRest =>
    refine .literal (List.cons_ne_nil c _) (hFree'.cons hNone) hNext ?_
    rw [byteLength_cons, ← Nat.add_assoc]
    exact hRest
  | placeholder hFound hRest =>
    refine .literal (List.cons_ne_nil c []) hFree (by simp) ?_
    rw [hWidth]
    exact .placeholder hFound hRest

/-- The tokens that are read of a text are its tokens. -/
theorem lexed_tokensFrom (table : List Parameter) (skip start : Nat) (cs : List Char) :
    Lexed table (start + byteLength (cs.take skip)) (cs.drop skip)
      (tokensFrom table skip start cs) := by
  -- the characters of a keyword are skipped one by one, so how many are left is generalized
  induction cs generalizing skip start with
  | nil => cases skip <;> exact .nil _
  | cons c cs ih =>
    cases skip with
    | succ skip =>
      rw [List.take_succ_cons, byteLength_cons, ← Nat.add_assoc]
      exact ih skip (start + c.utf8Size)
    | zero =>
      rw [tokensFrom]
      cases hk : keywordAt? table (c :: cs) with
      | none => exact .addLiteral hk (ih 0 (start + c.utf8Size))
      | some found =>
        obtain ⟨p, index⟩ := found
        -- the keyword is cut off the text, and the tokens behind it follow
        have hStands := (keywordAt?_eq_some_iff.mp hk).2.1
        have hTail := ih (p.name.toList.length + 1) (start + c.utf8Size)
        rw [Nat.add_assoc, ← byteLength_cons, ← keyword_eq_cons_take hStands] at hTail
        rw [eq_keyword_append_drop hStands] at hk
        show Lexed table start (c :: cs) _
        rw [eq_keyword_append_drop hStands]
        exact .placeholder hk hTail

/-- The tokens of a template begin at the offset zero. -/
theorem lexed_tokens (table : List Parameter) (template : String) :
    Lexed table 0 template.toList (tokens table template) :=
  lexed_tokensFrom table 0 0 template.toList

/-- What some tokens stand for comes before the text of those behind them. -/
theorem Lexed.split {before after : List Token} (h : Lexed table start cs (before ++ after)) :
    ∃ rest, cs = before.flatMap (Token.written table) ++ rest ∧
      Lexed table (start + byteLength (before.flatMap (Token.written table))) rest after := by
  induction before generalizing start cs with
  | nil => exact ⟨cs, rfl, h⟩
  | cons t before ih =>
    rw [List.flatMap_cons, byteLength_append, ← Nat.add_assoc]
    cases h with
    | literal _ _ _ hRest =>
      obtain ⟨rest, rfl, hTail⟩ := ih hRest
      exact ⟨rest, (List.append_assoc _ _ _).symm, hTail⟩
    | placeholder hFound hRest =>
      obtain ⟨rest, rfl, hTail⟩ := ih hRest
      rw [written_placeholder (keywordAt?_eq_some_iff.mp hFound).1]
      exact ⟨rest, (List.append_assoc _ _ _).symm, hTail⟩

/-- Tokens join to the text that they are cut from. -/
theorem Lexed.written (h : Lexed table start cs ts) :
    ts.flatMap (Token.written table) = cs := by
  rw [← List.append_nil ts] at h
  obtain ⟨rest, hcs, hRest⟩ := h.split
  cases hRest
  rw [hcs, List.append_nil]

/-- A placeholder notes the number of bytes before it, and the table has an entry at the
place it notes, the first one whose keyword stands there. -/
theorem Lexed.placeholder_split {before after : List Token} {at_ index : Nat}
    (h : Lexed table start cs (before ++ .placeholder at_ index :: after)) :
    at_ = start + byteLength (before.flatMap (Token.written table)) ∧
      ∃ p rest, cs = before.flatMap (Token.written table) ++
          (keywordCharacters p.name.toList ++ rest) ∧
        keywordAt? table (keywordCharacters p.name.toList ++ rest) = some (p, index) := by
  obtain ⟨rest, hcs, hRest⟩ := h.split
  cases hRest with
  | placeholder hFound _ => exact ⟨rfl, _, _, hcs, hFound⟩

end

end Cutting

-- ---------------------------------------------------------------------------
-- Templates with keywords
-- ---------------------------------------------------------------------------

/-- No keyword is found at a place just where none of the table stands there. -/
theorem keywordAt?_eq_none_iff {table : List Parameter} {cs : List Char} :
    keywordAt? table cs = none ↔ ∀ p ∈ table, p.standsAt cs = false := by
  rw [keywordAt?, List.find?_eq_none]
  constructor
  · intro h p hp
    obtain ⟨i, hi, rfl⟩ := List.getElem_of_mem hp
    have hMem : (table[i], i) ∈ table.zipIdx := by
      rw [List.mem_zipIdx_iff_getElem?]
      exact List.getElem?_eq_getElem hi
    simpa using h _ hMem
  · rintro h ⟨p, i⟩ hMem
    have hp := h p (List.fst_mem_of_mem_zipIdx hMem)
    simp [hp]

/-- A character that joins a literal adds no placeholder. -/
theorem any_isPlaceholder_addLiteral (c : Char) (ts : List Token) :
    (addLiteral c ts).any Token.isPlaceholder = ts.any Token.isPlaceholder := by
  match ts with
  | [] => rfl
  | .literal text :: rest => rfl
  | .placeholder start index :: rest => rfl

/-- Placeholders are found just where the keyword of an entry stands in the text. What is
skipped behind a keyword cannot hide all of them, for one was found then. -/
theorem any_isPlaceholder_tokensFrom_iff {table : List Parameter} {start : Nat} {cs : List Char} :
    (tokensFrom table 0 start cs).any Token.isPlaceholder = true ↔
      ∃ p ∈ table, keywordCharacters p.name.toList <:+: cs := by
  induction cs generalizing start with
  | nil => simp [tokensFrom, keywordCharacters]
  | cons c cs ih =>
    rw [tokensFrom]
    cases hk : keywordAt? table (c :: cs) with
    | some found =>
      obtain ⟨p, index⟩ := found
      obtain ⟨hGet, hStands, -⟩ := keywordAt?_eq_some_iff.mp hk
      refine iff_of_true rfl ⟨p, List.mem_of_getElem? hGet, ?_⟩
      exact (standsAt_iff.mp hStands).isInfix
    | none =>
      have hNone : ∀ p ∈ table, ¬ keywordCharacters p.name.toList <+: c :: cs := by
        intro p hp hPrefix
        have hFalse := keywordAt?_eq_none_iff.mp hk p hp
        rw [standsAt_iff.mpr hPrefix] at hFalse
        cases hFalse
      show (addLiteral c _).any Token.isPlaceholder = true ↔ _
      rw [any_isPlaceholder_addLiteral, ih]
      constructor
      · rintro ⟨p, hp, hInfix⟩
        exact ⟨p, hp, List.infix_cons hInfix⟩
      · rintro ⟨p, hp, hInfix⟩
        exact ⟨p, hp, (List.infix_cons_iff.mp hInfix).resolve_left (hNone p hp)⟩

end TypedSteps
