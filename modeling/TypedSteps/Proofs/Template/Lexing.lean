import Mathlib.Data.List.Chain
import TypedSteps.Proofs.Template.Tables

/-!
# Where keywords stand in a template

Tokens keep the whole template, and tell apart the keywords in it from all other text. No literal
is split, none runs into a keyword, and as long as names hold no braces there is a placeholder
wherever a keyword stands: keywords then do not overlap, so that none is passed over behind the
beginning of another.

* `Lexed.isChain` — literals are kept apart by placeholders;
* `Lexed.literal_split` — no keyword begins in a literal;
* `Lexed.placeholder_mem` — where a keyword is found there is a placeholder;
* `tokens_account_for_template` — what the tokens of a template are, as a whole.
-/

namespace TypedSteps

/-- The keyword of an entry stands at an offset of a text, counted in bytes. -/
def Parameter.OccursAt (p : Parameter) (start : Nat) (cs : List Char) : Prop :=
  ∃ before after, cs = before ++ keywordCharacters p.name.toList ++ after ∧
    byteLength before = start

section Lexing

variable {table : List Parameter} {start : Nat} {cs : List Char} {ts : List Token}

theorem Lexed.literal_ne_nil (h : Lexed table start cs ts) {text : List Char}
    (hMem : .literal text ∈ ts) : text ≠ [] := by
  obtain ⟨before, after, rfl⟩ := List.append_of_mem hMem
  obtain ⟨rest, -, hRest⟩ := h.split
  cases hRest with
  | literal hNonempty _ _ _ => exact hNonempty

/-- Of two tokens that follow one another one is a placeholder at least. -/
theorem Lexed.isChain (h : Lexed table start cs ts) :
    ts.IsChain fun t next => t.isPlaceholder = true ∨ next.isPlaceholder = true := by
  induction h with
  | nil => exact .nil
  | @literal start text cs ts _ _ hNext _ ih =>
    refine List.isChain_cons.mpr ⟨?_, ih⟩
    intro next hHead
    cases next with
    | literal other => exact absurd hHead (hNext other)
    | placeholder => exact .inr rfl
  | placeholder _ _ ih => exact List.isChain_cons.mpr ⟨fun _ _ => .inl rfl, ih⟩

/-- No keyword begins in a literal, even one that goes on in the tokens behind it. -/
theorem Lexed.literal_split {before after : List Token} {text : List Char}
    (h : Lexed table start cs (before ++ .literal text :: after)) :
    KeywordFree table text (after.flatMap (Token.written table)) := by
  obtain ⟨rest, -, hRest⟩ := h.split
  cases hRest with
  | literal _ hFree _ hTail => rwa [hTail.written]

/-- Behind its first character the keyword of a name without braces holds no other keyword's
beginning. -/
theorem keywordAt?_eq_none_of_suffix {name rest before after : List Char} (hName : '{' ∉ name)
    (hRest : before ++ rest = keywordCharacters name) (hBefore : before ≠ [])
    (hNonempty : rest ≠ []) : keywordAt? table (rest ++ after) = none := by
  obtain ⟨c, before, rfl⟩ := List.exists_cons_of_ne_nil hBefore
  obtain ⟨d, rest, rfl⟩ := List.exists_cons_of_ne_nil hNonempty
  have hTail : before ++ d :: rest = name ++ ['}'] := (List.cons.inj hRest).2
  have hMem : d ∈ name ++ ['}'] := by
    rw [← hTail]
    exact List.mem_append_right before List.mem_cons_self
  have hne : d ≠ '{' := by
    rintro rfl
    rcases List.mem_append.mp hMem with h | h
    · exact hName h
    · exact absurd h (by decide)
  rw [keywordAt?_eq_none_iff]
  intro p _
  rw [Bool.eq_false_iff]
  intro hStands
  exact hne (List.cons.inj (keyword_eq_cons_take hStands)).1.symm

/-- A place in a text that is made up of two parts is behind the first part or inside of it. -/
theorem behind_or_inside {first second before rest : List Char}
    (h : first ++ second = before ++ rest) :
    (∃ between, before = first ++ between ∧ second = between ++ rest) ∨
      ∃ front, front ≠ [] ∧ first = before ++ front ∧ rest = front ++ second := by
  rcases List.append_eq_append_iff.mp h with hBehind | ⟨front, hFirst, hRest⟩
  · exact .inl hBehind
  · by_cases hFront : front = []
    · subst hFront
      exact .inl ⟨[], by simp [hFirst], hRest.symm⟩
    · exact .inr ⟨front, hFront, hFirst, hRest⟩

/-- Where a keyword is found there is a placeholder, if no name holds an opening brace. -/
theorem Lexed.placeholder_mem (h : Lexed table start cs ts)
    (hNames : ∀ p ∈ table, '{' ∉ p.name.toList) {before rest : List Char}
    (hcs : cs = before ++ rest) {p : Parameter} {index : Nat}
    (hFound : keywordAt? table rest = some (p, index)) :
    .placeholder (start + byteLength before) index ∈ ts := by
  induction h generalizing before with
  | nil =>
    obtain ⟨-, rfl⟩ := List.append_eq_nil_iff.mp hcs.symm
    have hStands := (keywordAt?_eq_some_iff.mp hFound).2.1
    simp [Parameter.standsAt, keywordCharacters] at hStands
  | @literal start text cs ts _ hFree _ _ ih =>
    rcases behind_or_inside hcs with ⟨between, rfl, hBehind⟩ | ⟨front, hFront, hText, hRest⟩
    · rw [byteLength_append, ← Nat.add_assoc]
      exact List.mem_cons_of_mem _ (ih hBehind)
    · rw [hRest, hFree front (hText ▸ List.suffix_append before front) hFront] at hFound
      cases hFound
  | @placeholder start index' q cs ts hFound' _ ih =>
    rcases behind_or_inside hcs with ⟨between, rfl, hBehind⟩ | ⟨front, hFront, hKeyword, hRest⟩
    · rw [byteLength_append, ← Nat.add_assoc]
      exact List.mem_cons_of_mem _ (ih hBehind)
    · -- inside of a keyword another one is found only at its first character
      by_cases hBefore : before = []
      · subst hBefore
        rw [hRest, ← List.nil_append front, ← hKeyword, hFound', Option.some.injEq] at hFound
        obtain rfl : index' = index := congrArg Prod.snd hFound
        exact List.mem_cons_self
      · have hq := hNames q (List.mem_of_getElem? (keywordAt?_eq_some_iff.mp hFound').1)
        rw [hRest, keywordAt?_eq_none_of_suffix hq hKeyword.symm hBefore hFront] at hFound
        cases hFound

/-- There is a placeholder just where the keyword of an entry stands, if no name holds a brace.
It notes the place of the first entry with that name. -/
theorem placeholder_mem_tokens_iff {template : String}
    (hNames : ∀ p ∈ table, '{' ∉ p.name.toList ∧ '}' ∉ p.name.toList) {index : Nat} :
    .placeholder start index ∈ tokens table template ↔
      ∃ p ∈ table, p.OccursAt start template.toList ∧
        table.findIdx? (·.name == p.name) = some index := by
  have hLexed := lexed_tokens table template
  constructor
  · intro hMem
    obtain ⟨before, after, hSplit⟩ := List.append_of_mem hMem
    rw [hSplit] at hLexed
    obtain ⟨hStart, p, rest, hcs, hFound⟩ := hLexed.placeholder_split
    have hp := List.mem_of_getElem? (keywordAt?_eq_some_iff.mp hFound).1
    rw [Nat.zero_add] at hStart
    rw [← List.append_assoc] at hcs
    exact ⟨p, hp, ⟨_, rest, hcs, hStart.symm⟩, findIdx?_name_of_keywordAt? hFound⟩
  · rintro ⟨p, hp, ⟨before, after, hcs, rfl⟩, hIndex⟩
    rw [List.append_assoc] at hcs
    have hStands : p.standsAt (keywordCharacters p.name.toList ++ after) = true :=
      standsAt_iff.mpr (List.prefix_append _ after)
    obtain ⟨q, index', hFound, hName⟩ :=
      exists_keywordAt?_of_standsAt (fun p hp => (hNames p hp).2) hp hStands
    have hIndex' := findIdx?_name_of_keywordAt? hFound
    rw [hName, hIndex, Option.some.injEq] at hIndex'
    have hMem := hLexed.placeholder_mem (fun p hp => (hNames p hp).1) hcs hFound
    rwa [Nat.zero_add, ← hIndex'] at hMem

end Lexing

/-- **Tokens account for the whole template.** Whatever the table, they join to the template, each
placeholder taken for the keyword of the entry that it notes. Literals are not empty and not next
to each other, a placeholder notes the number of bytes before it, and no keyword begins in a
literal. If no name of the table holds a brace, the placeholders are just the places at which
keywords of the table stand, each with the first entry of that name. -/
theorem tokens_account_for_template (table : List Parameter) (template : String) :
    (tokens table template).flatMap (Token.written table) = template.toList ∧
    (∀ text, .literal text ∈ tokens table template → text ≠ []) ∧
    ((tokens table template).IsChain fun t next =>
      t.isPlaceholder = true ∨ next.isPlaceholder = true) ∧
    (∀ before start index after,
      tokens table template = before ++ .placeholder start index :: after →
      index < table.length ∧ start = byteLength (before.flatMap (Token.written table))) ∧
    (∀ before text after, tokens table template = before ++ .literal text :: after →
      ∀ rest, rest <:+ text → rest ≠ [] → ∀ p ∈ table,
        ¬keywordCharacters p.name.toList <+: rest ++ after.flatMap (Token.written table)) ∧
    ((∀ p ∈ table, '{' ∉ p.name.toList ∧ '}' ∉ p.name.toList) →
      ∀ start index, .placeholder start index ∈ tokens table template ↔
        ∃ p ∈ table, p.OccursAt start template.toList ∧
          table.findIdx? (·.name == p.name) = some index) := by
  have hLexed := lexed_tokens table template
  refine ⟨hLexed.written, fun text => hLexed.literal_ne_nil, hLexed.isChain, ?_, ?_, ?_⟩
  · intro before start index after hSplit
    rw [hSplit] at hLexed
    obtain ⟨hStart, p, rest, -, hFound⟩ := hLexed.placeholder_split
    obtain ⟨hLen, -⟩ := List.getElem?_eq_some_iff.mp (keywordAt?_eq_some_iff.mp hFound).1
    exact ⟨hLen, by rw [hStart, Nat.zero_add]⟩
  · intro before text after hSplit rest hSuffix hNonempty p hp hPrefix
    rw [hSplit] at hLexed
    have hNone := hLexed.literal_split rest hSuffix hNonempty
    have hFalse := keywordAt?_eq_none_iff.mp hNone p hp
    rw [standsAt_iff.mpr hPrefix] at hFalse
    cases hFalse
  · exact fun hNames start index => placeholder_mem_tokens_iff hNames

/-- Entries whose names begin alike, or are the same. -/
def alike : List Parameter :=
  [⟨"a", "x"⟩, ⟨"ab", "y"⟩, ⟨"ab", "z"⟩]

/-- A keyword behind a character of two bytes and a brace that opens no keyword. -/
theorem tokens_account_for_template_alike :
    (∀ p ∈ alike, '{' ∉ p.name.toList ∧ '}' ∉ p.name.toList) ∧
      .placeholder 6 1 ∈ tokens alike "\x7ba\x7dé\x7b\x7bab\x7d" := by
  obtain ⟨-, -, -, -, -, hPlaces⟩ :=
    tokens_account_for_template alike "\x7ba\x7dé\x7b\x7bab\x7d"
  have hNames : ∀ p ∈ alike, '{' ∉ p.name.toList ∧ '}' ∉ p.name.toList := by decide
  have hOccurs : Parameter.OccursAt ⟨"ab", "z"⟩ 6 "\x7ba\x7dé\x7b\x7bab\x7d".toList :=
    ⟨"\x7ba\x7dé\x7b".toList, [], by decide, by decide⟩
  exact ⟨hNames, (hPlaces hNames 6 1).mpr ⟨⟨"ab", "z"⟩, by decide, hOccurs, by decide⟩⟩

end TypedSteps
