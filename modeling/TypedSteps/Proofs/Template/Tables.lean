import Mathlib.Data.List.Find
import Mathlib.Data.List.Forall2
import Mathlib.Data.List.Nodup
import TypedSteps.Proofs.Regex.Reading
import TypedSteps.Proofs.Registry.Reachable
import TypedSteps.Proofs.Template.Slots

/-!
# Templates read against two tables

A template depends on the table it is read against only through the entries whose keywords
stand in it. So two tables in which the same entry is found at every place of a template give
it the same pieces, even if they list the entry at different places; and with the pieces come
the same placeholders, the same source and the same pattern.

* `Token.Agrees`, `agrees_tokensFrom` — tokens that say the same, each against its own table;
* `pieces_congr` — tables in which the same entries are found give a template the same pieces;
* `name_eq_of_standsAt`, `find?_standsAt_perm` — at most one name without braces stands at a
  place, so different identifiers are found whatever the order of the table;
* `find?_concat_of_neg` — an entry at the end of a table is found only where its keyword stands.
-/

namespace TypedSteps

-- ---------------------------------------------------------------------------
-- Tokens that agree
-- ---------------------------------------------------------------------------

/-- Two tokens that say the same, each against its own table. -/
inductive Token.Agrees (table table' : List Parameter) : Token → Token → Prop
  | literal (text : List Char) : Agrees table table' (.literal text) (.literal text)
  | placeholder (start : Nat) {index index' : Nat} {p : Parameter}
      (h : table[index]? = some p) (h' : table'[index']? = some p) :
      Agrees table table' (.placeholder start index) (.placeholder start index')

section Agreement

variable {table table' : List Parameter}

/-- The entry that is found at a place of a template is the first whose keyword stands there. -/
theorem map_fst_keywordAt? (table : List Parameter) (cs : List Char) :
    (keywordAt? table cs).map (·.1) = table.find? (·.standsAt cs) := by
  conv_rhs => rw [← List.zipIdx_map_fst 0 table, List.find?_map]
  rfl

theorem agrees_addLiteral (c : Char) {ts ts' : List Token}
    (h : List.Forall₂ (Token.Agrees table table') ts ts') :
    List.Forall₂ (Token.Agrees table table') (addLiteral c ts) (addLiteral c ts') := by
  cases h with
  | nil => exact .cons (.literal [c]) .nil
  | cons hToken hRest =>
    cases hToken with
    | literal text => exact .cons (.literal (c :: text)) hRest
    | placeholder start hGet hGet' =>
      exact .cons (.literal [c]) (.cons (.placeholder start hGet hGet') hRest)

/-- Where the same entries are found, the tokens agree. -/
theorem agrees_tokensFrom {cs : List Char}
    (h : ∀ rest, rest <:+ cs →
      table.find? (·.standsAt rest) = table'.find? (·.standsAt rest)) (skip start : Nat) :
    List.Forall₂ (Token.Agrees table table') (tokensFrom table skip start cs)
      (tokensFrom table' skip start cs) := by
  induction cs generalizing skip start with
  | nil => cases skip <;> exact .nil
  | cons c cs ih =>
    have hRest := fun rest hSuffix => h rest (List.IsSuffix.trans hSuffix (List.suffix_cons c cs))
    cases skip with
    | succ skip => exact ih hRest skip (start + c.utf8Size)
    | zero =>
      have hHere := h (c :: cs) (List.suffix_refl _)
      rw [← map_fst_keywordAt?, ← map_fst_keywordAt?] at hHere
      rw [tokensFrom, tokensFrom]
      cases hk : keywordAt? table (c :: cs) with
      | none =>
        rw [hk, Option.map_none, eq_comm, Option.map_eq_none_iff] at hHere
        rw [hHere]
        exact agrees_addLiteral c (ih hRest 0 (start + c.utf8Size))
      | some found =>
        obtain ⟨p, index⟩ := found
        rw [hk] at hHere
        obtain ⟨⟨p', index'⟩, hk', rfl⟩ := Option.map_eq_some_iff.mp hHere.symm
        rw [hk']
        have hGet := (keywordAt?_eq_some_iff.mp hk).1
        have hGet' := (keywordAt?_eq_some_iff.mp hk').1
        exact .cons (.placeholder start hGet hGet') (ih hRest _ _)

/-- Tokens that agree become the same pieces. -/
theorem piecesFrom_congr {ts ts' : List Token}
    (h : List.Forall₂ (Token.Agrees table table') ts ts') (seen : List String) :
    piecesFrom table seen ts = piecesFrom table' seen ts' := by
  induction h generalizing seen with
  | nil => rfl
  | cons hToken _ ih =>
    cases hToken with
    | literal text => rw [piecesFrom, piecesFrom, ih]
    | placeholder start hGet hGet' =>
      rw [piecesFrom, piecesFrom, hGet, hGet']
      dsimp only
      rw [ih]

/-- Tables in which the same entries are found give a template the same pieces. -/
theorem pieces_congr {template : String}
    (h : ∀ rest, rest <:+ template.toList →
      table.find? (·.standsAt rest) = table'.find? (·.standsAt rest)) :
    pieces table template = pieces table' template :=
  piecesFrom_congr (agrees_tokensFrom h 0 0) []

theorem containsPlaceholder_congr {template : String}
    (h : pieces table template = pieces table' template) :
    containsPlaceholder table template = containsPlaceholder table' template := by
  rw [Bool.eq_iff_iff, containsPlaceholder_iff, containsPlaceholder_iff, h]

theorem ofTemplate_congr {template : String} (h : pieces table template = pieces table' template)
    (escape : Bool) :
    TemplateSource.ofTemplate table escape template =
      TemplateSource.ofTemplate table' escape template := by
  rw [TemplateSource.ofTemplate, TemplateSource.ofTemplate, h]

theorem compiledTemplate_congr {template : String}
    (h : pieces table template = pieces table' template) (escape : Bool) :
    CompiledTemplate.ofTemplate table escape template =
      CompiledTemplate.ofTemplate table' escape template := by
  rw [CompiledTemplate.ofTemplate, CompiledTemplate.ofTemplate, ofTemplate_congr h]

end Agreement

-- ---------------------------------------------------------------------------
-- The order of a table
-- ---------------------------------------------------------------------------

theorem close_notMem {name : String} (h : IsIdentifier name) : '}' ∉ name.toList :=
  fun hMem => absurd (h.continues hMem) (by decide)

/-- Names without closing braces that stand at the same place are the same. -/
theorem name_eq_of_standsAt {p q : Parameter} (hp : '}' ∉ p.name.toList) (hq : '}' ∉ q.name.toList)
    {cs : List Char} (h : p.standsAt cs = true) (h' : q.standsAt cs = true) : p.name = q.name := by
  obtain ⟨rest, hRest⟩ := standsAt_iff.mp h
  obtain ⟨rest', hRest'⟩ := standsAt_iff.mp h'
  rw [← hRest'] at hRest
  simp only [keywordCharacters, List.cons_append, List.append_assoc, List.nil_append] at hRest
  have hSame := congrArg (List.takeWhile (· != '}')) (List.cons.inj hRest).2
  rw [takeWhile_name hp, takeWhile_name hq] at hSame
  exact String.toList_inj.mp hSame

/-- Where the keyword of an entry stands, an entry with that name is found. -/
theorem exists_keywordAt?_of_standsAt {table : List Parameter}
    (hNames : ∀ p ∈ table, '}' ∉ p.name.toList) {q : Parameter} (hq : q ∈ table) {cs : List Char}
    (h : q.standsAt cs = true) :
    ∃ p index, keywordAt? table cs = some (p, index) ∧ p.name = q.name := by
  cases hFound : keywordAt? table cs with
  | none =>
    have hFalse := keywordAt?_eq_none_iff.mp hFound q hq
    rw [h] at hFalse
    cases hFalse
  | some found =>
    obtain ⟨p, index⟩ := found
    obtain ⟨hGet, hStands, -⟩ := keywordAt?_eq_some_iff.mp hFound
    have hp := hNames p (List.mem_of_getElem? hGet)
    exact ⟨p, index, rfl, name_eq_of_standsAt hp (hNames q hq) hStands h⟩

/-- In a table of different identifiers the same entry is found at a place whatever the order
of the table: at most one keyword stands there. -/
theorem find?_standsAt_perm {table table' : List Parameter} (h : table.Perm table')
    (hNames : ∀ p ∈ table, IsIdentifier p.name) (hNodup : (table.map (·.name)).Nodup)
    (cs : List Char) : table.find? (·.standsAt cs) = table'.find? (·.standsAt cs) := by
  refine List.find?_eq_find?_of_perm h ?_
  rintro p ⟨hp, hpStands⟩ q ⟨hq, hqStands⟩
  have hName := name_eq_of_standsAt (close_notMem (hNames p hp)) (close_notMem (hNames q hq))
    hpStands hqStands
  exact List.inj_on_of_nodup_map hNodup hp hq hName

/-- What does not fit is not found at the end of a list. -/
theorem find?_concat_of_neg {α : Type} {fits : α → Bool} {last : α} (l : List α)
    (h : fits last = false) : (l ++ [last]).find? fits = l.find? fits := by
  rw [List.find?_append, List.find?_singleton, h, if_neg Bool.false_ne_true, Option.or_none]

end TypedSteps
