import Mathlib.Data.List.DropRight
import TypedSteps.Proofs.Builtin.Denotation

/-!
# Trimming and splitting

Trimming undoes padding with white space, and splitting undoes joining.

* `trimCharacters_eq_iff` — a text is trimmed to what the white space at its ends leaves;
* `splitAt_append_cons` — a separator parts the pieces before it from those behind it;
* `splitAt_intercalate` — pieces without the separator come back from the text they make up.
-/

namespace TypedSteps

section Trimming

variable {item inner : List Char}

/-- White space at both ends is all that trimming takes away. -/
theorem Trims.trimCharacters_eq (h : Trims item inner) : Text.trimCharacters item = inner := by
  obtain ⟨before, after, rfl, hBefore, hAfter, hFirst, hLast⟩ := h
  have hTrim : Text.trimCharacters (before ++ inner ++ after) =
      ((inner ++ after).dropWhile Unicode.isWhiteSpace).rdropWhile Unicode.isWhiteSpace := by
    rw [Text.trimCharacters, List.append_assoc, List.dropWhile_append_of_pos hBefore]
    rfl
  rw [hTrim]
  cases inner with
  | nil => rw [List.nil_append, List.dropWhile_eq_nil_iff.mpr hAfter, List.rdropWhile_nil]
  | cons c inner =>
    have hc : ¬ Unicode.isWhiteSpace c = true := Bool.eq_false_iff.mp (hFirst c rfl)
    have hBlank : ∀ d ∈ after.reverse, Unicode.isWhiteSpace d = true := fun d hd =>
      hAfter d (List.mem_reverse.mp hd)
    rw [List.cons_append, List.dropWhile_cons_of_neg hc, ← List.cons_append, List.rdropWhile,
      List.reverse_append, List.dropWhile_append_of_pos hBlank]
    refine List.rdropWhile_eq_self_iff.mpr fun hne => Bool.eq_false_iff.mp (hLast _ ?_)
    exact List.getLast?_eq_some_getLast hne

/-- A text is trimmed to what the white space at its ends leaves. -/
theorem trimCharacters_eq_iff : Text.trimCharacters item = inner ↔ Trims item inner := by
  constructor
  · rintro rfl
    exact trims_trimCharacters item
  · exact Trims.trimCharacters_eq

end Trimming

section Splitting

variable {c : Char}

theorem splitAt_of_notMem {piece : List Char} (h : c ∉ piece) : Text.splitAt c piece = [piece] := by
  induction piece with
  | nil => rfl
  | cons d piece ih =>
    rw [List.mem_cons, not_or] at h
    rw [Text.splitAt, if_neg (Ne.symm h.1), ih h.2]

/-- A separator parts the pieces before it from those behind it. -/
theorem splitAt_append_cons (c : Char) (cs ds : List Char) :
    Text.splitAt c (cs ++ c :: ds) = Text.splitAt c cs ++ Text.splitAt c ds := by
  induction cs with
  | nil => exact if_pos rfl
  | cons d cs ih =>
    rw [List.cons_append, Text.splitAt, Text.splitAt, ih]
    by_cases hd : d = c
    · rw [if_pos hd, if_pos hd, List.cons_append]
    · rw [if_neg hd, if_neg hd]
      cases hPieces : Text.splitAt c cs with
      | nil => exact absurd hPieces (Text.splitAt_ne_nil c cs)
      | cons piece pieces => rfl

/-- Pieces without the separator come back from the text they make up. -/
theorem splitAt_intercalate {pieces : List (List Char)} (hSome : pieces ≠ [])
    (h : ∀ piece ∈ pieces, c ∉ piece) : Text.splitAt c ([c].intercalate pieces) = pieces := by
  induction pieces with
  | nil => exact absurd rfl hSome
  | cons piece pieces ih =>
    obtain ⟨hPiece, hPieces⟩ := List.forall_mem_cons.mp h
    cases pieces with
    | nil => rw [List.intercalate_singleton, splitAt_of_notMem hPiece]
    | cons next pieces =>
      have hJoin : [c].intercalate (piece :: next :: pieces) =
          piece ++ c :: [c].intercalate (next :: pieces) := by
        rw [List.intercalate_cons_cons, List.append_assoc, List.singleton_append]
      rw [hJoin, splitAt_append_cons, splitAt_of_notMem hPiece,
        ih (List.cons_ne_nil next pieces) hPieces, List.singleton_append]

end Splitting

end TypedSteps
