import TypedSteps.Proofs.Regex.Lookahead.Escapes

/-!
# How far bounds and groups are looked at

Bounds end with a brace and perhaps a mark behind it, and what opens a group ends with a
colon, a parenthesis or an angle bracket. So a parenthesis that follows the text is no part
of them.

* `settles_readBounds` — the bounds of repetitions;
* `settles_readOpening` — how groups open.
-/

namespace TypedSteps

-- ---------------------------------------------------------------------------
-- Bounds
-- ---------------------------------------------------------------------------

section Bounds

variable {f : Flags} {cs : List Char}

/-- The blanks before the digits are counted among what is taken. -/
theorem le_readDigits {skip : Nat} (h : skip ≤ cs.length) : skip ≤ (readDigits f skip cs).2 := by
  induction cs generalizing skip with
  | nil =>
    rw [Nat.le_zero.mp h]
    exact Nat.zero_le _
  | cons c cs ih =>
    cases skip with
    | zero => exact Nat.zero_le _
    | succ skip => exact Nat.succ_le_succ (ih (Nat.le_of_succ_le_succ h))

/-- Digits that end within a text end there whatever follows. -/
theorem readDigits_append {skip : Nat} (h : (readDigits f skip cs).2 < cs.length)
    (more : List Char) : readDigits f skip (cs ++ more) = readDigits f skip cs := by
  induction cs generalizing skip with
  | nil => cases h
  | cons c cs ih =>
    rw [List.cons_append]
    cases skip with
    | succ skip =>
      have hlt : (readDigits f skip cs).2 < cs.length := Nat.lt_of_succ_lt_succ h
      rw [readDigits, readDigits, ih hlt]
    | zero =>
      rw [readDigits] at h ⊢
      rw [readDigits]
      split
      next hDigit =>
        rw [if_pos hDigit] at h
        have hlt : (readDigits f (f.blanks cs) cs).2 < cs.length := Nat.lt_of_succ_lt_succ h
        -- another digit or the end comes behind the blanks, so these end within the text
        have hBlanks : f.blanks cs < cs.length :=
          Nat.lt_of_le_of_lt (le_readDigits (f.blanks_le cs)) hlt
        rw [Flags.blanks_append hBlanks, ih hlt]
      next => rfl

/-- A number with blanks around it is settled where something stands behind them. -/
theorem readNumber_append {n taken : Nat} (h : readNumber f cs = .ok (n, taken))
    (hlt : taken < cs.length) (more : List Char) :
    readNumber f (cs ++ more) = .ok (n, taken) := by
  rw [readNumber] at h ⊢
  generalize hBefore : (cs.takeWhile Unicode.isWhiteSpace).length = before at h
  generalize hDigits : readDigits f 0 (cs.drop before) = digits at h
  dsimp only at h
  generalize hAfter : ((cs.drop (before + digits.2)).takeWhile Unicode.isWhiteSpace).length = after
    at h
  split at h
  next => cases h
  next hFits =>
    cases h
    -- blanks before, digits and blanks behind, each of them ending within the text
    have hSpace : (cs ++ more).takeWhile Unicode.isWhiteSpace =
        cs.takeWhile Unicode.isWhiteSpace := takeWhile_append_of_lt (by omega) more
    have hRead : readDigits f 0 ((cs ++ more).drop before) = digits := by
      rw [List.drop_append_of_le_length (by omega), readDigits_append, hDigits]
      rw [hDigits, List.length_drop]
      omega
    have hRest : ((cs ++ more).drop (before + digits.2)).takeWhile Unicode.isWhiteSpace =
        (cs.drop (before + digits.2)).takeWhile Unicode.isWhiteSpace := by
      rw [List.drop_append_of_le_length (by omega), takeWhile_append_of_lt]
      rw [hAfter, List.length_drop]
      omega
    simp only [hSpace, hBefore, hRead, hRest, hAfter]
    rw [if_neg hFits]

/-- Bounds need a number. -/
theorem readNumber_nil : readNumber f [] = .error .bounds := by
  rfl

/-- The mark behind bounds is looked for beyond blanks. Where these fill the text, a
parenthesis behind it is no mark, and neither is anything in a comment that is open. -/
theorem settles_close {min taken : Nat} {max : Option Nat} {found : Bounds × Nat}
    (h : Bounds.close f min max taken cs = .ok found) (rest : List Char)
    (hOpen : found.2 = taken → f.InComment cs → '\n' ∉ rest) :
    taken ≤ found.2 ∧ found.2 ≤ taken + cs.length ∧
      Bounds.close f min max taken (cs ++ ')' :: rest) = .ok found := by
  rw [Bounds.close] at h ⊢
  split at h
  next => cases h
  next hOrder =>
    rw [if_neg hOrder]
    by_cases hlt : f.blanks cs < cs.length
    · obtain ⟨c, after, hDrop, hLen, hMore⟩ := exists_drop_blanks hlt
      simp only [Flags.blanks_append hlt, hMore] at h ⊢
      simp only [hDrop] at h
      split at h
      -- a mark, which the bounds take with them
      next heq =>
        cases heq
        cases h
        exact ⟨by omega, by omega, rfl⟩
      -- no mark, and the character that is none stands in the text
      next hMark =>
        cases h
        refine ⟨Nat.le_refl _, Nat.le_add_right _ _, ?_⟩
        split
        next heq =>
          obtain ⟨rfl, -⟩ := List.cons.inj heq
          exact (hMark _ rfl).elim
        next => rfl
    · -- the text ends with the brace and blanks
      have hle := Nat.le_of_not_lt hlt
      have hFill : f.blanks cs = cs.length := Nat.le_antisymm (f.blanks_le cs) hle
      simp only [List.drop_eq_nil_of_le hle] at h
      cases h
      refine ⟨Nat.le_refl _, Nat.le_add_right _ _, ?_⟩
      by_cases hComment : f.InComment cs
      · have hNone : '\n' ∉ ')' :: rest := by
          rw [List.mem_cons, not_or]
          exact ⟨by decide, hOpen rfl hComment⟩
        simp only [hComment.blanks hNone, List.drop_length]
      · simp only [Flags.blanks_fill hFill hComment, List.drop_left]
        rfl

/-- A number behind blanks is settled where something stands behind it. -/
theorem readNumber_blanks_append {n taken : Nat}
    (h : readNumber f (cs.drop (f.blanks cs)) = .ok (n, taken))
    (hlt : f.blanks cs + taken < cs.length) (more : List Char) :
    f.blanks (cs ++ more) = f.blanks cs ∧
      readNumber f ((cs ++ more).drop (f.blanks cs)) = .ok (n, taken) := by
  have hBlanks : f.blanks cs < cs.length := Nat.lt_of_le_of_lt (Nat.le_add_right _ _) hlt
  refine ⟨Flags.blanks_append hBlanks more, ?_⟩
  rw [List.drop_append_of_le_length (Nat.le_of_lt hBlanks)]
  refine readNumber_append h ?_ more
  rw [List.length_drop]
  omega

/-- The bounds behind a comma, which stands before the place `start`: the brace alone, or a second
number and the brace. -/
def boundsBehindComma (f : Flags) (min start : Nat) (cs : List Char) :
    Except SyntaxError (Bounds × Nat) :=
  match cs.drop (f.blanks cs) with
  | '}' :: after => Bounds.close f min none (start + f.blanks cs + 1) after
  | second =>
    match readNumber f second with
    | .error e => .error e
    | .ok (max, more) =>
      match second.drop more with
      | '}' :: after => Bounds.close f min (some max) (start + f.blanks cs + more + 1) after
      | _ => .error .bounds

/-- Bounds are a number, and then a brace or a comma. -/
theorem readBounds_eq (f : Flags) (cs : List Char) :
    readBounds f cs =
      match readNumber f (cs.drop (f.blanks cs)) with
      | .error e => .error e
      | .ok (min, taken) =>
        match cs.drop (f.blanks cs + taken) with
        | '}' :: rest => Bounds.close f min (some min) (f.blanks cs + taken + 1) rest
        | ',' :: rest => boundsBehindComma f min (f.blanks cs + taken + 1) rest
        | _ => .error .bounds := rfl

/-- The bounds behind a comma are read up to their brace and the mark behind it. -/
theorem settles_boundsBehindComma {min start : Nat} {rest : List Char} {found : Bounds × Nat}
    (h : boundsBehindComma f min start cs = .ok found)
    (hOpen : ∀ n, found.2 = start + n → f.InComment (cs.drop n) → '\n' ∉ rest) :
    start ≤ found.2 ∧ found.2 ≤ start + cs.length ∧
      boundsBehindComma f min start (cs ++ ')' :: rest) = .ok found := by
  rw [boundsBehindComma] at h ⊢
  have hlt : f.blanks cs < cs.length := by
    refine Nat.lt_of_not_le fun hle => ?_
    simp only [List.drop_eq_nil_of_le hle, readNumber_nil] at h
    cases h
  obtain ⟨c, second, hDrop, hLen, hMore⟩ := exists_drop_blanks hlt
  have hBehind : cs.drop (f.blanks cs + 1) = second := (drop_append_of_cons hDrop).2.1
  simp only [Flags.blanks_append hlt, hMore]
  simp only [hDrop] at h
  split at h
  -- the brace alone
  next after heq =>
    cases heq
    have hClose := settles_close h rest fun hTaken hComment =>
      hOpen (f.blanks cs + 1) (by omega) (by rwa [hBehind])
    exact ⟨by omega, by omega, hClose.2.2⟩
  -- the second number, up to the brace behind it
  next hBrace =>
    split at h
    next => cases h
    next max more hMax =>
      split at h
      next after hEqAfter =>
        obtain ⟨hLenAfter, hDropAfter, hMoreAfter⟩ := drop_append_of_cons hEqAfter
        rw [List.length_cons] at hLenAfter
        have hSecond := readNumber_append hMax (by rw [List.length_cons]; omega) (')' :: rest)
        have hAfter : cs.drop (f.blanks cs + more + 1) = after := by
          rw [Nat.add_assoc, ← List.drop_drop, hDrop, hDropAfter]
        have hClose := settles_close h rest fun hTaken hComment =>
          hOpen (f.blanks cs + more + 1) (by omega) (by rwa [hAfter])
        rw [← List.cons_append]
        split
        next hEqMore =>
          cases hEqMore
          exact (hBrace _ rfl).elim
        next =>
          simp only [hSecond, hMoreAfter]
          exact ⟨by omega, by omega, hClose.2.2⟩
      next => cases h

/-- Bounds are read up to their brace and the mark behind it. -/
theorem settles_readBounds {rest : List Char} {found : Bounds × Nat}
    (h : readBounds f cs = .ok found)
    (hOpen : f.InComment (cs.drop found.2) → '\n' ∉ rest) :
    found.2 ≤ cs.length ∧ readBounds f (cs ++ ')' :: rest) = .ok found := by
  rw [readBounds_eq] at h ⊢
  split at h
  next => cases h
  next min taken hMin =>
    split at h
    -- one number alone
    next after heq =>
      obtain ⟨hLen, hDrop, hMore⟩ := drop_append_of_cons heq
      obtain ⟨hBlanks, hFirst⟩ := readNumber_blanks_append hMin (by omega) (')' :: rest)
      have hClose := settles_close h rest fun hTaken hComment => hOpen (by
        rwa [hTaken, hDrop])
      rw [hBlanks, hFirst]
      simp only [hMore]
      exact ⟨by omega, hClose.2.2⟩
    -- a comma, and what stands behind it
    next behind heq =>
      obtain ⟨hLen, hDrop, hMore⟩ := drop_append_of_cons heq
      obtain ⟨hBlanks, hFirst⟩ := readNumber_blanks_append hMin (by omega) (')' :: rest)
      obtain ⟨-, hle, hSame⟩ := settles_boundsBehindComma h fun n hTaken hComment => hOpen (by
        rwa [hTaken, ← List.drop_drop, hDrop])
      rw [hBlanks, hFirst]
      simp only [hMore]
      exact ⟨by omega, hSame⟩
    next => cases h

end Bounds

-- ---------------------------------------------------------------------------
-- Groups
-- ---------------------------------------------------------------------------

section Groups

variable {f : Flags} {cs : List Char} {opening : Opening} {before taken : Nat}

/-- The name of a group ends with its bracket. -/
theorem settles_readGroupName (h : readGroupName cs before = .ok (opening, taken))
    (more : List Char) :
    taken ≤ before + cs.length ∧ cs ≠ [] ∧
      readGroupName (cs ++ more) before = .ok (opening, taken) := by
  rw [readGroupName] at h ⊢
  generalize hName : cs.takeWhile (· != '>') = name at h
  split at h
  next => cases h
  next hValid =>
    cases h
    rw [Bool.or_eq_true, not_or, List.isEmpty_iff, List.drop_eq_nil_iff, Nat.not_le] at hValid
    obtain ⟨hlt, hLetters⟩ := hValid
    have hSame : (cs ++ more).takeWhile (· != '>') = name := by
      rw [takeWhile_append_of_lt (by rwa [hName]), hName]
    have hNonempty : ((cs ++ more).drop name.length).isEmpty = false := by
      rw [List.isEmpty_eq_false_iff, ne_eq, List.drop_eq_nil_iff, Nat.not_le, List.length_append]
      omega
    refine ⟨by omega, List.ne_nil_of_length_pos (Nat.zero_lt_of_lt hlt), ?_⟩
    simp only [hSame, hNonempty, Bool.false_or]
    rw [if_neg hLetters]

/-- Flags end with the colon or the parenthesis behind them. -/
theorem settles_readFlags (h : readFlags f cs before = .ok (opening, taken)) (more : List Char) :
    taken ≤ before + cs.length ∧ cs ≠ [] ∧
      readFlags f (cs ++ more) before = .ok (opening, taken) := by
  rw [readFlags] at h ⊢
  generalize hLetters : cs.takeWhile (fun c => c != ':' && c != ')') = letters at h
  have hlt : letters.length < cs.length := by
    refine Nat.lt_of_not_le fun hle => ?_
    rw [List.drop_eq_nil_of_le hle] at h
    cases h
  have hSame : (cs ++ more).takeWhile (fun c => c != ':' && c != ')') = letters := by
    rw [takeWhile_append_of_lt (by rwa [hLetters]), hLetters]
  obtain ⟨c, rest, hDrop⟩ :=
    List.exists_cons_of_ne_nil (mt List.drop_eq_nil_iff.mp (Nat.not_le.mpr hlt))
  obtain ⟨hLen, -, hMore⟩ := drop_append_of_cons hDrop
  have hNonempty : cs ≠ [] := List.ne_nil_of_length_pos (Nat.zero_lt_of_lt hlt)
  simp only [hSame, hMore]
  rw [hDrop] at h
  split at h
  next heq hChange =>
    cases heq
    cases h
    rw [hChange]
    exact ⟨by omega, hNonempty, rfl⟩
  next heq hChange =>
    cases heq
    rw [hChange]
    split at h
    next => cases h
    next hSome =>
      cases h
      refine ⟨by omega, hNonempty, ?_⟩
      exact if_neg hSome
  next => cases h

/-- A bracket behind the mark opens a named group, unless it looks behind. -/
theorem readOpening_bracket {skip : Nat} {d : Char} {ds : List Char} (hSkip : f.blanks cs = skip)
    (hDrop : cs.drop skip = '?' :: '<' :: d :: ds) (hBehind : d ≠ '=') (hNotBehind : d ≠ '!') :
    readOpening f cs = readGroupName (d :: ds) (skip + 2) := by
  rw [readOpening, hSkip]
  simp only [hDrop]
  split
  case h_3 heq =>
    cases heq
    exact absurd rfl hBehind
  case h_4 heq =>
    cases heq
    exact absurd rfl hNotBehind
  case h_6 heq =>
    cases heq
    rfl
  case h_7 _ _ _ _ _ _ hName heq =>
    cases heq
    exact (hName _ rfl).elim
  case h_8 _ _ _ _ _ _ hMark => exact (hMark _ rfl).elim
  -- the other forms have another sign behind the mark
  all_goals
    next heq => cases heq

/-- Any other sign behind the mark is the first of the flags, unless it looks ahead or a name
follows. -/
theorem readOpening_flags {skip : Nat} {d : Char} {ds : List Char} (hSkip : f.blanks cs = skip)
    (hDrop : cs.drop skip = '?' :: d :: ds) (hAhead : d ≠ '=') (hNotAhead : d ≠ '!')
    (hBracket : d ≠ '<') (hName : ∀ name, d :: ds ≠ 'P' :: '<' :: name) :
    readOpening f cs = readFlags f (d :: ds) (skip + 1) := by
  rw [readOpening, hSkip]
  simp only [hDrop]
  split
  case h_1 heq =>
    cases heq
    exact absurd rfl hAhead
  case h_2 heq =>
    cases heq
    exact absurd rfl hNotAhead
  case h_5 heq =>
    cases heq
    exact absurd rfl (hName _)
  case h_7 heq =>
    cases heq
    rfl
  case h_8 hMark => exact (hMark _ rfl).elim
  -- the other forms have the bracket
  all_goals
    next heq =>
      cases heq
      exact absurd rfl hBracket

/-- Without the mark a group without a name is opened. -/
theorem readOpening_plain {skip : Nat} {c : Char} {after : List Char} (hSkip : f.blanks cs = skip)
    (hDrop : cs.drop skip = c :: after) (hMark : c ≠ '?') :
    readOpening f cs = .ok (.capture none, skip) := by
  rw [readOpening, hSkip]
  simp only [hDrop]
  split
  case h_8 => rfl
  all_goals
    next heq =>
      cases heq
      exact absurd rfl hMark

/-- How a group opens is settled within a text, unless blanks fill it: then it opens a group
without a name, which is never closed. -/
theorem settles_readOpening (h : readOpening f cs = .ok (opening, taken)) (rest : List Char) :
    (taken ≤ cs.length ∧ readOpening f (cs ++ ')' :: rest) = .ok (opening, taken)) ∨
      (cs.length ≤ taken ∧ opening = .capture none) := by
  by_cases hlt : f.blanks cs < cs.length
  · left
    obtain ⟨c, after, hDrop, hLen, hMore⟩ := exists_drop_blanks hlt
    have hSkip := Flags.blanks_append hlt (')' :: rest)
    have hMore := hMore (')' :: rest)
    rw [readOpening] at h
    simp only [hDrop] at h
    split at h
    next => cases h
    next => cases h
    next => cases h
    next => cases h
    -- a name, with and without a letter before its bracket
    next name heq =>
      cases heq
      obtain ⟨hle, -, hSame⟩ := settles_readGroupName h (')' :: rest)
      rw [List.length_cons, List.length_cons] at hLen
      refine ⟨by omega, ?_⟩
      rw [readOpening, hSkip]
      simp only [hMore]
      exact hSame
    next name hBehind hNotBehind heq =>
      cases heq
      obtain ⟨hle, hNonempty, hSame⟩ := settles_readGroupName h (')' :: rest)
      rw [List.length_cons] at hLen
      obtain ⟨d, ds, rfl⟩ := List.exists_cons_of_ne_nil hNonempty
      refine ⟨by omega, (readOpening_bracket hSkip hMore ?_ ?_).trans hSame⟩
      · rintro rfl
        exact hBehind _ rfl
      · rintro rfl
        exact hNotBehind _ rfl
    -- flags: they are no other form of opening, and more text does not make them one
    next letters hAhead hNotAhead hBehind hNotBehind hName hBracket heq =>
      cases heq
      obtain ⟨hle, hNonempty, hSame⟩ := settles_readFlags h (')' :: rest)
      obtain ⟨d, ds, rfl⟩ := List.exists_cons_of_ne_nil hNonempty
      refine ⟨by omega, (readOpening_flags hSkip hMore ?_ ?_ ?_ ?_).trans hSame⟩
      · rintro rfl
        exact hAhead _ rfl
      · rintro rfl
        exact hNotAhead _ rfl
      · rintro rfl
        exact hBracket _ rfl
      · intro name heq
        obtain ⟨rfl, hTail⟩ := List.cons.inj heq
        cases ds with
        | nil => cases hTail
        | cons e es =>
          cases hTail
          exact hName _ rfl
    next hMark =>
      cases h
      refine ⟨by omega, readOpening_plain hSkip hMore ?_⟩
      rintro rfl
      exact hMark _ rfl
  · -- nothing but blanks is left, which is an opening without a mark
    right
    have hle := Nat.le_of_not_lt hlt
    rw [readOpening] at h
    simp only [List.drop_eq_nil_of_le hle] at h
    cases h
    exact ⟨hle, rfl⟩

end Groups

end TypedSteps
