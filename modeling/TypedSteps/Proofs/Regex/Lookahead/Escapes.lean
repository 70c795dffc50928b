import TypedSteps.Regex.Reading

/-!
# How far escapes are looked at

The parts of a pattern are read by functions that look ahead. What they find at the start of
a text does not change when more text follows it, as long as they stop before its end; and
where something must end the part, they do.

* `Settles` — a reader is not affected by what follows a text;
* `Flags.InComment` — a comment that is still open at the end of a text;
* `blanks_append`, `blanks_fill`, `InComment.blanks` — blanks before more text;
* `settles_readEscape` — escapes.
-/

namespace TypedSteps

open Unicode (CharSet)

/-- What a reader finds at the start of a text lies in the text, and more text behind it makes
no difference. -/
def Settles {α : Type} (read : List Char → Except SyntaxError (α × Nat)) (cs more : List Char) :
    Prop :=
  ∀ found taken, read cs = .ok (found, taken) →
    taken ≤ cs.length ∧ read (cs ++ more) = .ok (found, taken)

/-- A result under a map that succeeds, read backwards. -/
theorem exists_of_map_eq_ok {α β : Type} {g : α → β} {x : Except SyntaxError α} {b : β}
    (h : x.map g = .ok b) : ∃ a, x = .ok a ∧ g a = b := by
  cases x with
  | error e => cases h
  | ok a =>
    cases h
    exact ⟨a, rfl, rfl⟩

-- ---------------------------------------------------------------------------
-- Blanks
-- ---------------------------------------------------------------------------

/-- Blanks either end within a text, or they fill it, and what follows the text begins within
a comment or without one. -/
theorem blankRun_append (inComment : Bool) (cs : List Char) :
    (Flags.blankRun inComment cs < cs.length ∧
      ∀ more, Flags.blankRun inComment (cs ++ more) = Flags.blankRun inComment cs) ∨
    ∃ still, ∀ more,
      Flags.blankRun inComment (cs ++ more) = cs.length + Flags.blankRun still more := by
  induction cs generalizing inComment with
  | nil => exact .inr ⟨inComment, fun more => (Nat.zero_add _).symm⟩
  | cons c cs ih =>
    -- the state in which the rest is looked at, if the character is ignored
    have hGoOn (next : Bool) (hNext : ∀ more, Flags.blankRun inComment (c :: (cs ++ more)) =
        Flags.blankRun next (cs ++ more) + 1) :
        (Flags.blankRun inComment (c :: cs) < (c :: cs).length ∧
          ∀ more, Flags.blankRun inComment (c :: cs ++ more) =
            Flags.blankRun inComment (c :: cs)) ∨
        ∃ still, ∀ more, Flags.blankRun inComment (c :: cs ++ more) =
          (c :: cs).length + Flags.blankRun still more := by
      have hNil := hNext []
      rw [List.append_nil] at hNil
      rcases ih next with ⟨hlt, hSame⟩ | ⟨still, hFill⟩
      · left
        rw [hNil]
        refine ⟨Nat.succ_lt_succ hlt, ?_⟩
        intro more
        rw [List.cons_append, hNext, hSame]
      · right
        refine ⟨still, ?_⟩
        intro more
        rw [List.cons_append, hNext, hFill, List.length_cons]
        omega
    -- a comment ignores everything, and outside one white space and a hash are ignored
    cases inComment with
    | true => exact hGoOn (c != '\n') fun more => by simp [Flags.blankRun]
    | false =>
      by_cases hWhite : Unicode.isWhiteSpace c = true
      · exact hGoOn false fun more => by simp [Flags.blankRun, hWhite]
      · by_cases hHash : (c == '#') = true
        · exact hGoOn true fun more => by simp [Flags.blankRun, hWhite, hHash]
        · left
          simp [Flags.blankRun, hWhite, hHash]

/-- A comment that is not ended by a line feed goes on to the end. -/
theorem blankRun_true_of_notMem {cs : List Char} (h : '\n' ∉ cs) :
    Flags.blankRun true cs = cs.length := by
  induction cs with
  | nil => rfl
  | cons c cs ih =>
    rw [List.mem_cons, not_or] at h
    have hc : (c != '\n') = true := bne_iff_ne.mpr (Ne.symm h.1)
    simp only [Flags.blankRun, if_true, hc, ih h.2, List.length_cons]

namespace Flags

/-- A text that is ignored altogether and ends within a comment. -/
def InComment (f : Flags) (cs : List Char) : Prop :=
  f.spaced = true ∧ ∀ more, blankRun false (cs ++ more) = cs.length + blankRun true more

variable {f : Flags} {cs : List Char}

theorem blanks_le (f : Flags) (cs : List Char) : f.blanks cs ≤ cs.length := by
  rw [blanks]
  split
  · have hNil := blankRun_append false cs
    rcases hNil with ⟨hlt, -⟩ | ⟨still, hFill⟩
    · exact Nat.le_of_lt hlt
    · have hFill := hFill []
      rw [List.append_nil] at hFill
      rw [hFill]
      exact Nat.le_refl _
  · exact Nat.zero_le _

/-- Blanks that end within a text end there whatever follows. -/
theorem blanks_append (h : f.blanks cs < cs.length) (more : List Char) :
    f.blanks (cs ++ more) = f.blanks cs := by
  rw [blanks] at h ⊢
  rw [blanks]
  split
  next hSpaced =>
    rw [if_pos hSpaced] at h
    rcases blankRun_append false cs with ⟨-, hSame⟩ | ⟨still, hFill⟩
    · exact hSame more
    · have hFill := hFill []
      rw [List.append_nil] at hFill
      rw [hFill] at h
      exact absurd h (Nat.not_lt.mpr (Nat.le_add_right _ _))
  next => rfl

/-- Blanks that fill a text end with it where a parenthesis follows, unless a comment is open
at the end. -/
theorem blanks_fill (h : f.blanks cs = cs.length) (hOpen : ¬ f.InComment cs) (rest : List Char) :
    f.blanks (cs ++ ')' :: rest) = cs.length := by
  rw [blanks] at h ⊢
  split
  next hSpaced =>
    rw [if_pos hSpaced] at h
    -- blanks that fill the text would end before it, or go on behind it
    rcases blankRun_append false cs with ⟨hlt, -⟩ | ⟨still, hFill⟩
    · omega
    · cases still with
      | true => exact absurd ⟨hSpaced, hFill⟩ hOpen
      | false => exact hFill (')' :: rest)
  next hSpaced =>
    rw [if_neg hSpaced] at h
    exact h

/-- A comment that is open at the end of a text takes what follows up to the end of the
line. -/
theorem InComment.blanks (h : f.InComment cs) {more : List Char} (hMore : '\n' ∉ more) :
    f.blanks (cs ++ more) = (cs ++ more).length := by
  rw [Flags.blanks, if_pos h.1, h.2, blankRun_true_of_notMem hMore, List.length_append]

end Flags

/-- Characters of a kind that end within a text end there whatever follows. -/
theorem takeWhile_append_of_lt {p : Char → Bool} {cs : List Char}
    (h : (cs.takeWhile p).length < cs.length)
    (more : List Char) : (cs ++ more).takeWhile p = cs.takeWhile p := by
  induction cs with
  | nil => cases h
  | cons c cs ih =>
    rw [List.cons_append, List.takeWhile_cons, List.takeWhile_cons]
    rw [List.takeWhile_cons] at h
    split
    next hc =>
      rw [if_pos hc] at h
      rw [ih (Nat.lt_of_succ_lt_succ h)]
    next => rfl

/-- A character that stands in a text still stands there when more text follows. -/
theorem drop_append_of_cons {cs rest : List Char} {n : Nat} {c : Char} (h : cs.drop n = c :: rest) :
    n + rest.length + 1 = cs.length ∧ cs.drop (n + 1) = rest ∧
      ∀ more, (cs ++ more).drop n = c :: (rest ++ more) := by
  have hLen := congrArg List.length h
  rw [List.length_drop, List.length_cons] at hLen
  refine ⟨by omega, ?_, ?_⟩
  · rw [← List.drop_drop, h, List.drop_one, List.tail_cons]
  · intro more
    rw [List.drop_append_of_le_length (by omega), h, List.cons_append]

/-- Where blanks end within a text, a character stands. -/
theorem exists_drop_blanks {f : Flags} {cs : List Char} (h : f.blanks cs < cs.length) :
    ∃ c rest, cs.drop (f.blanks cs) = c :: rest ∧ f.blanks cs + rest.length + 1 = cs.length ∧
      ∀ more, (cs ++ more).drop (f.blanks cs) = c :: (rest ++ more) := by
  obtain ⟨c, rest, hDrop⟩ :=
    List.exists_cons_of_ne_nil (mt List.drop_eq_nil_iff.mp (Nat.not_le.mpr h))
  obtain ⟨hLen, -, hMore⟩ := drop_append_of_cons hDrop
  exact ⟨c, rest, hDrop, hLen, hMore⟩

-- ---------------------------------------------------------------------------
-- Escapes
-- ---------------------------------------------------------------------------

section Braces

variable {f : Flags} {member : Char → Bool} {failure : SyntaxError}

/-- What stands in braces begins within the text, since the closing brace is still to come. -/
theorem lt_of_readBraced {skip : Nat} {cs : List Char} {found : List Char × Nat}
    (h : readBraced f member failure skip cs = .ok found) : skip < cs.length := by
  induction cs generalizing skip found with
  | nil => cases skip <;> cases h
  | cons c cs ih =>
    cases skip with
    | zero => exact Nat.succ_pos _
    | succ skip =>
      rw [readBraced] at h
      cases hRest : readBraced f member failure skip cs with
      | error e =>
        rw [hRest] at h
        cases h
      | ok rest => exact Nat.succ_lt_succ (ih hRest)

/-- A text in braces ends with its brace. -/
theorem settles_readBraced (skip : Nat) (cs more : List Char) :
    Settles (readBraced f member failure skip) cs more := by
  induction cs generalizing skip with
  | nil =>
    intro found taken h
    cases skip <;> cases h
  | cons c cs ih =>
    intro found taken h
    rw [List.cons_append]
    -- blanks that are still to be skipped come first
    cases skip with
    | succ skip =>
      rw [readBraced] at h ⊢
      cases hRest : readBraced f member failure skip cs with
      | error e =>
        rw [hRest] at h
        cases h
      | ok rest =>
        obtain ⟨read, n⟩ := rest
        rw [hRest] at h
        cases h
        obtain ⟨hle, hSame⟩ := ih skip _ _ hRest
        rw [hSame]
        exact ⟨Nat.succ_le_succ hle, rfl⟩
    | zero =>
      rw [readBraced] at h ⊢
      by_cases hClose : (c == '}') = true
      · rw [if_pos hClose] at h ⊢
        cases h
        exact ⟨Nat.succ_le_succ (Nat.zero_le _), rfl⟩
      · rw [if_neg hClose] at h ⊢
        -- another character of the name, and blanks behind it
        by_cases hMember : member c = true
        · rw [if_pos hMember] at h ⊢
          cases hRest : readBraced f member failure (f.blanks cs) cs with
          | error e =>
            rw [hRest] at h
            cases h
          | ok rest =>
            obtain ⟨read, n⟩ := rest
            rw [hRest] at h
            cases h
            obtain ⟨hle, hSame⟩ := ih _ _ _ hRest
            rw [Flags.blanks_append (lt_of_readBraced hRest), hSame]
            exact ⟨Nat.succ_le_succ hle, rfl⟩
        · rw [if_neg hMember] at h
          cases h

end Braces

section Escapes

variable {f : Flags}

/-- A fixed number of digits is read from the text, the blanks between them included. -/
theorem settles_readHexDigits (count : Nat) (cs more : List Char) :
    Settles (readHexDigits f count) cs more := by
  induction count generalizing cs with
  | zero =>
    intro found taken h
    cases h
    exact ⟨Nat.zero_le _, rfl⟩
  | succ count ih =>
    intro found taken h
    cases cs with
    | nil => cases h
    | cons c cs =>
      rw [List.cons_append]
      rw [readHexDigits] at h ⊢
      by_cases hDigit : (!Text.isHexDigit c) = true
      · rw [if_pos hDigit] at h
        cases h
      · rw [if_neg hDigit] at h ⊢
        -- the last digit ends the escape; any other has one more behind it
        by_cases hLast : (count == 0) = true
        · rw [if_pos hLast] at h ⊢
          cases h
          exact ⟨Nat.succ_le_succ (Nat.zero_le _), rfl⟩
        · rw [if_neg hLast] at h ⊢
          cases hRest : readHexDigits f count (cs.drop (f.blanks cs)) with
          | error e =>
            rw [hRest] at h
            cases h
          | ok rest =>
            obtain ⟨read, n⟩ := rest
            rw [hRest] at h
            cases h
            -- another digit has to come, so the blanks end before it
            have hlt : f.blanks cs < cs.length := by
              refine Nat.lt_of_not_le fun hle => ?_
              obtain ⟨m, rfl⟩ : ∃ m, count = m + 1 :=
                Nat.exists_eq_succ_of_ne_zero (by simpa using hLast)
              rw [List.drop_eq_nil_of_le hle] at hRest
              cases hRest
            obtain ⟨hle, hSame⟩ := ih _ _ _ hRest
            rw [List.length_drop] at hle
            rw [Flags.blanks_append hlt, List.drop_append_of_le_length (Nat.le_of_lt hlt), hSame]
            refine ⟨?_, rfl⟩
            rw [List.length_cons]
            omega

/-- A code point is read up to its brace, or up to the last of a fixed number of digits. -/
theorem settles_readCodePoint {count : Nat} (hCount : count ≠ 0) (cs more : List Char) :
    Settles (readCodePoint f count) cs more := by
  intro found taken h
  rw [readCodePoint] at h ⊢
  by_cases hlt : f.blanks cs < cs.length
  · obtain ⟨c, rest, hDrop, hLen, hMore⟩ := exists_drop_blanks hlt
    simp only [Flags.blanks_append hlt, hMore] at h ⊢
    simp only [hDrop] at h
    split at h
    -- digits in braces, as many as there are
    next rest heq =>
      cases heq
      split at h
      next digits n hRead =>
        obtain ⟨hle, hSame⟩ := settles_readBraced _ _ more _ _ hRead
        simp only [Flags.blanks_append (lt_of_readBraced hRead) more, hSame]
        split at h
        next d hChar =>
          cases h
          exact ⟨by omega, rfl⟩
        next => cases h
      next => cases h
    -- without a brace just the fixed number of digits
    next hBrace =>
      split at h
      next digits n hRead =>
        obtain ⟨hle, hSame⟩ := settles_readHexDigits _ _ more _ _ hRead
        rw [List.cons_append] at hSame
        rw [List.length_cons] at hle
        split
        next heq =>
          cases heq
          exact absurd rfl (hBrace _)
        next =>
          simp only [hSame]
          split at h
          next d hChar =>
            split at h
            next => cases h
            next hascii =>
              rw [if_neg hascii]
              cases h
              exact ⟨by omega, rfl⟩
          next => cases h
      next => cases h
  · -- nothing but blanks comes, and a digit has to
    have hNil : cs.drop (f.blanks cs) = [] := List.drop_eq_nil_of_le (Nat.le_of_not_lt hlt)
    obtain ⟨m, rfl⟩ := Nat.exists_eq_succ_of_ne_zero hCount
    simp only [hNil, readHexDigits] at h
    cases h

/-- A property is named in braces or by the one character behind the letter. -/
theorem settles_readPropertyQuery (cs more : List Char) :
    Settles (readPropertyQuery f) cs more := by
  intro found taken h
  rw [readPropertyQuery] at h ⊢
  by_cases hlt : f.blanks cs < cs.length
  · obtain ⟨c, rest, hDrop, hLen, hMore⟩ := exists_drop_blanks hlt
    simp only [Flags.blanks_append hlt, hMore] at h ⊢
    simp only [hDrop] at h
    split at h
    next heq => cases heq
    next heq => cases h
    next rest heq =>
      cases heq
      obtain ⟨⟨name, n⟩, hRead, hFound⟩ := exists_of_map_eq_ok h
      obtain ⟨hle, hSame⟩ := settles_readBraced _ _ more _ _ hRead
      simp only [Flags.blanks_append (lt_of_readBraced hRead) more, hSame]
      cases hFound
      exact ⟨by omega, rfl⟩
    -- a single letter names the property; the cases that are none stay so in front of more text
    next d ds hSlash hBrace heq =>
      cases heq
      cases h
      refine ⟨by omega, ?_⟩
      split
      next heq => cases heq
      next heq =>
        cases heq
        exact (hSlash rfl).elim
      next heq =>
        cases heq
        exact (hBrace rfl).elim
      next heq =>
        cases heq
        rfl
  · have hNil : cs.drop (f.blanks cs) = [] := List.drop_eq_nil_of_le (Nat.le_of_not_lt hlt)
    simp only [hNil] at h
    cases h

/-- A property that exists is settled with its name. -/
theorem settles_readProperty (negated : Bool) (cs more : List Char) :
    Settles (readProperty f negated) cs more := by
  intro found taken h
  rw [readProperty] at h ⊢
  split at h
  next => cases h
  next query n hRead =>
    obtain ⟨hle, hSame⟩ := settles_readPropertyQuery _ more _ _ hRead
    simp only [hSame]
    split at h
    next => cases h
    next hUnicode =>
      rw [if_neg hUnicode]
      split at h
      next => cases h
      next s hMembers =>
        obtain ⟨members, hNegate, hFound⟩ := exists_of_map_eq_ok h
        cases hFound
        exact ⟨hle, by rw [hNegate]; rfl⟩

/-- The edge of a word may be named in braces. Where no brace follows, the plain edge is meant, and
the parenthesis behind the text is no brace either. -/
theorem settles_readWordEdge (cs rest : List Char) :
    Settles (readWordEdge f) cs (')' :: rest) := by
  intro found taken h
  rw [readWordEdge.eq_def] at h ⊢
  split at h
  next inner =>
    by_cases hlt : f.blanks inner < inner.length
    · obtain ⟨c, after, hDrop, hLen, hMore⟩ := exists_drop_blanks hlt
      simp only [List.cons_append, Flags.blanks_append hlt, hMore] at h ⊢
      simp only [hDrop] at h
      split at h
      -- what stands in the braces is no name of an edge, so they are bounds
      next hName =>
        rw [if_pos hName]
        cases h
        exact ⟨Nat.zero_le _, rfl⟩
      next hName =>
        rw [if_neg hName]
        split at h
        next name n hRead =>
          obtain ⟨hle, hSame⟩ := settles_readBraced _ _ (')' :: rest) _ _ hRead
          simp only [hSame]
          split at h
          next edge hEdge =>
            cases h
            exact ⟨Nat.succ_le_succ hle, rfl⟩
          next => cases h
        next => cases h
    · have hNil : inner.drop (f.blanks inner) = [] :=
        List.drop_eq_nil_of_le (Nat.le_of_not_lt hlt)
      simp only [hNil] at h
      cases h
  -- no brace stands behind the letter, and none comes with the parenthesis
  next hBrace =>
    cases h
    refine ⟨Nat.zero_le _, ?_⟩
    split
    next heq =>
      cases cs with
      | nil => cases heq
      | cons c cs =>
        cases heq
        exact absurd rfl (hBrace _)
    next => rfl

/-- An escape is read up to where it ends; a parenthesis behind it is not part of it. -/
theorem settles_readEscape (cs rest : List Char) : Settles (readEscape f) cs (')' :: rest) := by
  intro found taken h
  cases cs with
  | nil => cases h
  | cons c cs =>
    rw [List.cons_append]
    rw [readEscape.eq_def] at h ⊢
    dsimp only at h ⊢
    split at h
    next hSelf =>
      rw [if_pos hSelf]
      cases h
      exact ⟨Nat.succ_le_succ (Nat.zero_le _), rfl⟩
    next hSelf =>
      rw [if_neg hSelf]
      -- the cases that look behind the letter: edges, properties, code points and classes
      split at h
      case h_12 =>
        split at h
        next edge n hRead =>
          obtain ⟨hle, hSame⟩ := settles_readWordEdge _ rest _ _ hRead
          simp only [hSame]
          cases h
          exact ⟨Nat.succ_le_succ hle, rfl⟩
        next => cases h
      case h_13 | h_14 =>
        obtain ⟨⟨s, n⟩, hRead, hFound⟩ := exists_of_map_eq_ok h
        obtain ⟨hle, hSame⟩ := settles_readProperty _ _ (')' :: rest) _ _ hRead
        rw [hSame]
        cases hFound
        exact ⟨Nat.succ_le_succ hle, rfl⟩
      case h_15 | h_16 | h_17 =>
        obtain ⟨⟨e, n⟩, hRead, hFound⟩ := exists_of_map_eq_ok h
        obtain ⟨hle, hSame⟩ := settles_readCodePoint (by decide) _ (')' :: rest) _ _ hRead
        rw [hSame]
        cases hFound
        exact ⟨Nat.succ_le_succ hle, rfl⟩
      case h_18 =>
        split at h
        next => cases h
        next s hClass =>
          split at h
          next members hNegate =>
            cases h
            exact ⟨Nat.succ_le_succ (Nat.zero_le _), rfl⟩
          next => cases h
      -- the other letters stand for themselves
      all_goals
        cases h
        exact ⟨Nat.succ_le_succ (Nat.zero_le _), rfl⟩

end Escapes

end TypedSteps
