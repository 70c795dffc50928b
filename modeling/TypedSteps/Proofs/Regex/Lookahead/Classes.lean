import TypedSteps.Proofs.Regex.Lookahead.Escapes

/-!
# How far classes are looked at

Inside a class every part is looked at up to what comes after it. Where that is the end of
the text, the class stays open; where it is not, a parenthesis that follows the text makes
no difference.

* `opening_append` — how classes open;
* `readNamedClass?_append` — named classes;
* `settles_readMembers` — members and ranges.
-/

namespace TypedSteps

open Unicode (CharSet)

-- ---------------------------------------------------------------------------
-- Classes
-- ---------------------------------------------------------------------------

section Classes

variable {f : Flags} {cs : List Char}

/-- The blanks before the hyphens are counted among what is taken. -/
theorem le_leadingHyphens {skip : Nat} (h : skip ≤ cs.length) :
    skip ≤ (ClassFrame.leadingHyphens f skip cs).2 := by
  induction cs generalizing skip with
  | nil =>
    rw [Nat.le_zero.mp h]
    exact Nat.zero_le _
  | cons c cs ih =>
    cases skip with
    | zero => exact Nat.zero_le _
    | succ skip => exact Nat.succ_le_succ (ih (Nat.le_of_succ_le_succ h))

/-- Hyphens that end within a text end there whatever follows. -/
theorem leadingHyphens_append {skip : Nat}
    (h : (ClassFrame.leadingHyphens f skip cs).2 < cs.length) (more : List Char) :
    ClassFrame.leadingHyphens f skip (cs ++ more) = ClassFrame.leadingHyphens f skip cs := by
  induction cs generalizing skip with
  | nil => cases h
  | cons c cs ih =>
    rw [List.cons_append]
    cases skip with
    | succ skip =>
      have hlt : (ClassFrame.leadingHyphens f skip cs).2 < cs.length := Nat.lt_of_succ_lt_succ h
      rw [ClassFrame.leadingHyphens, ClassFrame.leadingHyphens, ih hlt]
    | zero =>
      rw [ClassFrame.leadingHyphens] at h ⊢
      rw [ClassFrame.leadingHyphens]
      split
      next hHyphen =>
        rw [if_pos hHyphen] at h
        have hlt : (ClassFrame.leadingHyphens f (f.blanks cs) cs).2 < cs.length :=
          Nat.lt_of_succ_lt_succ h
        -- another hyphen or the first member comes behind the blanks
        have hBlanks : f.blanks cs < cs.length :=
          Nat.lt_of_le_of_lt (le_leadingHyphens (f.blanks_le cs)) hlt
        rw [Flags.blanks_append hBlanks, ih hlt]
      next => rfl

/-- Whether a caret stands where a class opens, and where the members of the class begin. -/
def ClassFrame.caret (f : Flags) (cs : List Char) : Bool × Nat :=
  match cs.drop (f.blanks cs) with
  | '^' :: rest => (true, f.blanks cs + 1 + f.blanks rest)
  | _ => (false, f.blanks cs)

/-- The opening of a class from where its members begin: hyphens are members, and without
those so is a closing bracket. -/
def ClassFrame.openingFrom (f : Flags) (negated : Bool) (start : Nat) (cs : List Char) :
    ClassFrame × Nat :=
  let (hyphens, taken) := leadingHyphens f 0 (cs.drop start)
  let frame := addHyphens hyphens { negated := negated }
  match hyphens, cs.drop (start + taken) with
  | 0, ']' :: _ => (frame.add (.ofChar ']') 0, start + 1)
  | _, _ => (frame, start + taken)

/-- A class opens with a caret or without one, and its members follow. -/
theorem opening_eq (f : Flags) (cs : List Char) :
    ClassFrame.opening f cs =
      ClassFrame.openingFrom f (ClassFrame.caret f cs).1 (ClassFrame.caret f cs).2 cs :=
  rfl

/-- The members of a class begin behind its caret. -/
theorem le_openingFrom (f : Flags) (negated : Bool) (start : Nat) (cs : List Char) :
    start ≤ (ClassFrame.openingFrom f negated start cs).2 := by
  rw [ClassFrame.openingFrom]
  dsimp only
  split
  · exact Nat.le_succ _
  · exact Nat.le_add_right _ _

/-- Whether a class is negated is settled where its members begin within the text. -/
theorem caret_append (h : (ClassFrame.caret f cs).2 < cs.length) (more : List Char) :
    ClassFrame.caret f (cs ++ more) = ClassFrame.caret f cs := by
  -- where the members begin within the text, the blanks before them do so too
  have hlt : f.blanks cs < cs.length := by
    refine Nat.lt_of_le_of_lt ?_ h
    rw [ClassFrame.caret]
    split
    · omega
    · exact Nat.le_refl _
  obtain ⟨c, rest, hDrop, hLen, hMore⟩ := exists_drop_blanks hlt
  rw [ClassFrame.caret] at h ⊢
  rw [ClassFrame.caret]
  simp only [Flags.blanks_append hlt, hMore, hDrop] at h ⊢
  split at h
  next heq =>
    cases heq
    have hLtRest : f.blanks rest < rest.length := by
      dsimp only at h
      omega
    simp only [Flags.blanks_append hLtRest]
  -- the first character is no caret, and more text does not make it one
  next hCaret =>
    split
    next heq =>
      obtain ⟨rfl, -⟩ := List.cons.inj heq
      exact (hCaret _ rfl).elim
    next => rfl

/-- Hyphens and a bracket in front are settled where the opening ends within the text. -/
theorem openingFrom_append {negated : Bool} {start : Nat}
    (h : (ClassFrame.openingFrom f negated start cs).2 < cs.length) (more : List Char) :
    ClassFrame.openingFrom f negated start (cs ++ more) =
      ClassFrame.openingFrom f negated start cs := by
  have hStart : start < cs.length := Nat.lt_of_le_of_lt (le_openingFrom f negated start cs) h
  rw [ClassFrame.openingFrom] at h ⊢
  rw [ClassFrame.openingFrom]
  generalize hHyphens : ClassFrame.leadingHyphens f 0 (cs.drop start) = hyphens at h
  dsimp only at h
  -- where the hyphens filled the text, the opening would end with it
  have hlt : start + hyphens.2 < cs.length := by
    refine Nat.lt_of_not_le fun hle => ?_
    rw [List.drop_eq_nil_of_le hle] at h
    split at h
    next heq => cases heq
    next => omega
  have hSame : ClassFrame.leadingHyphens f 0 ((cs ++ more).drop start) = hyphens := by
    rw [List.drop_append_of_le_length (Nat.le_of_lt hStart), leadingHyphens_append, hHyphens]
    rw [hHyphens, List.length_drop]
    omega
  obtain ⟨c, rest, hDrop⟩ :=
    List.exists_cons_of_ne_nil (mt List.drop_eq_nil_iff.mp (Nat.not_le.mpr hlt))
  obtain ⟨-, -, hMore⟩ := drop_append_of_cons hDrop
  simp only [hSame, hMore, hDrop]
  -- a bracket counts as a member where no hyphen stands before it
  split
  next hNone heq =>
    obtain ⟨rfl, -⟩ := List.cons.inj heq
    rw [hNone]
    rfl
  next hBracket =>
    split
    next hNone heq =>
      obtain ⟨rfl, -⟩ := List.cons.inj heq
      exact (hBracket _ hNone rfl).elim
    next => rfl

/-- What opens a class is settled where it ends within a text. -/
theorem opening_append (h : (ClassFrame.opening f cs).2 < cs.length) (more : List Char) :
    ClassFrame.opening f (cs ++ more) = ClassFrame.opening f cs := by
  rw [opening_eq] at h ⊢
  have hCaret := Nat.lt_of_le_of_lt (le_openingFrom f _ _ cs) h
  rw [caret_append hCaret, openingFrom_append h, opening_eq]

/-- No named class has a parenthesis in its name. -/
theorem namedClass?_eq_none {name : List Char} (h : ')' ∈ name) : namedClass? name = none := by
  have hne (other : String) (hOther : ')' ∉ other.toList) : String.ofList name ≠ other := by
    rintro rfl
    rw [String.toList_ofList] at hOther
    exact hOther h
  rw [namedClass?]
  -- the names of all classes are looked at, and none is the given one
  split
  case h_15 => rfl
  all_goals
    next heq => exact absurd heq (hne _ (by decide))

/-- Reads the name of a named class and the bracket behind it. -/
def namedClassBody? (negated : Bool) (body : List Char) : Option (CharSet × Bool × Nat) :=
  match body.drop (body.takeWhile (· != ':')).length with
  | ':' :: ']' :: _ =>
    (namedClass? (body.takeWhile (· != ':'))).map fun s =>
      (s, negated, (body.takeWhile (· != ':')).length + 3 + negated.toNat)
  | _ => none

/-- A named class ends with a colon and a bracket. Where they are not in the text, the parenthesis
behind it would be part of the name. -/
theorem namedClassBody?_append (negated : Bool) (body rest : List Char) :
    namedClassBody? negated (body ++ ')' :: rest) = namedClassBody? negated body := by
  rw [namedClassBody?, namedClassBody?]
  by_cases hlt : (body.takeWhile (· != ':')).length < body.length
  · rw [takeWhile_append_of_lt hlt]
    obtain ⟨c, after, hDrop⟩ :=
      List.exists_cons_of_ne_nil (mt List.drop_eq_nil_iff.mp (Nat.not_le.mpr hlt))
    obtain ⟨-, -, hMore⟩ := drop_append_of_cons hDrop
    rw [hMore, hDrop]
    split
    next heq =>
      obtain ⟨rfl, hTail⟩ := List.cons.inj heq
      cases after with
      | nil => cases hTail
      | cons d ds =>
        obtain ⟨rfl, -⟩ := List.cons.inj hTail
        rfl
    next hOther =>
      split
      next heq =>
        cases heq
        exact (hOther _ rfl).elim
      next => rfl
  · -- the name would hold the parenthesis
    have hBody : body.takeWhile (· != ':') = body :=
      (List.takeWhile_prefix _).eq_of_length_le (Nat.le_of_not_lt hlt)
    have hAll : ∀ c ∈ body, (c != ':') = true := by
      rw [← hBody]
      exact List.all_eq_true.mp List.all_takeWhile
    have hName : ')' ∈ (body ++ ')' :: rest).takeWhile (· != ':') := by
      rw [List.takeWhile_append_of_pos hAll, List.takeWhile_cons_of_pos (by decide)]
      exact List.mem_append_right _ List.mem_cons_self
    rw [namedClass?_eq_none hName, hBody, List.drop_length]
    split <;> rfl

/-- The name of a named class may be negated by a caret. -/
theorem readNamedClass?_eq (body : List Char) :
    readNamedClass? (':' :: body) =
      match body with
      | '^' :: body => namedClassBody? true body
      | body => namedClassBody? false body := by
  have hParts : readNamedClass? (':' :: body) =
      namedClassBody? (match body with | '^' :: body => (true, body) | body => (false, body)).1
        (match body with | '^' :: body => (true, body) | body => (false, body)).2 := rfl
  rw [hParts]
  split <;> rfl

/-- A named class lies within the text. -/
theorem readNamedClass?_append (cs rest : List Char) :
    readNamedClass? (cs ++ ')' :: rest) = readNamedClass? cs := by
  have hNone (c : Char) (cs : List Char) (hc : c ≠ ':') : readNamedClass? (c :: cs) = none := by
    rw [readNamedClass?.eq_def]
    split
    next heq => exact absurd (List.cons.inj heq).1 hc
    next => rfl
  -- a colon has to come first, then perhaps a caret
  cases cs with
  | nil => exact hNone ')' rest (by decide)
  | cons c cs =>
    by_cases hc : c = ':'
    · subst hc
      rw [List.cons_append, readNamedClass?_eq, readNamedClass?_eq]
      cases cs with
      | nil => exact namedClassBody?_append false [] rest
      | cons d ds =>
        split
        next heq =>
          obtain ⟨rfl, rfl⟩ := List.cons.inj heq
          exact namedClassBody?_append true ds rest
        next hCaret =>
          rw [namedClassBody?_append]
          split
          next heq =>
            cases heq
            exact (hCaret _ rfl).elim
          next => rfl
    · rw [List.cons_append, hNone c _ hc, hNone c _ hc]

/-- A named class is taken from the text. -/
theorem le_of_readNamedClass? {s : CharSet} {negated : Bool} {taken : Nat}
    (h : readNamedClass? cs = some (s, negated, taken)) : taken ≤ cs.length := by
  have hBody {flag : Bool} {body : List Char}
      (h : namedClassBody? flag body = some (s, negated, taken)) :
      taken ≤ body.length + 1 + flag.toNat := by
    rw [namedClassBody?] at h
    split at h
    next after heq =>
      obtain ⟨hLen, -, -⟩ := drop_append_of_cons heq
      obtain ⟨set, -, hFound⟩ := Option.map_eq_some_iff.mp h
      cases hFound
      rw [List.length_cons] at hLen
      omega
    next => cases h
  cases cs with
  | nil => cases h
  | cons c cs =>
    by_cases hc : c = ':'
    · subst hc
      rw [readNamedClass?_eq] at h
      split at h
      next body =>
        have hle := hBody h
        simp only [List.length_cons, Bool.toNat_true] at hle ⊢
        omega
      next =>
        have hle := hBody h
        simpa using hle
    · rw [readNamedClass?.eq_def] at h
      split at h
      next heq => exact absurd (List.cons.inj heq).1 hc
      next => cases h

-- ---------------------------------------------------------------------------
-- Members
-- ---------------------------------------------------------------------------

/-- A member is an escape or stands for itself. -/
theorem settles_readMember (c : Char) (cs rest : List Char) :
    Settles (readMember f c) cs (')' :: rest) := by
  intro found taken h
  rw [readMember] at h ⊢
  split at h
  next hEscape =>
    rw [if_pos hEscape]
    exact settles_readEscape cs rest _ _ h
  next hEscape =>
    rw [if_neg hEscape]
    cases h
    exact ⟨Nat.zero_le _, rfl⟩

/-- White space is ignored, in comments and without them. -/
theorem blankRun_of_white {inComment : Bool} {cs : List Char}
    (h : ∀ c ∈ cs, Unicode.isWhiteSpace c = true) : Flags.blankRun inComment cs = cs.length := by
  induction cs generalizing inComment with
  | nil => rfl
  | cons c cs ih =>
    obtain ⟨hc, hcs⟩ := List.forall_mem_cons.mp h
    cases inComment <;> simp [Flags.blankRun, hc, ih hcs]

/-- Behind white space that is ignored the rest is looked at as if it stood alone. -/
theorem blankRun_white_append {cs : List Char} (h : ∀ c ∈ cs, Unicode.isWhiteSpace c = true)
    (more : List Char) :
    Flags.blankRun false (cs ++ more) = cs.length + Flags.blankRun false more := by
  induction cs with
  | nil => exact (Nat.zero_add _).symm
  | cons c cs ih =>
    obtain ⟨hc, hcs⟩ := List.forall_mem_cons.mp h
    rw [List.cons_append, List.length_cons]
    simp only [Flags.blankRun, hc, ih hcs, if_true, Bool.false_eq_true, if_false]
    omega

/-- What a hyphen is followed by is settled once there is something. -/
theorem afterHyphen_append {d : Char} (h : afterHyphen f cs = some d) (more : List Char) :
    afterHyphen f (cs ++ more) = some d := by
  have hHead {xs : List Char} (h : xs.head? = some d) : (xs ++ more).head? = some d := by
    rw [List.head?_append, h, Option.some_or]
  have hWhite {xs : List Char} (h : xs.dropWhile Unicode.isWhiteSpace ≠ []) :
      (xs ++ more).dropWhile Unicode.isWhiteSpace =
        xs.dropWhile Unicode.isWhiteSpace ++ more := by
    rw [List.dropWhile_append, if_neg]
    rwa [List.isEmpty_iff]
  rw [afterHyphen] at h ⊢
  split
  next hSpaced =>
    rw [if_pos hSpaced] at h
    have hSome : cs.dropWhile Unicode.isWhiteSpace ≠ [] := by
      intro hNil
      rw [hNil] at h
      cases h
    rw [hWhite hSome]
    -- a comment behind the blanks ends with its line, and more blanks may follow
    split at h
    next rest heq =>
      have hSomeRest : rest.dropWhile Unicode.isWhiteSpace ≠ [] := by
        intro hNil
        rw [hNil] at h
        cases h
      rw [heq, List.cons_append]
      show ((rest ++ more).dropWhile Unicode.isWhiteSpace).head? = some d
      rw [hWhite hSomeRest]
      exact hHead h
    next rest hHash =>
      split
      next heq =>
        obtain ⟨c, cs', hCons⟩ := List.exists_cons_of_ne_nil hSome
        rw [hCons, List.cons_append] at heq
        obtain ⟨rfl, -⟩ := List.cons.inj heq
        exact (hHash _ hCons).elim
      next => exact hHead h
  next hSpaced =>
    rw [if_neg hSpaced] at h
    exact hHead h

/-- Nothing follows a hyphen but blanks. -/
theorem blanks_of_afterHyphen_eq_none (h : afterHyphen f cs = none) :
    f.blanks cs = cs.length := by
  have hNone {xs : List Char} (h : (xs.dropWhile Unicode.isWhiteSpace).head? = none) :
      ∀ c ∈ xs, Unicode.isWhiteSpace c = true := by
    rw [List.head?_eq_none_iff] at h
    have hAll := List.all_eq_true.mp (List.all_takeWhile (p := Unicode.isWhiteSpace) (l := xs))
    have hSplit := List.takeWhile_append_dropWhile (p := Unicode.isWhiteSpace) (l := xs)
    rw [h, List.append_nil] at hSplit
    rwa [hSplit] at hAll
  rw [afterHyphen] at h
  rw [Flags.blanks]
  split
  next hSpaced =>
    rw [if_pos hSpaced] at h
    have hFront : ∀ c ∈ cs.takeWhile Unicode.isWhiteSpace, Unicode.isWhiteSpace c = true :=
      List.all_eq_true.mp List.all_takeWhile
    have hSplit := List.takeWhile_append_dropWhile (p := Unicode.isWhiteSpace) (l := cs)
    split at h
    next rest heq =>
      -- a comment that takes the rest of the text
      have hComment : Flags.blankRun false ('#' :: rest) = rest.length + 1 :=
        congrArg (· + 1) (blankRun_of_white (hNone h))
      rw [heq] at hSplit
      rw [← hSplit, blankRun_white_append hFront, hComment, List.length_append, List.length_cons]
    next hHash => exact blankRun_of_white (hNone h)
  next hSpaced =>
    rw [if_neg hSpaced, List.head?_eq_none_iff] at h
    rw [h]
    rfl

/-- What follows a hyphen is settled where it is more than blanks. -/
theorem afterHyphen_append_of_lt (h : f.blanks cs < cs.length) (more : List Char) :
    afterHyphen f (cs ++ more) = afterHyphen f cs := by
  cases hNext : afterHyphen f cs with
  | none =>
    rw [blanks_of_afterHyphen_eq_none hNext] at h
    exact absurd h (Nat.lt_irrefl _)
  | some next => exact afterHyphen_append hNext more

/-- What stands behind the first member, from the place `start` on: a hyphen and the other end of a
range, or whatever leaves the member alone. -/
def membersBehind (f : Flags) (first : Escape) (start : Nat) (cs : List Char) :
    Except SyntaxError (CharSet × Nat) :=
  match cs with
  | '-' :: rest =>
    if afterHyphen f rest == some ']' || afterHyphen f rest == some '-' then
      (first.memberSet f).map fun s => (s, start)
    else
      match rest.drop (f.blanks rest) with
      | [] => .error .unclosedClass
      | d :: ds =>
        match readMember f d ds with
        | .error e => .error e
        | .ok (second, more) =>
          (rangeSet f first second).map fun s => (s, start + 1 + f.blanks rest + 1 + more)
  | _ => (first.memberSet f).map fun s => (s, start)

/-- A member is read, and then what stands behind it and blanks. -/
theorem readMembers_eq (f : Flags) (c : Char) (cs : List Char) :
    readMembers f c cs =
      match readMember f c cs with
      | .error e => .error e
      | .ok (first, taken) =>
        membersBehind f first (taken + f.blanks (cs.drop taken))
          (cs.drop (taken + f.blanks (cs.drop taken))) := rfl

/-- Where something stands behind a member, more text does not change what it is. -/
theorem settles_membersBehind {first : Escape} {start taken : Nat} {s : CharSet} {d : Char}
    {after : List Char} (h : membersBehind f first start (d :: after) = .ok (s, taken))
    (rest : List Char) :
    taken ≤ start + after.length + 1 ∧
      membersBehind f first start (d :: (after ++ ')' :: rest)) = .ok (s, taken) := by
  by_cases hHyphen : d = '-'
  · subst hHyphen
    rw [membersBehind] at h ⊢
    by_cases hSingle : (afterHyphen f after == some ']' || afterHyphen f after == some '-') = true
    · -- the hyphen is left for the members that follow
      have hSame : (afterHyphen f (after ++ ')' :: rest) == some ']' ||
          afterHyphen f (after ++ ')' :: rest) == some '-') = true := by
        rw [Bool.or_eq_true, beq_iff_eq, beq_iff_eq] at hSingle ⊢
        exact hSingle.imp (fun h => afterHyphen_append h _) (fun h => afterHyphen_append h _)
      rw [if_pos hSingle] at h
      rw [if_pos hSame]
      obtain ⟨members, hSet, hFound⟩ := exists_of_map_eq_ok h
      cases hFound
      exact ⟨by omega, h⟩
    · -- the other end of the range is a member too
      rw [if_neg hSingle] at h
      have hlt : f.blanks after < after.length := by
        refine Nat.lt_of_not_le fun hle => ?_
        rw [List.drop_eq_nil_of_le hle] at h
        cases h
      obtain ⟨e, ds, hDrop, hLen, hMore⟩ := exists_drop_blanks hlt
      rw [afterHyphen_append_of_lt hlt, if_neg hSingle]
      simp only [Flags.blanks_append hlt, hMore]
      simp only [hDrop] at h
      split at h
      next => cases h
      next second more hSecond =>
        obtain ⟨hle, hSame⟩ := settles_readMember e ds rest _ _ hSecond
        obtain ⟨members, hSet, hFound⟩ := exists_of_map_eq_ok h
        cases hFound
        simp only [hSame, hSet]
        exact ⟨by omega, rfl⟩
  · -- a member that no hyphen follows
    have hAlone (more : List Char) :
        membersBehind f first start (d :: more) = (first.memberSet f).map fun s => (s, start) := by
      rw [membersBehind]
      exact fun _ heq => hHyphen (List.cons.inj heq).1
    rw [hAlone] at h ⊢
    obtain ⟨members, hSet, hFound⟩ := exists_of_map_eq_ok h
    cases hFound
    exact ⟨by omega, h⟩

/-- A member or a range is settled where it ends within a text. -/
theorem settles_readMembers {c : Char} {s : CharSet} {taken : Nat}
    (h : readMembers f c cs = .ok (s, taken)) (rest : List Char) :
    taken ≤ cs.length ∧ (taken < cs.length →
      readMembers f c (cs ++ ')' :: rest) = .ok (s, taken)) := by
  rw [readMembers_eq] at h ⊢
  split at h
  next => cases h
  next first n hFirst =>
    -- the first member, and then the blanks behind it
    obtain ⟨hle, hSame⟩ := settles_readMember c cs rest _ _ hFirst
    have hBlanks := f.blanks_le (cs.drop n)
    rw [List.length_drop] at hBlanks
    simp only [hSame]
    by_cases hlt : f.blanks (cs.drop n) < (cs.drop n).length
    · have hSkip : f.blanks ((cs ++ ')' :: rest).drop n) = f.blanks (cs.drop n) := by
        rw [List.drop_append_of_le_length hle, Flags.blanks_append hlt]
      rw [List.length_drop] at hlt
      rw [hSkip]
      generalize hStart : n + f.blanks (cs.drop n) = start at h ⊢
      obtain ⟨d, after, hDrop⟩ := List.exists_cons_of_ne_nil
        (mt List.drop_eq_nil_iff.mp (show ¬ cs.length ≤ start by omega))
      obtain ⟨hLen, -, hMore⟩ := drop_append_of_cons hDrop
      rw [hDrop] at h
      rw [hMore]
      obtain ⟨hTaken, hSame⟩ := settles_membersBehind h rest
      exact ⟨by omega, fun _ => hSame⟩
    · -- the text ends before anything else comes
      have hEnd : n + f.blanks (cs.drop n) = cs.length := by
        rw [List.length_drop] at hlt
        omega
      rw [hEnd, List.drop_length] at h
      obtain ⟨members, -, hFound⟩ := exists_of_map_eq_ok h
      cases hFound
      exact ⟨Nat.le_refl _, fun hlt => absurd hlt (Nat.lt_irrefl _)⟩

end Classes

end TypedSteps
