/-!
# Names of parameter types and of capture groups

A type may stand several times in one template, while the groups of a pattern must
have different names. So the group of each occurrence is called after its type and
its number: `number_1`, `number_2`. The number is read back from the end of the name,
which works for type names with underscores and digits too.

* `isIdentifier` — the names that a type may have;
* `groupName`, `splitGroupName?` — between a type with its occurrence and a group;
* `fragment` — the pattern of a type inside its group.
-/

namespace TypedSteps

-- ---------------------------------------------------------------------------
-- Names of types
-- ---------------------------------------------------------------------------

/-- Whether `c` may open an identifier: an ASCII letter or an underscore. -/
def opensIdentifier (c : Char) : Bool :=
  c.isAlpha || c == '_'

/-- Whether `c` may go on in an identifier: an ASCII letter, a digit or an
underscore. -/
def continuesIdentifier (c : Char) : Bool :=
  c.isAlphanum || c == '_'

/-- Whether a text is a non-empty ASCII identifier. -/
def isIdentifier (name : String) : Bool :=
  match name.toList with
  | [] => false
  | c :: cs => opensIdentifier c && cs.all continuesIdentifier

/-- The reason for which a text is refused as the name of a type. -/
structure InvalidName where
  name : String
  deriving DecidableEq, Repr

/-- The message that goes with a refused name. -/
def InvalidName.message (e : InvalidName) : String :=
  "invalid parameter name `" ++ e.name ++ "`: expected an ASCII identifier"

/-- Accepts the identifiers as names of types. -/
def validateName (name : String) : Except InvalidName Unit :=
  if isIdentifier name then .ok () else .error ⟨name⟩

-- ---------------------------------------------------------------------------
-- Names of groups
-- ---------------------------------------------------------------------------

/-- The name of the group for an occurrence of a type. -/
def groupName (name : String) (occurrence : Nat) : String :=
  name ++ "_" ++ occurrence.repr

/-- The parts of a text before and after the last place where `c` stands. -/
def splitAtLast? (c : Char) : List Char → Option (List Char × List Char)
  | [] => none
  | d :: ds =>
    match splitAtLast? c ds with
    | some (before, after) => some (d :: before, after)
    | none => if d = c then some ([], ds) else none

/-- The bound below which the number of an occurrence lies: 2^64. -/
def occurrenceBound : Nat := 0x10000000000000000

/-- The type and the occurrence that a group is named after; `none` for a group whose
name has another form. -/
def splitGroupName? (group : String) : Option (String × Nat) :=
  match splitAtLast? '_' group.toList with
  | none => none
  | some (name, digits) =>
    if name.isEmpty || digits.isEmpty || !digits.all Char.isDigit then none
    else
      let occurrence := Nat.ofDigitChars 10 digits 0
      if occurrence < occurrenceBound then some (String.ofList name, occurrence) else none

/-- The pattern of a type in the group of one of its occurrences. The inner group keeps
alternatives of the pattern to themselves. -/
def fragment (name : String) (occurrence : Nat) (pattern : String) : String :=
  "(?P<" ++ groupName name occurrence ++ ">(?:" ++ pattern ++ "))"

-- ---------------------------------------------------------------------------
-- Splitting
-- ---------------------------------------------------------------------------

/-- A text without the separator cannot be cut at it. -/
theorem splitAtLast?_eq_none_iff {c : Char} {cs : List Char} :
    splitAtLast? c cs = none ↔ c ∉ cs := by
  induction cs with
  | nil => simp [splitAtLast?]
  | cons d ds ih =>
    rw [splitAtLast?]
    cases h : splitAtLast? c ds with
    | some p =>
      have : ¬ c ∉ ds := fun hn => by simp [ih.mpr hn] at h
      simp at this
      simp [this]
    | none =>
      have : c ∉ ds := ih.mp h
      by_cases hd : d = c
      · simp [hd]
      · simp [hd, this, Ne.symm hd]

/-- The split happens at the last place. -/
theorem splitAtLast?_append {c : Char} (before : List Char) {after : List Char} (h : c ∉ after) :
    splitAtLast? c (before ++ c :: after) = some (before, after) := by
  induction before with
  | nil => simp [splitAtLast?, splitAtLast?_eq_none_iff.mpr h]
  | cons d ds ih => simp [splitAtLast?, ih]

/-- The text is cut at the separator behind which there is no other. -/
theorem splitAtLast?_eq_some_iff {c : Char} {cs before after : List Char} :
    splitAtLast? c cs = some (before, after) ↔ cs = before ++ c :: after ∧ c ∉ after := by
  constructor
  · intro h
    induction cs generalizing before with
    | nil => cases h
    | cons d ds ih =>
      rw [splitAtLast?] at h
      cases hSplit : splitAtLast? c ds with
      | some p =>
        rw [hSplit] at h
        cases h
        obtain ⟨rfl, hAfter⟩ := ih hSplit
        exact ⟨rfl, hAfter⟩
      | none =>
        rw [hSplit] at h
        by_cases hd : d = c
        · cases (if_pos hd).symm.trans h
          exact ⟨by rw [hd, List.nil_append], splitAtLast?_eq_none_iff.mp hSplit⟩
        · cases (if_neg hd).symm.trans h
  · rintro ⟨rfl, hAfter⟩
    exact splitAtLast?_append before hAfter

end TypedSteps
