import TypedSteps.Unicode.WhiteSpace

/-!
# Texts

Small operations on texts that several parts of the library share.

* `trim` — a text without the white space at its ends, where white space is what Unicode
  calls so;
* `asciiLowercase`, `asciiUppercase` — ASCII letters in one case;
* `splitAt` — the pieces between separators.
-/

namespace TypedSteps.Text

/-- Drops white space at both ends. -/
def trimCharacters (cs : List Char) : List Char :=
  ((cs.dropWhile Unicode.isWhiteSpace).reverse.dropWhile Unicode.isWhiteSpace).reverse

/-- A text without the white space at its ends. -/
def trim (text : String) : String :=
  String.ofList (trimCharacters text.toList)

/-- A text with its ASCII letters in lower case. -/
def asciiLowercase (text : String) : String :=
  String.ofList (text.toList.map Char.toLower)

/-- A text with its ASCII letters in upper case. -/
def asciiUppercase (text : String) : String :=
  String.ofList (text.toList.map Char.toUpper)

/-- The pieces of a text between the places where `c` stands. -/
def splitAt (c : Char) : List Char → List (List Char)
  | [] => [[]]
  | d :: ds =>
    if d = c then [] :: splitAt c ds
    else
      match splitAt c ds with
      | [] => [[d]]
      | piece :: rest => (d :: piece) :: rest

-- ---------------------------------------------------------------------------
-- Pieces
-- ---------------------------------------------------------------------------

theorem splitAt_ne_nil (c : Char) (cs : List Char) : splitAt c cs ≠ [] := by
  cases cs with
  | nil => simp [splitAt]
  | cons d ds =>
    rw [splitAt]
    split
    · simp
    · split <;> simp

/-- Joining the pieces with the separator gives the text back. -/
theorem intercalate_splitAt (c : Char) (cs : List Char) :
    [c].intercalate (splitAt c cs) = cs := by
  induction cs with
  | nil => rfl
  | cons d ds ih =>
    rw [splitAt]
    cases hs : splitAt c ds with
    | nil => exact absurd hs (splitAt_ne_nil c ds)
    | cons piece rest =>
      rw [hs] at ih
      by_cases h : d = c
      · rw [if_pos h, ← ih, h]
        rfl
      · rw [if_neg h, ← ih]
        cases rest <;> rfl

end TypedSteps.Text
