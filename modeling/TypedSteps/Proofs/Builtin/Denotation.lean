import TypedSteps.Conversion
import TypedSteps.Proofs.Builtin.Shapes

/-!
# What the texts of the built-in types mean

The pattern of a built-in type and the conversion of its texts agree: a text that the
pattern matches has a value, which is what the text says, but for numbers that are too
large and dates that the calendar or the clock does not have.

* `Trims` — a text without the white space at its ends;
* `Builtin.Denotes` — the value that a text of a built-in type says;
* `unquote_quoted`, `readWhole?_of_digits`, `readFloat?_of_shape`, `trims_trimCharacters` —
  the conversions on the texts of their types;
* `convert_of_shape` — every text of a type has the value it says, or one of the faults.
-/

namespace TypedSteps

open Calendar (Zone)

-- ---------------------------------------------------------------------------
-- Values of texts
-- ---------------------------------------------------------------------------

/-- `inner` is `item` without the white space at its ends. -/
def Trims (item inner : List Char) : Prop :=
  ∃ before after, item = before ++ inner ++ after ∧
    (∀ c ∈ before, Unicode.isWhiteSpace c = true) ∧
    (∀ c ∈ after, Unicode.isWhiteSpace c = true) ∧
    (∀ c, inner.head? = some c → Unicode.isWhiteSpace c = false) ∧
    ∀ c, inner.getLast? = some c → Unicode.isWhiteSpace c = false

/-- The value that a text of a built-in type says. The number nearest to a decimal fraction
and the instant that a date denotes are worked out elsewhere. -/
inductive Builtin.Denotes (zone : Zone) : Builtin → List Char → Value → Prop
  | string {quote : Char} {inner : List Char} (hQuote : quote = '"' ∨ quote = '\'')
      (hInner : quote ∉ inner) :
      Denotes zone .string (quote :: inner ++ [quote]) (.string (String.ofList inner))
  | number {digits : List Char} (hDigits : Run Char.isDigit digits) :
      Denotes zone .number digits (.integer (Nat.ofDigitChars 10 digits 0))
  | float {sign whole fraction : List Char} (hSign : sign = [] ∨ sign = ['+'] ∨ sign = ['-'])
      (hWhole : ∀ c ∈ whole, c.isDigit = true) (hFraction : Run Char.isDigit fraction) :
      Denotes zone .float (sign ++ whole ++ '.' :: fraction)
        (.float (Decimal.floatOfBits (sign == ['-'])
          (Decimal.nearestBitsOfScientific (Nat.ofDigitChars 10 (whole ++ fraction) 0)
            (-fraction.length))))
  | yes : Denotes zone .boolean "true".toList (.boolean true)
  | no : Denotes zone .boolean "false".toList (.boolean false)
  | text {b : Builtin} (hb : b = .word ∨ b = .char ∨ b = .email) (v : List Char) :
      Denotes zone b v (.string (String.ofList v))
  | list {items : List (List Char × List Char)} (hSome : items ≠ [])
      (hCommas : ∀ item ∈ items, ',' ∉ item.1) (hTrims : ∀ item ∈ items, Trims item.1 item.2) :
      Denotes zone .list ([','].intercalate (items.map (·.1)))
        (.list (items.map fun item => String.ofList item.2))
  | date {v : List Char} {instant : Calendar.Instant}
      (hRead : Calendar.readInstant zone (String.ofList v) = .ok instant) :
      Denotes zone .date v (.date instant)

-- ---------------------------------------------------------------------------
-- Quoted texts
-- ---------------------------------------------------------------------------

theorem betweenQuotes?_quoted (quote : Char) (inner : List Char) :
    betweenQuotes? quote (quote :: inner ++ [quote]) = some inner := by
  rw [List.cons_append, betweenQuotes?, if_pos ⟨rfl, List.getLast?_concat ..⟩,
    List.dropLast_concat]

/-- A quoted text is what stands between its quotes. -/
theorem unquote_quoted {quote : Char} (h : quote = '"' ∨ quote = '\'') (inner : List Char) :
    unquote (String.ofList (quote :: inner ++ [quote])) = String.ofList inner := by
  rw [unquote]
  simp only [String.toList_ofList]
  rcases h with rfl | rfl
  · rw [betweenQuotes?_quoted]
  · have hNone : betweenQuotes? '"' ('\'' :: inner ++ ['\'']) = none := by
      rw [List.cons_append, betweenQuotes?, if_neg]
      rintro ⟨hQuote, -⟩
      exact absurd hQuote (by decide)
    rw [hNone, betweenQuotes?_quoted]

-- ---------------------------------------------------------------------------
-- Numbers
-- ---------------------------------------------------------------------------

/-- A number without a sign is not negative. -/
theorem splitSign_of_no_sign {c : Char} (hMinus : c ≠ '-') (hPlus : c ≠ '+') (cs : List Char) :
    Decimal.splitSign (c :: cs) = (false, c :: cs) := by
  refine Decimal.splitSign.eq_3 _ ?_ ?_
  · intro rest heq
    exact hMinus (List.cons.inj heq).1
  · intro rest heq
    exact hPlus (List.cons.inj heq).1

/-- The greatest whole number is 2^63 - 1. -/
theorem fitsWord_natCast (n : Nat) :
    Decimal.fitsWord n = decide (n ≤ 0x7FFFFFFFFFFFFFFF) := by
  rw [Decimal.fitsWord, Bool.eq_iff_iff, Bool.and_eq_true, decide_eq_true_eq, decide_eq_true_eq,
    decide_eq_true_eq]
  omega

/-- Digits are read as the number they write, if it is not too large. -/
theorem readWhole?_of_digits {digits : List Char} (h : Run Char.isDigit digits) :
    Decimal.readWhole? (String.ofList digits) =
      if Nat.ofDigitChars 10 digits 0 ≤ 0x7FFFFFFFFFFFFFFF
      then some (Nat.ofDigitChars 10 digits 0 : Int) else none := by
  obtain ⟨c, cs, rfl⟩ := List.exists_cons_of_ne_nil h.1
  have hc : c.isDigit = true := h.2 c List.mem_cons_self
  have hSign : Decimal.splitSign (c :: cs) = (false, c :: cs) := by
    refine splitSign_of_no_sign ?_ ?_ cs
    · rintro rfl
      exact absurd hc (by decide)
    · rintro rfl
      exact absurd hc (by decide)
  have hAll : (c :: cs).all Char.isDigit = true := List.all_eq_true.mpr h.2
  rw [Decimal.readWhole?, String.toList_ofList, hSign]
  simp only [hAll, List.isEmpty_cons, Bool.not_true, Bool.or_false, Bool.false_eq_true, if_false,
    Decimal.withSign, fitsWord_natCast, decide_eq_true_eq]

/-- Characters are taken up to the first without the property. -/
theorem takeWhile_append_of_all {p : Char → Bool} {xs : List Char} (h : ∀ c ∈ xs, p c = true)
    {d : Char} (hd : p d = false) (ys : List Char) :
    (xs ++ d :: ys).takeWhile p = xs := by
  rw [List.takeWhile_append_of_pos h, List.takeWhile_cons_of_neg (by rw [hd]; exact Bool.false_ne_true),
    List.append_nil]

/-- Digits around a point are read as the decimal fraction they write. -/
theorem readMagnitude?_of_shape {whole fraction : List Char}
    (hWhole : ∀ c ∈ whole, c.isDigit = true) (hFraction : Run Char.isDigit fraction) :
    Decimal.readMagnitude? (whole ++ '.' :: fraction) =
      some (Decimal.nearestBitsOfScientific (Nat.ofDigitChars 10 (whole ++ fraction) 0)
        (-fraction.length)) := by
  have hTake : (whole ++ '.' :: fraction).takeWhile Char.isDigit = whole :=
    takeWhile_append_of_all hWhole (by decide) fraction
  have hRest : fraction.takeWhile Char.isDigit = fraction := by
    have hAppend : (fraction ++ []).takeWhile Char.isDigit = _ :=
      List.takeWhile_append_of_pos hFraction.2
    rwa [List.append_nil, List.takeWhile_nil, List.append_nil] at hAppend
  have hNil : fraction.dropWhile Char.isDigit = [] := by
    have hAppend : (fraction ++ []).dropWhile Char.isDigit = _ :=
      List.dropWhile_append_of_pos hFraction.2
    rwa [List.append_nil, List.dropWhile_nil] at hAppend
  have hSome : fraction.isEmpty = false := List.isEmpty_eq_false_iff.mpr hFraction.1
  rw [Decimal.readMagnitude?]
  simp only [hTake, List.drop_left, hRest, hNil, hSome, Bool.and_false, Bool.false_eq_true, if_false,
    Decimal.readExponent?, Option.map_some, Int.zero_sub]

/-- A text with a point is not one of the names that numbers may have. -/
theorem readFloat?_of_point {sign body : List Char} {negative : Bool}
    (hSign : Decimal.splitSign (sign ++ body) = (negative, body)) (hPoint : '.' ∈ body) :
    Decimal.readFloat? (String.ofList (sign ++ body)) =
      (Decimal.readMagnitude? body).map (Decimal.floatOfBits negative) := by
  have hName (name : String) (h : '.' ∉ name.toList) :
      Text.asciiLowercase (String.ofList body) ≠ name := by
    rintro rfl
    rw [Text.asciiLowercase, String.toList_ofList, String.toList_ofList] at h
    exact h (List.mem_map.mpr ⟨'.', hPoint, by decide⟩)
  rw [Decimal.readFloat?, String.toList_ofList, hSign]
  dsimp only
  split
  next heq => exact absurd heq (hName "inf" (by decide))
  next heq => exact absurd heq (hName "infinity" (by decide))
  next heq => exact absurd heq (hName "nan" (by decide))
  next => rfl

/-- A sign, digits, a point and more digits are read as the nearest number. -/
theorem readFloat?_of_shape {sign whole fraction : List Char}
    (hSign : sign = [] ∨ sign = ['+'] ∨ sign = ['-']) (hWhole : ∀ c ∈ whole, c.isDigit = true)
    (hFraction : Run Char.isDigit fraction) :
    Decimal.readFloat? (String.ofList (sign ++ whole ++ '.' :: fraction)) =
      some (Decimal.floatOfBits (sign == ['-'])
        (Decimal.nearestBitsOfScientific (Nat.ofDigitChars 10 (whole ++ fraction) 0)
          (-fraction.length))) := by
  -- without a sign the number begins with a digit or with its point
  have hSplit : Decimal.splitSign (sign ++ (whole ++ '.' :: fraction)) =
      (sign == ['-'], whole ++ '.' :: fraction) := by
    rcases hSign with rfl | rfl | rfl
    · cases whole with
      | nil => rfl
      | cons c cs =>
        have hc : c.isDigit = true := hWhole c List.mem_cons_self
        refine splitSign_of_no_sign ?_ ?_ _
        · rintro rfl
          exact absurd hc (by decide)
        · rintro rfl
          exact absurd hc (by decide)
    · rfl
    · rfl
  rw [List.append_assoc, readFloat?_of_point hSplit (by simp), readMagnitude?_of_shape hWhole hFraction,
    Option.map_some]

-- ---------------------------------------------------------------------------
-- Lists
-- ---------------------------------------------------------------------------

theorem head?_dropWhile {p : Char → Bool} {cs : List Char} {c : Char}
    (h : (cs.dropWhile p).head? = some c) : p c = false := by
  have hNot := List.head?_dropWhile_not p cs
  rwa [h] at hNot

/-- A text is trimmed of the white space around it, and of nothing else. -/
theorem trims_trimCharacters (item : List Char) : Trims item (Text.trimCharacters item) := by
  have hWhite (cs : List Char) : ∀ c ∈ cs.takeWhile Unicode.isWhiteSpace,
      Unicode.isWhiteSpace c = true := List.all_eq_true.mp List.all_takeWhile
  generalize hRest : item.dropWhile Unicode.isWhiteSpace = rest
  have hItem : item = item.takeWhile Unicode.isWhiteSpace ++ rest := by
    rw [← hRest, List.takeWhile_append_dropWhile]
  have hTrim : Text.trimCharacters item = (rest.reverse.dropWhile Unicode.isWhiteSpace).reverse := by
    rw [Text.trimCharacters, hRest]
  -- what is dropped from the end is dropped from the front of the reversed text
  have hSplit : rest = Text.trimCharacters item ++
      (rest.reverse.takeWhile Unicode.isWhiteSpace).reverse := by
    rw [hTrim, ← List.reverse_append, List.takeWhile_append_dropWhile, List.reverse_reverse]
  refine ⟨item.takeWhile Unicode.isWhiteSpace, (rest.reverse.takeWhile Unicode.isWhiteSpace).reverse,
    ?_, hWhite item, ?_, ?_, ?_⟩
  · rw [List.append_assoc, ← hSplit]
    exact hItem
  · intro c hc
    exact hWhite _ c (List.mem_reverse.mp hc)
  · intro c hc
    -- what is left begins where the white space in front ends
    have hHead : (item.dropWhile Unicode.isWhiteSpace).head? = some c := by
      rw [hRest, hSplit, List.head?_append, hc, Option.some_or]
    exact head?_dropWhile hHead
  · intro c hc
    rw [hTrim, List.getLast?_reverse] at hc
    exact head?_dropWhile hc

/-- The pieces of a text have no separator. -/
theorem notMem_of_mem_splitAt {c : Char} {cs piece : List Char} (h : piece ∈ Text.splitAt c cs) :
    c ∉ piece := by
  induction cs generalizing piece with
  | nil =>
    rw [Text.splitAt, List.mem_singleton] at h
    rw [h]
    exact List.not_mem_nil
  | cons d ds ih =>
    rw [Text.splitAt] at h
    by_cases hd : d = c
    · rw [if_pos hd] at h
      rcases List.mem_cons.mp h with rfl | h
      · exact List.not_mem_nil
      · exact ih h
    · rw [if_neg hd] at h
      cases hs : Text.splitAt c ds with
      | nil => exact absurd hs (Text.splitAt_ne_nil c ds)
      | cons first rest =>
        rw [hs] at h ih
        rcases List.mem_cons.mp h with rfl | h
        · rw [List.mem_cons, not_or]
          exact ⟨Ne.symm hd, ih List.mem_cons_self⟩
        · exact ih (List.mem_cons_of_mem _ h)

/-- A text is split at its commas, and its items are trimmed. -/
theorem denotes_listItems (zone : Zone) (v : List Char) :
    Builtin.list.Denotes zone v (.list (listItems (String.ofList v))) := by
  -- each piece is kept beside what is left of it
  generalize hItems :
    (Text.splitAt ',' v).map (fun item => (item, Text.trimCharacters item)) = items
  have hFirst : items.map (·.1) = Text.splitAt ',' v := by
    rw [← hItems, List.map_map]
    exact List.map_id _
  have hSecond : items.map (fun item => String.ofList item.2) = listItems (String.ofList v) := by
    rw [← hItems, List.map_map, listItems, String.toList_ofList]
    rfl
  have hMem {item : List Char × List Char} (h : item ∈ items) :
      item.1 ∈ Text.splitAt ',' v ∧ item.2 = Text.trimCharacters item.1 := by
    rw [← hItems, List.mem_map] at h
    obtain ⟨piece, hPiece, rfl⟩ := h
    exact ⟨hPiece, rfl⟩
  have hDenotes : Builtin.list.Denotes zone ([','].intercalate (items.map (·.1)))
      (.list (items.map fun item => String.ofList item.2)) := by
    refine .list ?_ ?_ ?_
    · rintro rfl
      exact Text.splitAt_ne_nil ',' v hFirst.symm
    · intro item h
      exact notMem_of_mem_splitAt (hMem h).1
    · intro item h
      rw [(hMem h).2]
      exact trims_trimCharacters item.1
  rwa [hFirst, Text.intercalate_splitAt, hSecond] at hDenotes

-- ---------------------------------------------------------------------------
-- All types
-- ---------------------------------------------------------------------------

/-- Why a text of a built-in type has no value: a number that is greater than 2^63 - 1, or
a date that the calendar or the local clock does not have. -/
inductive Builtin.Refuses (zone : Zone) : Builtin → List Char → ConversionError → Prop
  | tooLarge {digits : List Char} (hDigits : Run Char.isDigit digits)
      (hLarge : 0x7FFFFFFFFFFFFFFF < Nat.ofDigitChars 10 digits 0) :
      Refuses zone .number digits .integerOutOfRange
  | noSuchDay {v : List Char}
      (hRead : Calendar.readInstant zone (String.ofList v) = .error .invalid) :
      Refuses zone .date v .invalidDate
  | noSuchTime {v : List Char}
      (hRead : Calendar.readInstant zone (String.ofList v) = .error .skipped) :
      Refuses zone .date v .nonexistentLocalTime

/-- A text of a built-in type is converted to the value it says, or refused. -/
theorem convert_of_shape {b : Builtin} {v : List Char} (h : b.Shape v) (zone : Zone) :
    (∃ value, b.convert zone (String.ofList v) = .ok value ∧ b.Denotes zone v value) ∨
      ∃ reason, b.convert zone (String.ofList v) = .error reason ∧ b.Refuses zone v reason := by
  -- each type has its own reader; only whole numbers and dates can be refused
  cases b with
  | string =>
    left
    rcases h with ⟨inner, rfl, hInner⟩ | ⟨inner, rfl, hInner⟩
    · exact ⟨_, by rw [Builtin.convert, unquote_quoted (.inl rfl)], .string (.inl rfl) hInner⟩
    · exact ⟨_, by rw [Builtin.convert, unquote_quoted (.inr rfl)], .string (.inr rfl) hInner⟩
  | number =>
    by_cases hFits : Nat.ofDigitChars 10 v 0 ≤ 0x7FFFFFFFFFFFFFFF
    · exact .inl ⟨_, by rw [Builtin.convert, readWhole?_of_digits h, if_pos hFits], .number h⟩
    · exact .inr ⟨_, by rw [Builtin.convert, readWhole?_of_digits h, if_neg hFits],
        .tooLarge h (Nat.lt_of_not_le hFits)⟩
  | float =>
    left
    obtain ⟨sign, whole, fraction, rfl, hSign, hWhole, hFraction⟩ := h
    exact ⟨_, by rw [Builtin.convert, readFloat?_of_shape hSign hWhole hFraction],
      .float hSign hWhole hFraction⟩
  | boolean =>
    left
    rcases h with rfl | rfl
    · exact ⟨_, rfl, .yes⟩
    · exact ⟨_, rfl, .no⟩
  | word => exact .inl ⟨_, rfl, .text (.inl rfl) v⟩
  | char => exact .inl ⟨_, rfl, .text (.inr (.inl rfl)) v⟩
  | email => exact .inl ⟨_, rfl, .text (.inr (.inr rfl)) v⟩
  | list => exact .inl ⟨_, rfl, denotes_listItems zone v⟩
  | date =>
    cases hRead : Calendar.readInstant zone (String.ofList v) with
    | ok instant => exact .inl ⟨_, by rw [Builtin.convert, hRead], .date hRead⟩
    | error reason =>
      right
      cases reason with
      | invalid => exact ⟨_, by rw [Builtin.convert, hRead], .noSuchDay hRead⟩
      | skipped => exact ⟨_, by rw [Builtin.convert, hRead], .noSuchTime hRead⟩

end TypedSteps
