import TypedSteps.Proofs.Builtin.Shapes
import TypedSteps.Proofs.Decimal.Digits
import TypedSteps.Proofs.Template.GroupNames

/-!
# Which texts name a group

A type and an occurrence are read from a text that ends in an underscore and a numeral, and from
no other one. The numeral may have zeros in front: the same is read without them, but the group of
that occurrence has the shortest numeral.

* `NamesGroup` — a text made of a type's name, an underscore and a numeral;
* `splitGroupName?_eq_some_iff` — what is read from a text;
* `NamesGroup.groupName_eq_iff` — whether the group that is read has the text for its name;
* `group_names_read_back` — writing and reading the names of groups.
-/

namespace TypedSteps

/-- A text that holds the name of a type and, behind an underscore, the numeral of an occurrence
that can be counted to. -/
structure NamesGroup (group name : String) (numeral : List Char) : Prop where
  text : group = name ++ "_" ++ String.ofList numeral
  named : name ≠ ""
  digits : Run Char.isDigit numeral
  counted : Decimal.value numeral < Nat.pow 2 64

section

variable {group name : String} {numeral : List Char} {n : Nat}

theorem eq_text_iff : group = name ++ "_" ++ String.ofList numeral ↔
    group.toList = name.toList ++ '_' :: numeral := by
  have hText : (name ++ "_" ++ String.ofList numeral).toList = name.toList ++ '_' :: numeral := by
    simp
  rw [← String.toList_inj, hText]

/-- Digits hold no underscore, so the one before the numeral is the last. -/
theorem NamesGroup.splitAtLast?_eq (h : NamesGroup group name numeral) :
    splitAtLast? '_' group.toList = some (name.toList, numeral) := by
  have hUnderscore : '_' ∉ numeral := fun hMem => absurd (h.digits.2 '_' hMem) (by decide)
  exact splitAtLast?_eq_some_iff.mpr ⟨eq_text_iff.mp h.text, hUnderscore⟩

/-- The type and the occurrence are read from a text that names a group. -/
theorem NamesGroup.splitGroupName?_eq (h : NamesGroup group name numeral) :
    splitGroupName? group = some (name, Decimal.value numeral) := by
  obtain ⟨hNumeral, hDigits⟩ := h.digits
  have hValue := Decimal.ofDigitChars_eq_value numeral
  have hBound : Nat.ofDigitChars 10 numeral 0 < occurrenceBound := by
    rw [hValue]
    exact h.counted
  rw [splitGroupName?_of_splitAtLast? h.splitAtLast?_eq h.named hNumeral
    (List.all_eq_true.mpr hDigits) hBound, hValue]

/-- A text from which a type and an occurrence are read names a group. -/
theorem exists_namesGroup (h : splitGroupName? group = some (name, n)) :
    ∃ numeral, NamesGroup group name numeral ∧ Decimal.value numeral = n := by
  rw [splitGroupName?] at h
  cases hSplit : splitAtLast? '_' group.toList with
  | none =>
    rw [hSplit] at h
    cases h
  | some parts =>
    obtain ⟨cs, numeral⟩ := parts
    rw [hSplit] at h
    simp only [Option.ite_none_left_eq_some, Bool.or_eq_true, Bool.not_eq_true', not_or,
      Option.ite_none_right_eq_some, Option.some.injEq, Prod.mk.injEq, List.isEmpty_iff,
      Bool.not_eq_false, List.all_eq_true, Decimal.ofDigitChars_eq_value] at h
    obtain ⟨⟨⟨hName, hNumeral⟩, hDigits⟩, hBound, rfl, rfl⟩ := h
    have hText : group.toList = (String.ofList cs).toList ++ '_' :: numeral := by
      rw [String.toList_ofList]
      exact (splitAtLast?_eq_some_iff.mp hSplit).1
    have hNamed : String.ofList cs ≠ "" := fun hEmpty => hName (String.ofList_eq_empty_iff.mp hEmpty)
    exact ⟨numeral, ⟨eq_text_iff.mpr hText, hNamed, ⟨hNumeral, hDigits⟩, hBound⟩, rfl⟩

theorem splitGroupName?_eq_some_iff : splitGroupName? group = some (name, n) ↔
    ∃ numeral, NamesGroup group name numeral ∧ Decimal.value numeral = n := by
  constructor
  · exact exists_namesGroup
  · rintro ⟨numeral, h, rfl⟩
    exact h.splitGroupName?_eq

theorem splitGroupName?_eq_none_iff :
    splitGroupName? group = none ↔ ∀ name numeral, ¬NamesGroup group name numeral := by
  constructor
  · intro hNone name numeral h
    rw [h.splitGroupName?_eq] at hNone
    cases hNone
  · intro hno
    cases hSplit : splitGroupName? group with
    | none => rfl
    | some parts =>
      obtain ⟨numeral, h, -⟩ := exists_namesGroup hSplit
      exact absurd h (hno _ _)

/-- A text names the group that is read from it just if its numeral has no spare zero. -/
theorem NamesGroup.groupName_eq_iff (h : NamesGroup group name numeral) :
    groupName name (Decimal.value numeral) = group ↔ Decimal.NoSpareZero numeral := by
  obtain ⟨hNumeral, hDigits⟩ := h.digits
  rw [← String.toList_inj, toList_groupName, eq_text_iff.mp h.text, List.append_cancel_left_eq,
    List.cons.injEq, and_iff_right rfl, ← Decimal.ofDigitChars_eq_value,
    Decimal.toDigits_ofDigitChars_iff hNumeral hDigits]

end

/-- **Names of groups are read back, and no other text is read.** A type and an occurrence are read
back from the name of their group, and different ones have different groups. What is read from any
text are the name and the number that it is made of, nothing if it is not made of these; and the
text is the name of the group that is read just if its numeral has no spare zero. -/
theorem group_names_read_back :
    (∀ name n, name ≠ "" → n < Nat.pow 2 64 →
      splitGroupName? (groupName name n) = some (name, n)) ∧
    Function.Injective (fun occurrence : String × Nat => groupName occurrence.1 occurrence.2) ∧
    (∀ group name n, splitGroupName? group = some (name, n) ↔
      ∃ numeral, NamesGroup group name numeral ∧ Decimal.value numeral = n) ∧
    (∀ group, splitGroupName? group = none ↔ ∀ name numeral, ¬NamesGroup group name numeral) ∧
    ∀ group name numeral, NamesGroup group name numeral →
      (groupName name (Decimal.value numeral) = group ↔ Decimal.NoSpareZero numeral) := by
  refine ⟨fun name n hName hn => splitGroupName?_groupName hName hn, ?_,
    fun group name n => splitGroupName?_eq_some_iff, fun group => splitGroupName?_eq_none_iff,
    fun group name numeral h => h.groupName_eq_iff⟩
  rintro ⟨a, m⟩ ⟨b, n⟩ h
  obtain ⟨rfl, rfl⟩ := groupName_inj h
  rfl

/-- A name with an underscore and a digit of its own, read with zeros in front of the number; the
text is not the group's. And the greatest number that can be counted to, behind two underscores. -/
theorem group_names_read_back_zeros :
    NamesGroup "a_1_007" "a_1" ['0', '0', '7'] ∧
    splitGroupName? "a_1_007" = some ("a_1", 7) ∧ groupName "a_1" 7 ≠ "a_1_007" ∧
    ("a_" ≠ "" ∧ 0xFFFFFFFFFFFFFFFF < Nat.pow 2 64 ∧
      splitGroupName? (groupName "a_" 0xFFFFFFFFFFFFFFFF) = some ("a_", 0xFFFFFFFFFFFFFFFF)) := by
  obtain ⟨hBack, -, hRead, -, hWritten⟩ := group_names_read_back
  have hNames : NamesGroup "a_1_007" "a_1" ['0', '0', '7'] :=
    ⟨by decide, by decide, ⟨by decide, List.all_eq_true.mp (by decide)⟩, by decide⟩
  have hName : "a_" ≠ "" := by decide
  have hGreatest : 0xFFFFFFFFFFFFFFFF < Nat.pow 2 64 := by decide
  refine ⟨hNames, (hRead _ _ _).mpr ⟨_, hNames, rfl⟩, ?_, hName, hGreatest,
    hBack _ _ hName hGreatest⟩
  intro h
  exact absurd ((hWritten _ _ _ hNames).mp h rfl) (by decide)

end TypedSteps
