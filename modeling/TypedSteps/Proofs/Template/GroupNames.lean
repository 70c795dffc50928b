import TypedSteps.Template.GroupName

/-!
# Names of groups are read back

The group of an occurrence is named after a type and a number. Digits hold no underscore,
so the last underscore of such a name is the one between the two, and both are read back
as they were.

* `splitGroupName?_of_splitAtLast?` — what is read from a name and digits behind an underscore;
* `splitGroupName?_groupName` — a group's name gives its type and its number back;
* `groupName_inj` — different types or numbers have different groups.
-/

namespace TypedSteps

theorem toList_groupName (name : String) (n : Nat) :
    (groupName name n).toList = name.toList ++ '_' :: Nat.toDigits 10 n := by
  rw [groupName, String.toList_append, String.toList_append, Nat.toList_repr, List.append_assoc]
  rfl

theorem all_isDigit_toDigits (n : Nat) : (Nat.toDigits 10 n).all Char.isDigit = true := by
  rw [List.all_eq_true]
  intro c hc
  exact Nat.isDigit_of_mem_toDigits (by decide) (by decide) hc

/-- The digits of a number hold no underscore. -/
theorem underscore_notMem_toDigits (n : Nat) : '_' ∉ Nat.toDigits 10 n := by
  intro h
  have hDigit := List.all_eq_true.mp (all_isDigit_toDigits n) '_' h
  exact absurd hDigit (by decide)

/-- The last underscore of a group's name stands between type and number. -/
theorem splitAtLast?_groupName (name : String) (n : Nat) :
    splitAtLast? '_' (groupName name n).toList = some (name.toList, Nat.toDigits 10 n) := by
  rw [toList_groupName]
  exact splitAtLast?_append _ (underscore_notMem_toDigits n)

/-- What is read from a text with the name of a type before its last underscore and digits behind
it. -/
theorem splitGroupName?_of_splitAtLast? {group name : String} {digits : List Char}
    (hSplit : splitAtLast? '_' group.toList = some (name.toList, digits)) (hName : name ≠ "")
    (hSome : digits ≠ []) (hDigits : digits.all Char.isDigit = true)
    (hBound : Nat.ofDigitChars 10 digits 0 < occurrenceBound) :
    splitGroupName? group = some (name, Nat.ofDigitChars 10 digits 0) := by
  have hName : name.toList.isEmpty = false :=
    List.isEmpty_eq_false_iff.mpr fun hNil => hName (String.toList_eq_nil_iff.mp hNil)
  have hSome : digits.isEmpty = false := List.isEmpty_eq_false_iff.mpr hSome
  rw [splitGroupName?, hSplit]
  simp only [hName, hSome, hDigits, if_pos hBound, Bool.not_true, Bool.or_false,
    Bool.false_eq_true, if_false, String.ofList_toList]

/-- The name of a group gives back its type and the number of the occurrence, as long as
there is a name and the number is one that can be counted to. -/
theorem splitGroupName?_groupName {name : String} {n : Nat} (hName : name ≠ "")
    (hn : n < occurrenceBound) : splitGroupName? (groupName name n) = some (name, n) := by
  have hValue : Nat.ofDigitChars 10 (Nat.toDigits 10 n) 0 = n := Nat.ofDigitChars_ten_toDigits
  have hRead := splitGroupName?_of_splitAtLast? (splitAtLast?_groupName name n) hName
    Nat.toDigits_ne_nil (all_isDigit_toDigits n) (by rwa [hValue])
  rwa [hValue] at hRead

/-- Groups with one name belong to the same occurrence of the same type. -/
theorem groupName_inj {a b : String} {m n : Nat} (h : groupName a m = groupName b n) :
    a = b ∧ m = n := by
  have hSplit := splitAtLast?_groupName a m
  rw [h, splitAtLast?_groupName, Option.some.injEq, Prod.mk.injEq] at hSplit
  obtain ⟨hName, hDigits⟩ := hSplit
  refine ⟨String.toList_inj.mp hName.symm, ?_⟩
  have hRead := congrArg (fun ds => Nat.ofDigitChars 10 ds 0) hDigits
  simpa only [Nat.ofDigitChars_ten_toDigits] using hRead.symm

end TypedSteps
