import TypedSteps.Registry.Basic

/-!
# Registries that registration leads to

A registration is judged by four checks, and the first that fails decides. What passes
them all keeps a registry valid: the names of its types, the built-in ones included, are
different identifiers, and the pattern of each custom type can be read on its own. So
every registry that starts empty and is changed by registering, clearing and pinning only
is valid.

* `IsIdentifier`, `isIdentifier_iff` — what a type may be called;
* `Verdict`, `verdict_refusal?` — the four checks, in order;
* `Registry.Valid`, `Registry.Reachable`, `Registry.Reachable.valid` — the invariant.
-/

namespace TypedSteps

-- ---------------------------------------------------------------------------
-- Identifiers
-- ---------------------------------------------------------------------------

/-- An ASCII letter. -/
def IsLetter (c : Char) : Prop :=
  ('A' ≤ c ∧ c ≤ 'Z') ∨ ('a' ≤ c ∧ c ≤ 'z')

/-- A non-empty ASCII identifier: a letter or an underscore, then letters, digits and
underscores. -/
def IsIdentifier (name : String) : Prop :=
  ∃ c cs, name.toList = c :: cs ∧ (IsLetter c ∨ c = '_') ∧
    ∀ d ∈ cs, IsLetter d ∨ ('0' ≤ d ∧ d ≤ '9') ∨ d = '_'

theorem isAlpha_iff (c : Char) : c.isAlpha = true ↔ IsLetter c := by
  have hUpper : c.isUpper = true ↔ 'A' ≤ c ∧ c ≤ 'Z' := decide_eq_true_iff
  have hLower : c.isLower = true ↔ 'a' ≤ c ∧ c ≤ 'z' := by
    show (decide ('a' ≤ c) && decide (c ≤ 'z')) = true ↔ _
    rw [Bool.and_eq_true, decide_eq_true_iff, decide_eq_true_iff]
  show (c.isUpper || c.isLower) = true ↔ _
  rw [Bool.or_eq_true, hUpper, hLower, IsLetter]

/-- Identifiers begin with a letter or an underscore. -/
theorem opensIdentifier_iff (c : Char) : opensIdentifier c = true ↔ IsLetter c ∨ c = '_' := by
  rw [opensIdentifier, Bool.or_eq_true, isAlpha_iff, beq_iff_eq]

/-- Identifiers go on with letters, digits and underscores. -/
theorem continuesIdentifier_iff (c : Char) :
    continuesIdentifier c = true ↔ IsLetter c ∨ ('0' ≤ c ∧ c ≤ '9') ∨ c = '_' := by
  have hDigit : c.isDigit = true ↔ '0' ≤ c ∧ c ≤ '9' := by
    simp only [Char.isDigit, Char.le_def, Bool.and_eq_true, decide_eq_true_eq, ge_iff_le]
  rw [continuesIdentifier, Bool.or_eq_true, Char.isAlphanum, Bool.or_eq_true, isAlpha_iff,
    hDigit, beq_iff_eq, or_assoc]

/-- What is checked of a name is that it is an identifier. -/
theorem isIdentifier_iff (name : String) : isIdentifier name = true ↔ IsIdentifier name := by
  rw [isIdentifier, IsIdentifier]
  cases name.toList with
  | nil => simp
  | cons c cs =>
    simp only [Bool.and_eq_true, List.all_eq_true, opensIdentifier_iff, continuesIdentifier_iff]
    constructor
    · rintro ⟨hc, hcs⟩
      exact ⟨c, cs, rfl, hc, hcs⟩
    · rintro ⟨d, ds, heq, hd, hds⟩
      rw [List.cons.injEq] at heq
      obtain ⟨rfl, rfl⟩ := heq
      exact ⟨hd, hds⟩

theorem IsIdentifier.ne_empty {name : String} (h : IsIdentifier name) : name ≠ "" := by
  obtain ⟨c, cs, hName, -⟩ := h
  rintro rfl
  cases hName

/-- Every character of an identifier may stand behind its first. -/
theorem IsIdentifier.continues {name : String} (h : IsIdentifier name) {d : Char}
    (hd : d ∈ name.toList) : continuesIdentifier d = true := by
  obtain ⟨c, cs, hName, hc, hcs⟩ := h
  rw [hName] at hd
  rw [continuesIdentifier_iff]
  -- what may open an identifier may also go on with it
  rcases List.mem_cons.mp hd with rfl | hd
  · exact hc.imp_right .inr
  · exact hcs d hd

theorem isIdentifier_builtin (b : Builtin) : IsIdentifier b.name := by
  rw [← isIdentifier_iff]
  cases b <;> decide

-- ---------------------------------------------------------------------------
-- Verdicts
-- ---------------------------------------------------------------------------

/-- What comes of a registration where the names `taken` are registered already: nothing
is held against it, or the first of four faults. -/
inductive Verdict (taken : List String) (name pattern : String) :
    Option RegistrationError → Prop
  | builtin {b : Builtin} (hb : b.name = name) :
      Verdict taken name pattern (some (.builtinCollision name))
  | registered (hb : ∀ b : Builtin, b.name ≠ name) (ht : name ∈ taken) :
      Verdict taken name pattern (some (.customCollision name))
  | unnamed (hb : ∀ b : Builtin, b.name ≠ name) (ht : name ∉ taken) (hi : ¬ IsIdentifier name) :
      Verdict taken name pattern (some (.invalidName name))
  | unreadable {reason : SyntaxError} (hb : ∀ b : Builtin, b.name ≠ name) (ht : name ∉ taken)
      (hi : IsIdentifier name) (hp : Pattern.ofSource pattern = .error reason) :
      Verdict taken name pattern (some (.invalidPattern name reason))
  | accepted {p : Pattern} (hb : ∀ b : Builtin, b.name ≠ name) (ht : name ∉ taken)
      (hi : IsIdentifier name) (hp : Pattern.ofSource pattern = .ok p) :
      Verdict taken name pattern none

/-- A registration is accepted exactly when all four checks pass. -/
theorem verdict_none_iff {taken : List String} {name pattern : String} :
    Verdict taken name pattern none ↔
      (∀ b : Builtin, b.name ≠ name) ∧ name ∉ taken ∧ IsIdentifier name ∧
        ∃ p, Pattern.ofSource pattern = .ok p := by
  constructor
  · intro h
    cases h with
    | accepted hb ht hi hp => exact ⟨hb, ht, hi, _, hp⟩
  · rintro ⟨hb, ht, hi, p, hp⟩
    exact .accepted hb ht hi hp

theorem ofName?_eq_none_iff {name : String} :
    Builtin.ofName? name = none ↔ ∀ b : Builtin, b.name ≠ name := by
  rw [Builtin.ofName?, List.find?_eq_none]
  constructor
  · intro h b hb
    exact h b (Builtin.mem_all b) (by simpa using hb)
  · intro h b _ hb
    exact h b (by simpa using hb)

theorem name_of_ofName? {name : String} {b : Builtin} (h : Builtin.ofName? name = some b) :
    b.name = name := by
  simpa using List.find?_some h

theorem mem_names_iff {types : List CustomType} {name : String} :
    types.any (·.name == name) = true ↔ name ∈ types.map (·.name) := by
  simp [List.any_eq_true, List.mem_map]

/-- The registry names the first fault. -/
theorem verdict_refusal? (r : Registry) (name pattern : String) :
    Verdict (r.types.map (·.name)) name pattern (r.refusal? name pattern) := by
  rw [Registry.refusal?]
  cases hb : Builtin.ofName? name with
  | some b => exact .builtin (name_of_ofName? hb)
  | none =>
    have hb := ofName?_eq_none_iff.mp hb
    rw [Option.isSome_none, if_neg (by simp)]
    by_cases ht : name ∈ r.types.map (·.name)
    · rw [if_pos (mem_names_iff.mpr ht)]
      exact .registered hb ht
    · rw [if_neg (mt mem_names_iff.mp ht)]
      by_cases hi : IsIdentifier name
      · rw [if_neg (by rw [(isIdentifier_iff name).mpr hi]; simp)]
        cases hp : Pattern.ofSource pattern with
        | ok p => exact .accepted hb ht hi hp
        | error reason => exact .unreadable hb ht hi hp
      · rw [if_pos (by rw [Bool.eq_false_iff.mpr (mt (isIdentifier_iff name).mp hi)]; rfl)]
        exact .unnamed hb ht hi

/-- What registering does: it adds a type against which nothing is held, and otherwise
names the fault. -/
theorem register_cases (r : Registry) (name pattern : String) (transform : Transform) :
    (Verdict (r.types.map (·.name)) name pattern none ∧
      r.register name pattern transform =
        .ok { r with types := r.types ++ [⟨name, pattern, transform⟩] }) ∨
    ∃ e, Verdict (r.types.map (·.name)) name pattern (some e) ∧
      r.register name pattern transform = .error e := by
  have hVerdict := verdict_refusal? r name pattern
  rw [Registry.register]
  cases he : r.refusal? name pattern with
  | none =>
    rw [he] at hVerdict
    exact .inl ⟨hVerdict, rfl⟩
  | some e =>
    rw [he] at hVerdict
    exact .inr ⟨e, hVerdict, rfl⟩

-- ---------------------------------------------------------------------------
-- Valid registries
-- ---------------------------------------------------------------------------

namespace Registry

/-- The names of all types that a registry knows, the built-in ones first. -/
def allNames (r : Registry) : List String :=
  Builtin.all.map Builtin.name ++ r.types.map (·.name)

/-- The entries of the table have the names of the types. -/
theorem map_name_table (r : Registry) : r.table.map (·.name) = r.allNames := by
  rw [table, allNames, List.map_append, List.map_map, List.map_map]
  rfl

/-- A registry whose types have different identifiers as names and whose custom types
have patterns that can be read on their own. -/
structure Valid (r : Registry) : Prop where
  nodup : r.allNames.Nodup
  identifiers : ∀ name ∈ r.allNames, IsIdentifier name
  readable : ∀ t ∈ r.types, ∃ p, Pattern.ofSource t.pattern = .ok p

/-- The types of a valid registry have identifiers for names. -/
theorem Valid.isIdentifier {r : Registry} (h : r.Valid) {p : Parameter} (hp : p ∈ r.table) :
    IsIdentifier p.name := by
  refine h.identifiers p.name ?_
  rw [← map_name_table]
  exact List.mem_map_of_mem hp

/-- A registry without custom types is valid. -/
theorem valid_of_types_nil {r : Registry} (h : r.types = []) : r.Valid := by
  have hNames : r.allNames = Builtin.all.map Builtin.name := by simp [allNames, h]
  refine ⟨?_, ?_, ?_⟩
  · rw [hNames]
    decide
  · intro name hName
    rw [hNames] at hName
    obtain ⟨b, -, rfl⟩ := List.mem_map.mp hName
    exact isIdentifier_builtin b
  · intro t ht
    rw [h] at ht
    cases ht

/-- Validity is about the custom types only. -/
theorem Valid.congr {r r' : Registry} (h : r.Valid) (hTypes : r'.types = r.types) : r'.Valid := by
  have hNames : r'.allNames = r.allNames := by rw [allNames, allNames, hTypes]
  exact ⟨hNames ▸ h.nodup, hNames ▸ h.identifiers, hTypes ▸ h.readable⟩

/-- A type against which nothing is held keeps a registry valid. -/
theorem Valid.concat {r r' : Registry} (h : r.Valid) {t : CustomType}
    (hv : Verdict (r.types.map (·.name)) t.name t.pattern none)
    (hTypes : r'.types = r.types ++ [t]) : r'.Valid := by
  obtain ⟨hb, ht, hi, p, hp⟩ := verdict_none_iff.mp hv
  have hNames : r'.allNames = r.allNames ++ [t.name] := by
    simp [allNames, hTypes, List.append_assoc]
  -- the name is neither that of a built-in type nor that of an earlier one
  have hFresh : t.name ∉ r.allNames := by
    rw [allNames, List.mem_append]
    rintro (hMem | hMem)
    · obtain ⟨b, -, hName⟩ := List.mem_map.mp hMem
      exact hb b hName
    · exact ht hMem
  refine ⟨?_, ?_, ?_⟩
  · rw [hNames, List.nodup_append]
    refine ⟨h.nodup, by simp, ?_⟩
    intro a ha b hMem
    rw [List.mem_singleton] at hMem
    rintro rfl
    exact hFresh (hMem ▸ ha)
  · intro name hName
    rw [hNames, List.mem_append, List.mem_singleton] at hName
    rcases hName with hName | rfl
    · exact h.identifiers name hName
    · exact hi
  · intro u hu
    rw [hTypes, List.mem_append, List.mem_singleton] at hu
    rcases hu with hu | rfl
    · exact h.readable u hu
    · exact ⟨p, hp⟩

/-- Registering keeps a registry valid. -/
theorem Valid.register {r r' : Registry} (h : r.Valid) {name pattern : String}
    {transform : Transform} (hr : r.register name pattern transform = .ok r') : r'.Valid := by
  rcases register_cases r name pattern transform with ⟨hv, hok⟩ | ⟨e, -, hErr⟩
  · rw [hok, Except.ok.injEq] at hr
    exact h.concat (t := ⟨name, pattern, transform⟩) hv (by rw [← hr])
  · rw [hErr] at hr
    cases hr

/-- The registries that start empty and are changed by registering, clearing and pinning
only. -/
inductive Reachable : Registry → Prop
  | empty : Reachable .empty
  | register {r r' : Registry} {name pattern : String} {transform : Transform}
      (h : Reachable r) (hr : r.register name pattern transform = .ok r') : Reachable r'
  | reset {r : Registry} (h : Reachable r) : Reachable r.reset
  | pin {r : Registry} (h : Reachable r) (escape : Bool) : Reachable (r.pin escape)

/-- Every registry that can be got to is valid. -/
theorem Reachable.valid {r : Registry} (h : r.Reachable) : r.Valid := by
  induction h with
  | empty => exact valid_of_types_nil rfl
  | register _ hr ih => exact ih.register hr
  | reset _ _ => exact valid_of_types_nil rfl
  | pin _ _ ih => exact ih.congr rfl

end Registry

end TypedSteps
