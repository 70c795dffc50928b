import TypedSteps.Proofs.Outcome
import TypedSteps.Proofs.Registry.Ownership

/-!
# Two matches side by side

Two registries that make the same pattern of a template, and agree on the owners of its groups,
match every step alike. What transforms do to the shared types on the way is compared by a
relation: a relation that every single conversion keeps is kept by whole matches.

* `AgreeUpTo` — the same result, with related shared types after it;
* `ReadAlike` — registries that read a template alike;
* `ReadAlike.matchStep_agree` — their matches agree up to what conversions keep;
* `ReadAlike.matchStep_eq` — from the same shared types on they are the same;
* `Registry.Pure`, `ReadAlike.matchStep_pure` — where transforms are functions of the captured
  text, the shared types do not matter.
-/

namespace TypedSteps

open Calendar (Zone)

/-- Two results with the shared types after them: the results are the same, and the shared
types are related. -/
structure AgreeUpTo (R : SharedTypes → SharedTypes → Prop) {α : Type} (x y : α × SharedTypes) :
    Prop where
  result : x.1 = y.1
  shared : R x.2 y.2

theorem agreeUpTo_eq_iff {α : Type} {x y : α × SharedTypes} : AgreeUpTo Eq x y ↔ x = y := by
  constructor
  · rintro ⟨hResult, hShared⟩
    exact Prod.ext hResult hShared
  · rintro rfl
    exact ⟨rfl, rfl⟩

/-- Two outcomes that agree have the same result. -/
theorem AgreeUpTo.exists_eq {R : SharedTypes → SharedTypes → Prop} {α : Type}
    {x y : α × SharedTypes} (h : AgreeUpTo R x y) :
    ∃ result s s', x = (result, s) ∧ y = (result, s') ∧ R s s' :=
  ⟨x.1, x.2, y.2, rfl, Prod.ext h.result.symm rfl, h.shared⟩

section Conversions

variable {r r' : Registry} {zone : Zone} {R : SharedTypes → SharedTypes → Prop}
  {shared shared' : SharedTypes}

/-- A relation that the conversion of each capture keeps is kept by converting all of them. -/
theorem convertAll_agree {cs : List Capture}
    (hStep : ∀ c ∈ cs, ∀ s s', R s s' →
      AgreeUpTo R (convertCapture r zone c s) (convertCapture r' zone c s'))
    (h : R shared shared') :
    AgreeUpTo R (convertAll r zone cs shared) (convertAll r' zone cs shared') := by
  induction cs generalizing shared shared' with
  | nil => exact ⟨rfl, h⟩
  | cons c cs ih =>
    obtain ⟨hc, hcs⟩ := List.forall_mem_cons.mp hStep
    obtain ⟨result, after, after', hOne, hOne', hAfter⟩ := (hc shared shared' h).exists_eq
    rw [convertAll, convertAll, hOne, hOne']
    cases result with
    | error reason => exact ⟨rfl, hAfter⟩
    | ok value =>
      obtain ⟨results, last, last', hRest, hRest', hLast⟩ := (ih hcs hAfter).exists_eq
      dsimp only
      rw [hRest, hRest']
      cases results with
      | error e => exact ⟨rfl, hLast⟩
      | ok values => exact ⟨rfl, hLast⟩

/-- The groups that captures name are groups of the pattern. -/
theorem group_mem_namedGroups {p : Pattern} {text : String} {c : Capture}
    (hc : c ∈ p.captures text) : ∃ index, (c.group, index) ∈ p.namedGroups := by
  obtain ⟨m, -, hm⟩ := List.mem_flatMap.mp hc
  obtain ⟨⟨name, index⟩, hGroup, hSpan⟩ := List.mem_filterMap.mp hm
  obtain ⟨span, -, rfl⟩ := Option.map_eq_some_iff.mp hSpan
  exact ⟨index, hGroup⟩

/-- A capture is converted alike if it belongs to the same type. -/
theorem convertCapture_of_owner_eq {c : Capture}
    (h : ownerOf? r c.group = ownerOf? r' c.group) (s : SharedTypes) :
    convertCapture r zone c s = convertCapture r' zone c s := by
  rw [convertCapture, convertCapture, h]

end Conversions

-- ---------------------------------------------------------------------------
-- Registries that read a template alike
-- ---------------------------------------------------------------------------

/-- Two registries that read a template alike: it has keywords for both or for neither, they
make the same pattern of it or fail for the same reason, and a group of the pattern has the
same owner in both. -/
structure ReadAlike (r r' : Registry) (configured configured' : Bool) (template : String) :
    Prop where
  keyword : r.hasPlaceholder template = r'.hasPlaceholder template
  pattern : (r.compile configured template).map (·.pattern) =
    (r'.compile configured' template).map (·.pattern)
  owner : ∀ compiled, r.compile configured template = .ok compiled →
    ∀ group ∈ compiled.pattern.namedGroups, ownerOf? r group.1 = ownerOf? r' group.1

section ReadAlike

variable {r r' : Registry} {configured configured' : Bool} {template : String}

/-- The template is refused by both for the same reason, or compiled by both to the same
pattern. -/
theorem ReadAlike.compile_cases (h : ReadAlike r r' configured configured' template) :
    (∃ reason, r.compile configured template = .error reason ∧
      r'.compile configured' template = .error reason) ∨
    ∃ compiled compiled', r.compile configured template = .ok compiled ∧
      r'.compile configured' template = .ok compiled' ∧ compiled.pattern = compiled'.pattern := by
  -- what is compiled is compared by its pattern, and refusals by their reason
  have hPattern := h.pattern
  cases hCompile : r.compile configured template with
  | error reason =>
    rw [hCompile] at hPattern
    cases hCompile' : r'.compile configured' template with
    | error reason' =>
      rw [hCompile'] at hPattern
      cases hPattern
      exact .inl ⟨reason, rfl, rfl⟩
    | ok compiled' =>
      rw [hCompile'] at hPattern
      cases hPattern
  | ok compiled =>
    rw [hCompile] at hPattern
    cases hCompile' : r'.compile configured' template with
    | error reason' =>
      rw [hCompile'] at hPattern
      cases hPattern
    | ok compiled' =>
      rw [hCompile'] at hPattern
      exact .inr ⟨compiled, compiled', rfl, rfl, Except.ok.inj hPattern⟩

/-- Registries that read a template alike match steps alike, up to a relation between the shared
types that the conversions keep. -/
theorem ReadAlike.matchStep_agree (h : ReadAlike r r' configured configured' template) {zone : Zone}
    {R : SharedTypes → SharedTypes → Prop}
    (hStep : ∀ c s s', R s s' →
      AgreeUpTo R (convertCapture r zone c s) (convertCapture r zone c s'))
    (step : Step) {shared shared' : SharedTypes} (hShared : R shared shared') :
    AgreeUpTo R (matchStep r ⟨configured, zone⟩ step template shared)
      (matchStep r' ⟨configured', zone⟩ step template shared') := by
  rw [matchStep, matchStep, ← h.keyword]
  cases r.hasPlaceholder template with
  | false => exact ⟨rfl, hShared⟩
  | true =>
    rcases h.compile_cases with
      ⟨reason, hError, hError'⟩ | ⟨compiled, compiled', hok, hok', hPattern⟩
    · simp only [Bool.not_true, Bool.false_eq_true, if_false, hError, hError']
      exact ⟨rfl, hShared⟩
    · simp only [Bool.not_true, Bool.false_eq_true, if_false, hok, hok', ← hPattern]
      -- the captures are the same, and each belongs to the same type
      have hAll : AgreeUpTo R
          (convertAll r zone (compiled.pattern.captures step.text) shared)
          (convertAll r' zone (compiled.pattern.captures step.text) shared') := by
        refine convertAll_agree ?_ hShared
        intro c hc s s' hs
        obtain ⟨index, hGroup⟩ := group_mem_namedGroups hc
        rw [← convertCapture_of_owner_eq (h.owner compiled hok _ hGroup)]
        exact hStep c s s' hs
      obtain ⟨results, last, last', hAll, hAll', hLast⟩ := hAll.exists_eq
      cases hCaptures : compiled.pattern.captures step.text with
      | nil => exact ⟨rfl, hShared⟩
      | cons c cs =>
        rw [hCaptures] at hAll hAll'
        dsimp only
        rw [hAll, hAll']
        cases results with
        | ok values => exact ⟨rfl, hLast⟩
        | error e => exact ⟨rfl, hLast⟩

/-- From the same shared types on, registries that read a template alike do the same. -/
theorem ReadAlike.matchStep_eq (h : ReadAlike r r' configured configured' template) (zone : Zone)
    (step : Step) (shared : SharedTypes) :
    matchStep r ⟨configured, zone⟩ step template shared =
      matchStep r' ⟨configured', zone⟩ step template shared := by
  refine agreeUpTo_eq_iff.mp (h.matchStep_agree ?_ step rfl)
  rintro c s _ rfl
  exact ⟨rfl, rfl⟩

end ReadAlike

-- ---------------------------------------------------------------------------
-- Transforms that are functions
-- ---------------------------------------------------------------------------

/-- A type whose transform is a function of the captured text: it yields a value, and does
nothing besides. -/
def CustomType.Pure (t : CustomType) : Prop :=
  ∀ text, ∃ value, t.transform text = .yield value

/-- A registry all of whose transforms are functions of the captured text. -/
def Registry.Pure (r : Registry) : Prop :=
  ∀ t ∈ r.types, t.Pure

/-- Where transforms are functions, a conversion neither looks at the shared types nor changes
them. -/
theorem convertCapture_of_pure {r : Registry} (hr : r.Pure) (zone : Zone) (c : Capture) :
    ∃ result, ∀ shared, convertCapture r zone c shared = (result, shared) := by
  obtain ⟨type, hOwns, hConvert⟩ := exists_owns r zone c
  cases type with
  | builtin b => exact ⟨b.convert zone c.text, hConvert⟩
  | custom t =>
    cases hOwns with
    | named hSplit hResolve =>
      obtain ⟨value, hValue⟩ := hr t (mem_types_of_resolve? hResolve) c.text
      refine ⟨.ok value, fun shared => ?_⟩
      rw [hConvert, ParameterType.convert, hValue]
      rfl

/-- Where transforms are functions, registries that read a template alike match steps alike
whatever the shared types, and leave these as they are. -/
theorem ReadAlike.matchStep_pure {r r' : Registry} {configured configured' : Bool}
    {template : String} (h : ReadAlike r r' configured configured' template) (hr : r.Pure)
    (zone : Zone) (step : Step) (shared shared' : SharedTypes) :
    (matchStep r ⟨configured, zone⟩ step template shared).1 =
        (matchStep r' ⟨configured', zone⟩ step template shared').1 ∧
      (matchStep r ⟨configured, zone⟩ step template shared).2 = shared ∧
      (matchStep r' ⟨configured', zone⟩ step template shared').2 = shared' := by
  have hStep : ∀ c s s', s = shared ∧ s' = shared' →
      AgreeUpTo (fun s s' => s = shared ∧ s' = shared') (convertCapture r zone c s)
        (convertCapture r zone c s') := by
    intro c s s' hs
    obtain ⟨result, hResult⟩ := convertCapture_of_pure hr zone c
    rw [hResult, hResult]
    exact ⟨rfl, hs⟩
  have hAgree := h.matchStep_agree hStep step ⟨rfl, rfl⟩
  exact ⟨hAgree.result, hAgree.shared⟩

end TypedSteps
