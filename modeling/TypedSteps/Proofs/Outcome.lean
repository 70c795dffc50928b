import TypedSteps.Matching
import TypedSteps.Proofs.Template.Tokens

/-!
# What comes of a match

A match has one of five outcomes, and the template, the text and the captures settle
which: nothing where the template has no keyword, an error where it cannot be compiled,
a mismatch where nothing was captured, an error for the first capture that cannot be
converted, and else one value for every capture.

* `Registry.HasKeyword`, `hasPlaceholder_iff` — templates with keywords;
* `Owns`, `convertCapture_of_owns` — the type that converts a capture;
* `Converted`, `convertAll_of_converted`, `convertAll_of_first` — captures converted one
  after the other;
* `Outcome`, `matchStep_eq_iff`, `match_all_or_nothing` — the outcomes of a match.
-/

namespace TypedSteps

open Calendar (Zone)

-- ---------------------------------------------------------------------------
-- Keywords and owners
-- ---------------------------------------------------------------------------

/-- The keyword of a type that the registry knows stands somewhere in a template. -/
def Registry.HasKeyword (r : Registry) (template : String) : Prop :=
  ∃ p ∈ r.table, keywordCharacters p.name.toList <:+: template.toList

/-- A template has a placeholder if a keyword of the registry stands in it. -/
theorem hasPlaceholder_iff {r : Registry} {template : String} :
    r.hasPlaceholder template = true ↔ r.HasKeyword template :=
  any_isPlaceholder_tokensFrom_iff

/-- The type that converts what a group captures: the one that the group is named after,
and quoted text where the group is not named after a type that the registry knows. -/
inductive Owns (r : Registry) (group : String) : ParameterType → Prop
  | named {name : String} {n : Nat} {type : ParameterType}
      (hSplit : splitGroupName? group = some (name, n)) (hResolve : r.resolve? name = some type) :
      Owns r group type
  | unnamed (hNone : ∀ name n, splitGroupName? group = some (name, n) → r.resolve? name = none) :
      Owns r group (.builtin .string)

/-- Every group has an owner, and the owner converts what the group captures. -/
theorem exists_owns (r : Registry) (zone : Zone) (c : Capture) :
    ∃ type, Owns r c.group type ∧
      ∀ shared, convertCapture r zone c shared = type.convert zone c.text shared := by
  refine ⟨(ownerOf? r c.group).getD (.builtin .string), ?_, fun shared => rfl⟩
  rw [ownerOf?]
  cases hSplit : splitGroupName? c.group with
  | none =>
    refine .unnamed ?_
    intro name n h
    rw [hSplit] at h
    cases h
  | some parts =>
    obtain ⟨name, n⟩ := parts
    dsimp only
    cases hResolve : r.resolve? name with
    | some type => exact .named hSplit hResolve
    | none =>
      refine .unnamed ?_
      intro name' n' h
      rw [hSplit, Option.some.injEq, Prod.mk.injEq] at h
      rw [← h.1]
      exact hResolve

/-- A group has one owner. -/
theorem Owns.unique {r : Registry} {group : String} {type other : ParameterType}
    (h : Owns r group type) (h' : Owns r group other) : type = other := by
  cases h with
  | named hSplit hResolve =>
    cases h' with
    | named hSplit' hResolve' =>
      rw [hSplit, Option.some.injEq, Prod.mk.injEq] at hSplit'
      rw [hSplit'.1, hResolve', Option.some.injEq] at hResolve
      exact hResolve.symm
    | unnamed hNone =>
      rw [hNone _ _ hSplit] at hResolve
      cases hResolve
  | unnamed hNone =>
    cases h' with
    | named hSplit' hResolve' =>
      rw [hNone _ _ hSplit'] at hResolve'
      cases hResolve'
    | unnamed => rfl

/-- A capture is converted by the type it belongs to. -/
theorem convertCapture_of_owns {r : Registry} {c : Capture} {type : ParameterType}
    (h : Owns r c.group type) (zone : Zone) (shared : SharedTypes) :
    convertCapture r zone c shared = type.convert zone c.text shared := by
  obtain ⟨owner, hOwns, hConvert⟩ := exists_owns r zone c
  rw [h.unique hOwns]
  exact hConvert shared

-- ---------------------------------------------------------------------------
-- One capture
-- ---------------------------------------------------------------------------

/-- A capture whose text can be converted. -/
def Convertible (r : Registry) (zone : Zone) (c : Capture) : Prop :=
  ∀ shared, ∃ value after, convertCapture r zone c shared = (.ok value, after)

/-- A capture whose text cannot be converted for a reason. -/
def Inconvertible (r : Registry) (zone : Zone) (c : Capture) (reason : ConversionError) : Prop :=
  ∀ shared, convertCapture r zone c shared = (.error reason, shared)

/-- Whether a text can be converted does not depend on the shared types: only built-in
types refuse texts, and they look at nothing else. -/
theorem convertible_or_inconvertible (r : Registry) (zone : Zone) (c : Capture) :
    Convertible r zone c ∨ ∃ reason, Inconvertible r zone c reason := by
  obtain ⟨type, -, hConvert⟩ := exists_owns r zone c
  cases type with
  | custom t =>
    left
    intro shared
    rw [hConvert]
    exact ⟨_, _, rfl⟩
  | builtin b =>
    cases hb : b.convert zone c.text with
    | ok value =>
      left
      intro shared
      rw [hConvert, ParameterType.convert, hb]
      exact ⟨_, _, rfl⟩
    | error reason =>
      right
      refine ⟨reason, ?_⟩
      intro shared
      rw [hConvert, ParameterType.convert, hb]

-- ---------------------------------------------------------------------------
-- Captures one after the other
-- ---------------------------------------------------------------------------

/-- The shared types after some captures were converted one after the other. -/
def sharedAfter (r : Registry) (zone : Zone) (cs : List Capture) (shared : SharedTypes) :
    SharedTypes :=
  cs.foldl (fun s c => (convertCapture r zone c s).2) shared

/-- Every capture was converted to the value in its place, with the shared types as the
captures before it had left them. -/
def Converted (r : Registry) (zone : Zone) (cs : List Capture) (shared : SharedTypes)
    (values : List Value) : Prop :=
  values.length = cs.length ∧
    ∀ i c v, cs[i]? = some c → values[i]? = some v →
      (convertCapture r zone c (sharedAfter r zone (cs.take i) shared)).1 = .ok v

section Captures

variable {r : Registry} {zone : Zone} {c : Capture} {cs : List Capture} {shared : SharedTypes}

theorem converted_nil {values : List Value} : Converted r zone [] shared values ↔ values = [] := by
  constructor
  · rintro ⟨hLen, -⟩
    exact List.eq_nil_of_length_eq_zero hLen
  · rintro rfl
    refine ⟨rfl, ?_⟩
    intro i c v hc
    cases hc

/-- The first capture is converted with the shared types as they are, the others with what
it leaves. -/
theorem converted_cons {values : List Value} :
    Converted r zone (c :: cs) shared values ↔
      ∃ v vs, values = v :: vs ∧ (convertCapture r zone c shared).1 = .ok v ∧
        Converted r zone cs (convertCapture r zone c shared).2 vs := by
  constructor
  · rintro ⟨hLen, hEach⟩
    obtain ⟨v, vs, rfl⟩ := List.exists_cons_of_length_eq_add_one hLen
    refine ⟨v, vs, rfl, hEach 0 c v rfl rfl, Nat.succ.inj hLen, ?_⟩
    intro i d u hd hu
    exact hEach (i + 1) d u hd hu
  · rintro ⟨v, vs, rfl, hv, hLen, hEach⟩
    refine ⟨congrArg (· + 1) hLen, ?_⟩
    intro i d u hd hu
    cases i with
    | zero =>
      cases hd
      cases hu
      exact hv
    | succ i => exact hEach i d u hd hu

/-- Captures that can all be converted are converted to some values. -/
theorem exists_converted (h : ∀ c ∈ cs, Convertible r zone c) (shared : SharedTypes) :
    ∃ values, Converted r zone cs shared values := by
  induction cs generalizing shared with
  | nil => exact ⟨[], converted_nil.mpr rfl⟩
  | cons c cs ih =>
    obtain ⟨hc, hcs⟩ := List.forall_mem_cons.mp h
    obtain ⟨v, after, hv⟩ := hc shared
    obtain ⟨vs, hvs⟩ := ih hcs (convertCapture r zone c shared).2
    refine ⟨v :: vs, converted_cons.mpr ⟨v, vs, rfl, ?_, hvs⟩⟩
    rw [hv]

/-- Either all captures can be converted, or there is a first that cannot. -/
theorem all_or_first (r : Registry) (zone : Zone) (cs : List Capture) :
    (∀ c ∈ cs, Convertible r zone c) ∨
      ∃ before c after reason, cs = before ++ c :: after ∧
        (∀ b ∈ before, Convertible r zone b) ∧ Inconvertible r zone c reason := by
  induction cs with
  | nil =>
    left
    intro c hc
    cases hc
  | cons c cs ih =>
    rcases convertible_or_inconvertible r zone c with hc | ⟨reason, hc⟩
    · rcases ih with hAll | ⟨before, d, after, reason, rfl, hBefore, hd⟩
      · exact .inl (List.forall_mem_cons.mpr ⟨hc, hAll⟩)
      · exact .inr ⟨c :: before, d, after, reason, rfl,
          List.forall_mem_cons.mpr ⟨hc, hBefore⟩, hd⟩
    · refine .inr ⟨[], c, cs, reason, rfl, ?_, hc⟩
      intro b hb
      cases hb

/-- Captures that can all be converted are. -/
theorem convertAll_of_converted {values : List Value} (h : Converted r zone cs shared values) :
    convertAll r zone cs shared = (.ok values, sharedAfter r zone cs shared) := by
  induction cs generalizing shared values with
  | nil =>
    rw [converted_nil.mp h]
    rfl
  | cons c cs ih =>
    obtain ⟨v, vs, rfl, hv, hvs⟩ := converted_cons.mp h
    have hRest := ih hvs
    have hAfter : sharedAfter r zone (c :: cs) shared =
        sharedAfter r zone cs (convertCapture r zone c shared).2 := rfl
    rw [convertAll, hAfter]
    cases hc : convertCapture r zone c shared with
    | mk result after =>
      rw [hc] at hv hRest
      obtain rfl : result = .ok v := hv
      simp only [hRest]

/-- The first capture that cannot be converted ends the conversions, with the shared types
as the captures before it left them. -/
theorem convertAll_of_first {before after : List Capture} {reason : ConversionError}
    (hBefore : ∀ b ∈ before, Convertible r zone b) (hc : Inconvertible r zone c reason)
    (shared : SharedTypes) :
    convertAll r zone (before ++ c :: after) shared =
      (.error (c, reason), sharedAfter r zone before shared) := by
  induction before generalizing shared with
  | nil =>
    rw [List.nil_append, convertAll, hc shared]
    rfl
  | cons b before ih =>
    obtain ⟨hb, hBefore⟩ := List.forall_mem_cons.mp hBefore
    obtain ⟨value, next, hok⟩ := hb shared
    have hAfter : sharedAfter r zone (b :: before) shared = sharedAfter r zone before next := by
      show sharedAfter r zone before (convertCapture r zone b shared).2 = _
      rw [hok]
    rw [List.cons_append, convertAll, hok, hAfter]
    simp only [ih hBefore]

end Captures

-- ---------------------------------------------------------------------------
-- Outcomes
-- ---------------------------------------------------------------------------

/-- What a match of a step against a template comes to, together with the shared types after
it. -/
inductive Outcome (r : Registry) (settings : MatchSettings) (step : Step) (template : String)
    (shared : SharedTypes) : Except MatchError (List Value) × SharedTypes → Prop
  /-- A template without keywords yields no values, whatever it says itself. -/
  | plain (hNone : ¬ r.HasKeyword template) :
      Outcome r settings step template shared (.ok [], shared)
  /-- The pattern of the template cannot be read. -/
  | unreadable {reason : SyntaxError} (hKeyword : r.HasKeyword template)
      (hCompile : r.compile settings.escape template = .error reason) :
      Outcome r settings step template shared
        (.error (.invalidExpression template reason), shared)
  /-- Nothing was captured. -/
  | mismatch {compiled : CompiledTemplate} (hKeyword : r.HasKeyword template)
      (hCompile : r.compile settings.escape template = .ok compiled)
      (hNothing : compiled.pattern.captures step.text = []) :
      Outcome r settings step template shared
        (.error (.mismatch step.diagnostic template), shared)
  /-- Every capture was converted. -/
  | values {compiled : CompiledTemplate} {values : List Value} (hKeyword : r.HasKeyword template)
      (hCompile : r.compile settings.escape template = .ok compiled)
      (hSome : compiled.pattern.captures step.text ≠ [])
      (hAll : ∀ c ∈ compiled.pattern.captures step.text, Convertible r settings.zone c)
      (hValues : Converted r settings.zone (compiled.pattern.captures step.text) shared values) :
      Outcome r settings step template shared
        (.ok values, sharedAfter r settings.zone (compiled.pattern.captures step.text) shared)
  /-- A capture could not be converted, while all captures before it could. -/
  | conversion {compiled : CompiledTemplate} {before after : List Capture} {c : Capture}
      {reason : ConversionError} (hKeyword : r.HasKeyword template)
      (hCompile : r.compile settings.escape template = .ok compiled)
      (hCaptures : compiled.pattern.captures step.text = before ++ c :: after)
      (hBefore : ∀ b ∈ before, Convertible r settings.zone b)
      (hc : Inconvertible r settings.zone c reason) :
      Outcome r settings step template shared
        (.error (.conversion step.diagnostic c.group c.text reason),
          sharedAfter r settings.zone before shared)

section Outcomes

variable {r : Registry} {settings : MatchSettings} {step : Step} {template : String}
  {shared : SharedTypes} {compiled : CompiledTemplate}

/-- A template without keywords yields no values, whatever the text. -/
theorem matchStep_of_not_hasKeyword (h : ¬ r.HasKeyword template) :
    matchStep r settings step template shared = (.ok [], shared) := by
  have hPlaceholder : r.hasPlaceholder template = false :=
    Bool.eq_false_iff.mpr (mt hasPlaceholder_iff.mp h)
  rw [matchStep, hPlaceholder]
  rfl

/-- A template with keywords that is compiled yields what converting its captures yields,
and a mismatch where there are none. -/
theorem matchStep_of_captures (hKeyword : r.HasKeyword template)
    (hCompile : r.compile settings.escape template = .ok compiled)
    (hSome : compiled.pattern.captures step.text ≠ []) :
    matchStep r settings step template shared =
      match convertAll r settings.zone (compiled.pattern.captures step.text) shared with
      | (.ok values, after) => (.ok values, after)
      | (.error (c, reason), after) =>
        (.error (.conversion step.diagnostic c.group c.text reason), after) := by
  rw [matchStep, hasPlaceholder_iff.mpr hKeyword, hCompile]
  cases hCaptures : compiled.pattern.captures step.text with
  | nil => exact absurd hCaptures hSome
  | cons c cs =>
    rcases hConvert : convertAll r settings.zone (c :: cs) shared with ⟨⟨⟩ | ⟨⟩, after⟩
    all_goals simp only [Bool.not_true, Bool.false_eq_true, if_false, hCaptures, hConvert]

/-- What the outcome says is what the match yields. -/
theorem Outcome.matchStep_eq {out : Except MatchError (List Value) × SharedTypes}
    (h : Outcome r settings step template shared out) :
    matchStep r settings step template shared = out := by
  cases h with
  | plain hNone => exact matchStep_of_not_hasKeyword hNone
  | unreadable hKeyword hCompile =>
    rw [matchStep, hasPlaceholder_iff.mpr hKeyword, hCompile]
    rfl
  | mismatch hKeyword hCompile hNothing =>
    rw [matchStep, hasPlaceholder_iff.mpr hKeyword, hCompile]
    simp only [Bool.not_true, Bool.false_eq_true, if_false, hNothing]
  | values hKeyword hCompile hSome hAll hValues =>
    rw [matchStep_of_captures hKeyword hCompile hSome, convertAll_of_converted hValues]
  | @conversion compiled before after c reason hKeyword hCompile hCaptures hBefore hc =>
    have hSome : compiled.pattern.captures step.text ≠ [] := by
      rw [hCaptures]
      exact List.append_ne_nil_of_right_ne_nil _ (List.cons_ne_nil _ _)
    rw [matchStep_of_captures hKeyword hCompile hSome, hCaptures,
      convertAll_of_first hBefore hc]

/-- Every match has one of the outcomes. -/
theorem exists_outcome (r : Registry) (settings : MatchSettings) (step : Step) (template : String)
    (shared : SharedTypes) : ∃ out, Outcome r settings step template shared out := by
  by_cases hKeyword : r.HasKeyword template
  · cases hCompile : r.compile settings.escape template with
    | error reason => exact ⟨_, .unreadable hKeyword hCompile⟩
    | ok compiled =>
      by_cases hNothing : compiled.pattern.captures step.text = []
      · exact ⟨_, .mismatch hKeyword hCompile hNothing⟩
      · rcases all_or_first r settings.zone (compiled.pattern.captures step.text) with
          hAll | ⟨before, c, after, reason, hCaptures, hBefore, hc⟩
        · obtain ⟨values, hValues⟩ := exists_converted hAll shared
          exact ⟨_, .values hKeyword hCompile hNothing hAll hValues⟩
        · exact ⟨_, .conversion hKeyword hCompile hCaptures hBefore hc⟩
  · exact ⟨_, .plain hKeyword⟩

/-- What a match comes to is its outcome. -/
theorem matchStep_eq_iff {out : Except MatchError (List Value) × SharedTypes} :
    matchStep r settings step template shared = out ↔
      Outcome r settings step template shared out := by
  constructor
  · rintro rfl
    obtain ⟨out, hOut⟩ := exists_outcome r settings step template shared
    rwa [hOut.matchStep_eq]
  · exact Outcome.matchStep_eq

/-- Only a template without keywords yields no values without an error. -/
theorem Outcome.ok_nil_iff {out : Except MatchError (List Value) × SharedTypes}
    (h : Outcome r settings step template shared out) :
    out.1 = .ok [] ↔ ¬ r.HasKeyword template := by
  cases h with
  | plain hNone => exact iff_of_true rfl hNone
  | unreadable hKeyword | mismatch hKeyword | conversion hKeyword =>
    exact iff_of_false (fun hError => nomatch hError) (not_not_intro hKeyword)
  | @values compiled values hKeyword hCompile hSome hAll hValues =>
    refine iff_of_false ?_ (not_not_intro hKeyword)
    intro hNil
    obtain rfl : values = [] := Except.ok.inj hNil
    exact hSome (List.eq_nil_of_length_eq_zero hValues.1.symm)

end Outcomes

/-- **A match is all or nothing.** It comes to exactly one outcome: no values for a template
without keywords; an error with the template if it cannot be compiled; a mismatch if
nothing was captured; a value for every capture, in order, if all can be converted; and the
error of the first capture that cannot, with its group, its text and the reason. Only
templates without keywords yield no values without an error. A capture is converted by the
type that its group is named after, and as quoted text if there is no such type. -/
theorem match_all_or_nothing (r : Registry) (settings : MatchSettings) (step : Step)
    (template : String) (shared : SharedTypes) :
    (∀ out, matchStep r settings step template shared = out ↔
      Outcome r settings step template shared out) ∧
    ((matchStep r settings step template shared).1 = .ok [] ↔ ¬ r.HasKeyword template) ∧
    ∀ c : Capture, (∃ type, Owns r c.group type) ∧ ∀ type, Owns r c.group type → ∀ s,
      convertCapture r settings.zone c s = type.convert settings.zone c.text s := by
  refine ⟨fun out => matchStep_eq_iff, ?_, fun c => ⟨?_, fun type hOwns s => ?_⟩⟩
  · exact (matchStep_eq_iff.mp rfl).ok_nil_iff
  · obtain ⟨type, hOwns, -⟩ := exists_owns r settings.zone c
    exact ⟨type, hOwns⟩
  · exact convertCapture_of_owns hOwns settings.zone s

end TypedSteps
