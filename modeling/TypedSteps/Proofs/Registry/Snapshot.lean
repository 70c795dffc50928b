import Mathlib.Data.List.TakeWhile
import TypedSteps.Proofs.Outcome
import TypedSteps.Proofs.Registry.Histories

/-!
# Matching on a snapshot

A match against the shared registry goes by the types that the registry held when the match
began. Transforms may register types and clear the registry in the meantime; this shows in the
shared registry after the match, and nowhere in the match itself.

* `RegistryEvent.apply`, `History.replay` — doing again what happened to a registry;
* `keptByEvents_replay` — the shared registry is what its history says, done again;
* `Registry.convertedCaptures` — the captures up to the first that cannot be converted;
* `conversion_at` — the conversion of one of them: its owner, its value and what it leaves;
* `shared_match_works_on_snapshot` — a whole match against the shared registry.
-/

namespace TypedSteps

open Calendar (Zone)

-- ---------------------------------------------------------------------------
-- Histories done again
-- ---------------------------------------------------------------------------

/-- What an event does to a registry: a registration is tried, and leaves the registry as it is
on failure. -/
def RegistryEvent.apply : RegistryEvent → Registry → Registry
  | attempt type _, r =>
    match r.register type.name type.pattern type.transform with
    | .ok r' => r'
    | .error _ => r
  | cleared, r => r.reset

/-- A registry after the events of a history. -/
def History.replay (h : History) (r : Registry) : Registry :=
  h.foldr RegistryEvent.apply r

theorem History.replay_cons (e : RegistryEvent) (h : History) (r : Registry) :
    History.replay (e :: h) r = e.apply (h.replay r) := rfl

/-- The shared registry is always the one there was at first, after the events since. -/
theorem keptByEvents_replay (first : Registry) :
    KeptByEvents fun h r => r = History.replay h first where
  accepted := by
    intro h r r' name pattern transform hr hok
    rw [History.replay_cons, ← hr, RegistryEvent.apply, hok]
  refused := by
    intro h r name pattern transform e hr hError
    rw [History.replay_cons, ← hr, RegistryEvent.apply, hError]
  reset := by
    intro h r hr
    rw [History.replay_cons, ← hr]
    rfl

-- ---------------------------------------------------------------------------
-- The captures that are converted
-- ---------------------------------------------------------------------------

/-- Whether a text can be converted as a type asks; transforms take any text. -/
def ParameterType.accepts (type : ParameterType) (zone : Zone) (text : String) : Bool :=
  match type with
  | builtin b => (b.convert zone text).isOk
  | custom _ => true

/-- Whether the type that a capture belongs to takes its text. -/
def Registry.converts (r : Registry) (zone : Zone) (c : Capture) : Bool :=
  ((ownerOf? r c.group).getD (.builtin .string)).accepts zone c.text

/-- The captures that a match converts: those before the first that cannot be converted, and
none if the template has no keywords or cannot be compiled. -/
def Registry.convertedCaptures (r : Registry) (settings : MatchSettings) (step : Step)
    (template : String) : List Capture :=
  if !r.hasPlaceholder template then []
  else
    match r.compile settings.escape template with
    | .error _ => []
    | .ok compiled => (compiled.pattern.captures step.text).takeWhile (r.converts settings.zone)

section Captures

variable {r : Registry} {zone : Zone} {c : Capture} {cs : List Capture} {shared : SharedTypes}

/-- Whether a type accepts a text does not depend on the shared types. -/
theorem ParameterType.accepts_iff {type : ParameterType} {text : String} :
    type.accepts zone text = true ↔
      ∀ shared, ∃ value after, type.convert zone text shared = (.ok value, after) := by
  cases type with
  | custom t => exact iff_of_true rfl fun shared => ⟨_, _, rfl⟩
  | builtin b =>
    rw [accepts]
    cases hb : b.convert zone text with
    | ok value =>
      refine iff_of_true rfl fun shared => ⟨value, shared, ?_⟩
      rw [convert, hb]
    | error reason =>
      refine iff_of_false Bool.false_ne_true fun h => ?_
      obtain ⟨value, after, hok⟩ := h {}
      rw [convert, hb] at hok
      cases hok

/-- The captures that convert are those that can be converted. -/
theorem converts_iff : r.converts zone c = true ↔ Convertible r zone c :=
  ParameterType.accepts_iff

/-- A capture that fails from any shared types cannot be converted. -/
theorem Inconvertible.not_convertible {reason : ConversionError}
    (h : Inconvertible r zone c reason) : ¬ Convertible r zone c := by
  intro hc
  obtain ⟨value, after, hok⟩ := hc {}
  rw [h] at hok
  cases hok

/-- If all captures can be converted, all of them are. -/
theorem takeWhile_converts_of_all (h : ∀ c ∈ cs, Convertible r zone c) :
    cs.takeWhile (r.converts zone) = cs :=
  List.takeWhile_eq_self_iff.mpr fun c hc => converts_iff.mpr (h c hc)

/-- The captures before the first that fails are converted. -/
theorem takeWhile_converts_of_first {before after : List Capture} {reason : ConversionError}
    (hBefore : ∀ b ∈ before, Convertible r zone b) (hc : Inconvertible r zone c reason) :
    (before ++ c :: after).takeWhile (r.converts zone) = before := by
  rw [List.takeWhile_append_of_pos fun b hb => converts_iff.mpr (hBefore b hb),
    List.takeWhile_cons_of_neg fun h => hc.not_convertible (converts_iff.mp h), List.append_nil]

/-- The shared registry after captures were converted has gone through the events of their
transforms. -/
theorem registry_sharedAfter (h : ∀ c ∈ cs, Convertible r zone c) :
    (sharedAfter r zone cs shared).registry =
      (conversionEvents r zone cs shared []).replay shared.registry := by
  obtain ⟨values, hValues⟩ := exists_converted h shared
  have hKept := (keptByEvents_replay shared.registry).convertAll (h := []) rfl r zone cs
  rwa [convertAll_of_converted hValues] at hKept

/-- One capture more is converted from what those before it left. -/
theorem sharedAfter_take_succ {i : Nat} (hc : cs[i]? = some c) :
    sharedAfter r zone (cs.take (i + 1)) shared =
      (convertCapture r zone c (sharedAfter r zone (cs.take i) shared)).2 := by
  rw [List.take_add_one, hc, sharedAfter, List.foldl_append]
  rfl

/-- The conversion of the capture in one place: its owner makes the value in that place from what
the captures before it left, and the shared registry goes through the events of the
transform. -/
theorem conversion_at {i : Nat} (hAll : ∀ c ∈ cs, Convertible r zone c) (hc : cs[i]? = some c) :
    ∃ type value, Owns r c.group type ∧
      type.convert zone c.text (sharedAfter r zone (cs.take i) shared) =
        (.ok value, sharedAfter r zone (cs.take (i + 1)) shared) ∧
      (sharedAfter r zone (cs.take (i + 1)) shared).registry =
        (type.events c.text (sharedAfter r zone (cs.take i) shared) []).replay
          (sharedAfter r zone (cs.take i) shared).registry ∧
      ∀ values, Converted r zone cs shared values → values[i]? = some value := by
  obtain ⟨type, hOwns, hConvert⟩ := exists_owns r zone c
  obtain ⟨value, after, hok⟩ :=
    hAll c (List.mem_of_getElem? hc) (sharedAfter r zone (cs.take i) shared)
  -- what the transform does to the registry are its events, replayed
  have hKept := (keptByEvents_replay (sharedAfter r zone (cs.take i) shared).registry).convert
    (h := []) rfl type zone c.text
  rw [sharedAfter_take_succ hc, hok]
  rw [← hConvert, hok] at hKept
  refine ⟨type, value, hOwns, (hConvert _).symm.trans hok, hKept, ?_⟩
  rintro values ⟨hLength, hEach⟩
  have hi : i < values.length := by
    rw [hLength]
    exact (List.getElem?_eq_some_iff.mp hc).1
  have hValue := hEach i c values[i] hc (List.getElem?_eq_getElem hi)
  rw [hok, Except.ok.injEq] at hValue
  rw [List.getElem?_eq_getElem hi, hValue]

end Captures

section Matches

variable {r : Registry} {settings : MatchSettings} {step : Step} {template : String}
  {shared : SharedTypes}

/-- Where a template is compiled, its captures are converted up to the first that fails. -/
theorem convertedCaptures_of_compile {compiled : CompiledTemplate}
    (hKeyword : r.HasKeyword template)
    (hCompile : r.compile settings.escape template = .ok compiled) :
    r.convertedCaptures settings step template =
      (compiled.pattern.captures step.text).takeWhile (r.converts settings.zone) := by
  rw [Registry.convertedCaptures, hasPlaceholder_iff.mpr hKeyword, hCompile]
  rfl

/-- Whatever a match comes to: the captures it converts can be converted, the shared types after
it are those that the conversions leave, and its values are the converted ones. -/
theorem Outcome.convertedCaptures {out : Except MatchError (List Value) × SharedTypes}
    (h : Outcome r settings step template shared out) :
    (∀ c ∈ r.convertedCaptures settings step template, Convertible r settings.zone c) ∧
    out.2 = sharedAfter r settings.zone (r.convertedCaptures settings step template) shared ∧
    ∀ values, out.1 = .ok values →
      Converted r settings.zone (r.convertedCaptures settings step template) shared values := by
  -- one case for each way that a match can end; only the last two convert captures
  cases h with
  | plain hNone =>
    have hPlaceholder : r.hasPlaceholder template = false :=
      Bool.eq_false_iff.mpr (mt hasPlaceholder_iff.mp hNone)
    have hDone : r.convertedCaptures settings step template = [] := by
      rw [Registry.convertedCaptures, hPlaceholder]
      rfl
    rw [hDone]
    refine ⟨List.forall_mem_nil _, rfl, ?_⟩
    rintro values ⟨⟩
    exact converted_nil.mpr rfl
  | unreadable hKeyword hCompile =>
    have hDone : r.convertedCaptures settings step template = [] := by
      rw [Registry.convertedCaptures, hCompile]
      exact ite_self []
    rw [hDone]
    exact ⟨List.forall_mem_nil _, rfl, fun values hValues => nomatch hValues⟩
  | mismatch hKeyword hCompile hNothing =>
    rw [convertedCaptures_of_compile hKeyword hCompile, hNothing]
    exact ⟨List.forall_mem_nil _, rfl, fun values hValues => nomatch hValues⟩
  | values hKeyword hCompile hSome hAll hValues =>
    rw [convertedCaptures_of_compile hKeyword hCompile, takeWhile_converts_of_all hAll]
    refine ⟨hAll, rfl, ?_⟩
    rintro values ⟨⟩
    exact hValues
  | conversion hKeyword hCompile hCaptures hBefore hc =>
    rw [convertedCaptures_of_compile hKeyword hCompile, hCaptures,
      takeWhile_converts_of_first hBefore hc]
    exact ⟨hBefore, rfl, fun values hValues => nomatch hValues⟩

end Matches

/-- A match in a session is a match on the registry with the name, and it leaves the shared types
of that match. -/
theorem Session.matchStep_eq (s : Session) (name : RegistryName) (step : Step) (template : String) :
    s.matchStep name step template =
      ((TypedSteps.matchStep (s.registry name) s.settings step template s.shared).1,
        { s with
          shared :=
            (TypedSteps.matchStep (s.registry name) s.settings step template s.shared).2 }) :=
  rfl

/-- A copy of the shared registry matches as the shared registry does. -/
theorem Session.matchStep_copy (s : Session) (name : String) (step : Step) (template : String) :
    ((s.copy .shared (.own name)).matchStep (.own name) step template).1 =
      (TypedSteps.matchStep (s.registry .shared) s.settings step template s.shared).1 := by
  have hCopy : (s.copy .shared (.own name)).registry (.own name) = s.registry .shared := by
    rw [Session.copy, registry_setRegistry, if_pos rfl]
  have hSettings : (s.copy .shared (.own name)).settings = s.settings := rfl
  have hShared : (s.copy .shared (.own name)).shared = s.shared := rfl
  rw [matchStep_eq, hCopy, hSettings, hShared]

/-- **Matching against the shared registry works on a snapshot.** Take any session, step and
template. The match comes to the outcome of the registry as it was before, with the result that a
copy made before yields. Each capture that is converted belongs to a type of the snapshot, whatever
the captures before it did to the shared registry: this type makes the value in its place, from the
shared types as the captures before it left them, and the shared registry goes through the
registrations and clearings of its transform. After the match the shared types are what the last
conversion left, so the shared registry is the snapshot after the registrations and clearings of
all transforms in order; and nothing else in the session has changed. -/
theorem shared_match_works_on_snapshot (s : Session) (step : Step) (template : String) :
    let snapshot := s.registry .shared
    let done := snapshot.convertedCaptures s.settings step template
    let moment := fun i => sharedAfter snapshot s.zone (done.take i) s.shared
    ∃ result,
      s.matchStep .shared step template = (result, { s with shared := moment done.length }) ∧
      (∀ name,
        ((s.copy .shared (.own name)).matchStep (.own name) step template).1 = result) ∧
      Outcome snapshot s.settings step template s.shared (result, moment done.length) ∧
      (∀ i c, done[i]? = some c → ∃ type value, Owns snapshot c.group type ∧
        type.convert s.zone c.text (moment i) = (.ok value, moment (i + 1)) ∧
        (moment (i + 1)).registry =
          (type.events c.text (moment i) []).replay (moment i).registry ∧
        ∀ values, result = .ok values → values[i]? = some value) ∧
      (moment done.length).registry =
        (conversionEvents snapshot s.zone done s.shared []).replay snapshot := by
  intro snapshot done moment
  obtain ⟨result, after, hMatch⟩ : ∃ result after,
      matchStep snapshot s.settings step template s.shared = (result, after) := ⟨_, _, rfl⟩
  have hOutcome := matchStep_eq_iff.mp hMatch
  obtain ⟨hConvertible, hShared, hValues⟩ := hOutcome.convertedCaptures
  -- the moment behind the last capture is the end of the match
  have hLast : moment done.length = sharedAfter snapshot s.zone done s.shared := by
    show sharedAfter snapshot s.zone (done.take done.length) s.shared = _
    rw [List.take_length]
  have hAfter : after = moment done.length := hShared.trans hLast.symm
  rw [hAfter] at hMatch hOutcome
  refine ⟨result, ?_, fun name => ?_, hOutcome, fun i c hc => ?_, ?_⟩
  · rw [s.matchStep_eq, hMatch]
  · rw [s.matchStep_copy, hMatch]
  · obtain ⟨type, value, hOwns, hConvert, hReplay, hPlace⟩ := conversion_at hConvertible hc
    refine ⟨type, value, hOwns, hConvert, hReplay, fun values hok => ?_⟩
    exact hPlace values (hValues values hok)
  · rw [hLast]
    exact registry_sharedAfter hConvertible

/-- The first transform clears the shared registry; the second capture is converted by the type
that is gone by then. -/
example :
    let types : List CustomType := [⟨"wipe", "x", .resetting⟩, ⟨"count", "y+", .length⟩]
    let out := Session.matchStep { shared := { registry := { types := types } } } .shared
      ⟨.given, "x yyy"⟩ "{wipe} {count}"
    out.1.toOption.map (·.map Value.integer?) = some [none, some 3] ∧
      out.2.shared.registry.types.length = 0 := by
  decide +kernel

end TypedSteps
