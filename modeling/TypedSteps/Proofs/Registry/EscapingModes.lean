import TypedSteps.Proofs.Agreement
import TypedSteps.Proofs.Registry.Histories
import TypedSteps.Proofs.Registry.Snapshot
import TypedSteps.Proofs.Text.Pieces

/-!
# Which registries escape literal text

Whether literal text is escaped is asked for anew each time a template is compiled. A registry
that was pinned answers for itself, and so do its copies. For all others the setting made in the
program answers; where it was cleared, or never made, the environment does if it has a word for
it; and in all other cases text is not escaped. The shared registry is among the others.

* `PinnedTo`, `pinned_run_iff` — the registries that were pinned, over every run;
* `SaysSwitch`, `readSwitch?_eq_some_iff` — the words of the environment;
* `ConfiguredTo`, `inForce_run_iff` — what holds for registries that are not pinned;
* `Session.UsesMode` — a registry whose templates are read in a mode;
* `registries_use_their_modes` — the modes of all registries, at the end of every run.
-/

namespace TypedSteps

-- ---------------------------------------------------------------------------
-- Pinned registries
-- ---------------------------------------------------------------------------

/-- The registry whose mode an operation settles anew: it is replaced, pinned or made a copy. -/
def Operation.settled? : Operation → Option RegistryName
  | renew name _ => some (.own name)
  | pin name _ => some (.own name)
  | copy _ target => some (.own target)
  | register _ _ _ _ => none
  | registerConstant _ _ _ => none
  | reset _ => none
  | convert _ _ _ => none
  | matchStep _ _ _ => none
  | setEscaping _ => none
  | setEnvironment _ => none

/-- A registry was last pinned to a mode, or is a copy of one that was at the time, given what was
done so far, the newest operation first. -/
inductive PinnedTo (b : Bool) : List Operation → RegistryName → Prop where
  | pinned {past : List Operation} {name : String} :
    PinnedTo b (.pin name b :: past) (.own name)
  | renewed {past : List Operation} {name : String} :
    PinnedTo b (.renew name (some b) :: past) (.own name)
  | copied {past : List Operation} {source : RegistryName} {target : String} :
    PinnedTo b past source → PinnedTo b (.copy source target :: past) (.own target)
  | kept {op : Operation} {past : List Operation} {registry : RegistryName} :
    op.settled? ≠ some registry → PinnedTo b past registry → PinnedTo b (op :: past) registry

/-- The last operation of a run is the first one of its past. -/
theorem World.run_reverse_cons (zone : String) (op : Operation) (past : List Operation) :
    run zone (op :: past).reverse = (run zone past.reverse).step op := by
  rw [run, List.reverse_cons, List.foldl_append]
  rfl

section Pinned

variable {w : World} {registry : RegistryName} {b : Bool}

theorem pinned_register {r r' : Registry} {name pattern : String} {transform : Transform}
    (h : r.register name pattern transform = .ok r') : r'.pinned = r.pinned := by
  rw [Registry.register] at h
  split at h
  · cases h
  · cases h
    rfl

/-- Registering and clearing do not touch what a registry is pinned to, in whatever transforms
they happen. -/
theorem keptByEvents_pinned (mode : Option Bool) : KeptByEvents fun _ r => r.pinned = mode where
  accepted h hr := (pinned_register hr).trans h
  refused h _ := h
  reset h := h

/-- A registry that is replaced by one with its mode keeps that. -/
theorem pinned_setRegistry_of_eq (s : Session) {r : Registry} {name : RegistryName}
    (h : r.pinned = (s.registry name).pinned) :
    ((s.setRegistry r name).registry registry).pinned = (s.registry registry).pinned := by
  rw [registry_setRegistry]
  split
  next heq => rw [h, heq]
  next => rfl

/-- No registry is pinned or unpinned by a registration. -/
theorem pinned_registered (w : World) {s : Session}
    (hs : ∀ name, s.registry name = w.session.registry name) (name : RegistryName)
    (typeName pattern : String) (transform : Transform) :
    ((w.registered name ⟨typeName, pattern, transform⟩
      (s.register name typeName pattern transform)).session.registry registry).pinned =
      (w.session.registry registry).pinned := by
  rw [Session.register]
  cases hr : (s.registry name).register typeName pattern transform with
  | ok r =>
    rw [← hs]
    exact pinned_setRegistry_of_eq s (pinned_register hr)
  | error e => rfl

/-- An operation that does not settle the mode of a registry keeps what it is pinned to. -/
theorem pinned_step {op : Operation} (h : op.settled? ≠ some registry) :
    ((w.step op).session.registry registry).pinned = (w.session.registry registry).pinned := by
  -- an operation that replaces another registry does not reach this one
  have hOther {name : RegistryName} {r : Registry} (hne : some name ≠ some registry) :
      (w.session.setRegistry r name).registry registry = w.session.registry registry := by
    rw [registry_setRegistry, if_neg fun heq => hne (congrArg some heq.symm)]
  cases op with
  | renew name escape => exact congrArg Registry.pinned (hOther h)
  | pin name escape => exact congrArg Registry.pinned (hOther h)
  | copy source target => exact congrArg Registry.pinned (hOther h)
  | register name typeName pattern transform =>
    exact pinned_registered w (fun _ => rfl) name typeName pattern transform
  | registerConstant name typeName pattern =>
    refine pinned_registered w (fun other => ?_) name typeName pattern _
    cases other <;> rfl
  | reset name => exact pinned_setRegistry_of_eq w.session rfl
  | convert name typeName text =>
    -- transforms may register types in the shared registry, which does not change its mode
    cases registry with
    | own other =>
      rw [World.step, Session.convert]
      cases (w.session.registry name).resolve? typeName <;> rfl
    | shared =>
      rw [World.step, Session.convert]
      cases (w.session.registry name).resolve? typeName with
      | none => rfl
      | some type =>
        exact (keptByEvents_pinned w.session.shared.registry.pinned).convert (h := []) rfl type
          w.session.zone text
  | matchStep name step template =>
    cases registry with
    | own other => rfl
    | shared =>
      exact (keptByEvents_pinned w.session.shared.registry.pinned).matchStep (h := []) rfl
        (w.session.registry name) w.session.settings step template
  | setEscaping override => rfl
  | setEnvironment value => rfl

/-- Only own registries are pinned. -/
theorem not_pinnedTo_shared {past : List Operation} : ¬ PinnedTo b past .shared := by
  intro h
  induction past with
  | nil => cases h
  | cons op past ih =>
    cases h with
    | kept _ hPast => exact ih hPast

/-- At the end of every run a registry is pinned to a mode just when it was last pinned to it, or
is a copy of one that was. -/
theorem pinned_run_iff (zone : String) (past : List Operation) :
    ((World.run zone past.reverse).session.registry registry).pinned = some b ↔
      PinnedTo b past registry := by
  induction past generalizing registry with
  | nil =>
    refine iff_of_false ?_ nofun
    cases registry <;> nofun
  | cons op past ih =>
    rw [World.run_reverse_cons]
    have hSet (r : Registry) (name : RegistryName) :
        ((World.run zone past.reverse).session.setRegistry r name).registry name = r := by
      rw [registry_setRegistry, if_pos rfl]
    -- either the last operation settles the mode, or what held before it holds
    by_cases hop : op.settled? = some registry
    · cases op with
      | renew name escape =>
        cases hop
        rw [World.step, Session.renew, hSet]
        constructor
        · rintro rfl
          exact .renewed
        · rintro (_ | _ | _ | ⟨hne, -⟩)
          · rfl
          · exact absurd rfl hne
      | pin name escape =>
        cases hop
        rw [World.step, Session.pin, hSet]
        constructor
        · rintro ⟨⟩
          exact .pinned
        · rintro (_ | _ | _ | ⟨hne, -⟩)
          · rfl
          · exact absurd rfl hne
      | copy source target =>
        cases hop
        rw [World.step, Session.copy, hSet, ih]
        constructor
        · exact .copied
        · rintro (_ | _ | hSource | ⟨hne, -⟩)
          · exact hSource
          · exact absurd rfl hne
      | _ => cases hop
    · rw [pinned_step hop, ih]
      refine ⟨.kept hop, ?_⟩
      rintro (_ | _ | _ | ⟨-, hPast⟩)
      · exact absurd rfl hop
      · exact absurd rfl hop
      · exact absurd rfl hop
      · exact hPast

end Pinned

-- ---------------------------------------------------------------------------
-- The words of the environment
-- ---------------------------------------------------------------------------

/-- The words for the two modes. -/
def switchWords : Bool → List String
  | true => ["1", "true", "yes", "on"]
  | false => ["0", "false", "no", "off"]

/-- A value of the environment asks for a mode: without the white space at its ends it is one of
the words for it, in any letter case. -/
def SaysSwitch (value : String) (b : Bool) : Prop :=
  ∃ word, Trims value.toList word ∧ Text.asciiLowercase (String.ofList word) ∈ switchWords b

section Switches

variable {value word : String} {b : Bool}

/-- A switch is read as on or off just where it is one of the words for that. -/
theorem readSwitch?_eq_some_iff_mem :
    readSwitch? value = some b ↔ Text.asciiLowercase (Text.trim value) ∈ switchWords b := by
  have hDisjoint : ∀ word ∈ switchWords false, word ∉ switchWords true := by decide
  rw [readSwitch?]
  generalize Text.asciiLowercase (Text.trim value) = word
  simp only [List.contains_iff_mem]
  split
  next hTrue =>
    cases b with
    | true => exact iff_of_true rfl hTrue
    | false => exact iff_of_false nofun fun hFalse => hDisjoint word hFalse hTrue
  next hTrue =>
    split
    next hFalse =>
      cases b with
      | true => exact iff_of_false nofun hTrue
      | false => exact iff_of_true rfl hFalse
    next hFalse =>
      cases b with
      | true => exact iff_of_false nofun hTrue
      | false => exact iff_of_false nofun hFalse

/-- A value of the environment is read as what it asks for, and other values are ignored. -/
theorem readSwitch?_eq_some_iff : readSwitch? value = some b ↔ SaysSwitch value b := by
  rw [readSwitch?_eq_some_iff_mem, Text.trim, SaysSwitch]
  simp only [← trimCharacters_eq_iff, exists_eq_left']

end Switches

-- ---------------------------------------------------------------------------
-- What is configured
-- ---------------------------------------------------------------------------

/-- The setting made last in the program; none was made, or it was cleared since, if there is
none. -/
def lastSetting : List Operation → Option Bool
  | [] => none
  | .setEscaping override :: _ => override
  | _ :: earlier => lastSetting earlier

/-- The value of the environment, if there is one. -/
def lastEnvironment : List Operation → Option String
  | [] => none
  | .setEnvironment value :: _ => value
  | _ :: earlier => lastEnvironment earlier

/-- The mode of registries that are not pinned: that of the setting, without one that which the
environment asks for, and else that text is not escaped. -/
inductive ConfiguredTo (past : List Operation) : Bool → Prop where
  | setting {b : Bool} : lastSetting past = some b → ConfiguredTo past b
  | environment {b : Bool} {value : String} :
    lastSetting past = none → lastEnvironment past = some value → SaysSwitch value b →
      ConfiguredTo past b
  | off : lastSetting past = none →
    (∀ value, lastEnvironment past = some value → ∀ b, ¬ SaysSwitch value b) →
      ConfiguredTo past false

theorem escaping_registered (w : World) {s : Session} (hs : s.escaping = w.session.escaping)
    (name : RegistryName) (typeName pattern : String) (transform : Transform) :
    (w.registered name ⟨typeName, pattern, transform⟩
      (s.register name typeName pattern transform)).session.escaping = w.session.escaping := by
  rw [Session.register]
  cases (s.registry name).register typeName pattern transform with
  | ok r => cases name <;> exact hs
  | error e => rfl

theorem escaping_setRegistry (s : Session) (r : Registry) (name : RegistryName) :
    (s.setRegistry r name).escaping = s.escaping := by
  cases name <;> rfl

/-- A session knows the last setting and the value of the environment, and nothing older. -/
theorem escaping_run (zone : String) (past : List Operation) :
    (World.run zone past.reverse).session.escaping =
      ⟨lastSetting past, lastEnvironment past⟩ := by
  induction past with
  | nil => rfl
  | cons op past ih =>
    rw [World.run_reverse_cons]
    -- only the last two kinds of operation touch the configuration
    cases op with
    | renew name escape => exact ih
    | pin name escape => exact ih
    | copy source target => exact ih
    | register name typeName pattern transform =>
      exact (escaping_registered _ rfl name typeName pattern transform).trans ih
    | registerConstant name typeName pattern =>
      refine Eq.trans ?_ ih
      refine escaping_registered _ ?_ name typeName pattern _
      rfl
    | reset name => exact (escaping_setRegistry _ _ name).trans ih
    | convert name typeName text =>
      rw [World.step, Session.convert]
      cases ((World.run zone past.reverse).session.registry name).resolve? typeName with
      | none => exact ih
      | some type => exact ih
    | matchStep name step template => exact ih
    | setEscaping override =>
      show Escaping.mk override _ = Escaping.mk override _
      rw [ih]
      rfl
    | setEnvironment value =>
      show Escaping.mk _ value = Escaping.mk _ value
      rw [ih]
      rfl

section Configured

variable {past : List Operation} {b : Bool}

/-- The mode in force is the one that is configured. -/
theorem ConfiguredTo.inForce_eq (h : ConfiguredTo past b) :
    Escaping.inForce ⟨lastSetting past, lastEnvironment past⟩ = b := by
  rw [Escaping.inForce]
  cases h with
  | setting hSetting => rw [hSetting]
  | environment hNone hValue hSays =>
    rw [hNone, hValue, Option.bind_some, readSwitch?_eq_some_iff.mpr hSays]
  | off hNone hSilent =>
    have hSwitch : (lastEnvironment past).bind readSwitch? = none := by
      rw [Option.bind_eq_none_iff]
      intro value hValue
      refine Option.eq_none_iff_forall_ne_some.mpr fun b hRead => ?_
      exact hSilent value hValue b (readSwitch?_eq_some_iff.mp hRead)
    rw [hNone, hSwitch]

/-- Some mode is configured at every moment. -/
theorem configuredTo_inForce (past : List Operation) :
    ConfiguredTo past (Escaping.inForce ⟨lastSetting past, lastEnvironment past⟩) := by
  rw [Escaping.inForce]
  dsimp only
  cases hSetting : lastSetting past with
  | some b => exact .setting hSetting
  | none =>
    cases hSwitch : (lastEnvironment past).bind readSwitch? with
    | some b =>
      obtain ⟨value, hValue, hRead⟩ := Option.bind_eq_some_iff.mp hSwitch
      exact .environment hSetting hValue (readSwitch?_eq_some_iff.mp hRead)
    | none =>
      refine .off hSetting fun value hValue b hSays => ?_
      have hRead := Option.bind_eq_none_iff.mp hSwitch value hValue
      rw [readSwitch?_eq_some_iff.mpr hSays] at hRead
      cases hRead

/-- What is in force is the mode that is configured. -/
theorem inForce_run_iff (zone : String) :
    (World.run zone past.reverse).session.escaping.inForce = b ↔ ConfiguredTo past b := by
  rw [escaping_run]
  constructor
  · rintro rfl
    exact configuredTo_inForce past
  · exact ConfiguredTo.inForce_eq

end Configured

-- ---------------------------------------------------------------------------
-- The modes of registries
-- ---------------------------------------------------------------------------

/-- A registry of a session uses a mode: it reads every template in this mode, and it matches
steps as a registry of the same types does that is pinned to no mode while this one is
configured. -/
structure Session.UsesMode (s : Session) (registry : RegistryName) (b : Bool) : Prop where
  compile : ∀ template, s.compile registry template =
    CompiledTemplate.ofTemplate (s.registry registry).table b template
  matchStep : ∀ step template result shared,
    TypedSteps.matchStep { types := (s.registry registry).types } ⟨b, s.zone⟩ step template
        s.shared = (result, shared) →
      s.matchStep registry step template = (result, { s with shared := shared })

/-- What a registry is pinned to counts only through the mode. -/
theorem readAlike_types (r : Registry) (configured : Bool) (template : String) :
    ReadAlike { types := r.types } r (r.escapes configured) configured template :=
  ⟨rfl, rfl, fun _ _ _ _ => rfl⟩

/-- A registry uses the mode that it is pinned to, or else the one in force. -/
theorem Session.usesMode (s : Session) (registry : RegistryName) :
    s.UsesMode registry ((s.registry registry).escapes s.escaping.inForce) where
  compile _ := rfl
  matchStep step template result shared hMatch := by
    rw [(readAlike_types _ _ template).matchStep_eq] at hMatch
    rw [s.matchStep_eq, settings, hMatch]

/-- **Which registries escape literal text.** After any run of operations on registries and on
the configuration, a registry that was last pinned to a mode, and every copy that was made of it
since, compiles and matches every template in this mode, whatever was configured or cleared. At
every moment just one mode is configured: that of the last setting that was not cleared since;
without one, that which the value of the environment asks for; and if it asks for none, text is not
escaped. The shared registry, and every registry that was not pinned, uses the mode that is
configured. -/
theorem registries_use_their_modes (zone : String) (past : List Operation)
    (registry : RegistryName) :
    let session := (World.run zone past.reverse).session
    (∀ b, PinnedTo b past registry → session.UsesMode registry b) ∧
    (∃! b, ConfiguredTo past b) ∧
    ∀ b, ConfiguredTo past b →
      session.UsesMode .shared b ∧
      ((∀ c, ¬ PinnedTo c past registry) → session.UsesMode registry b) := by
  intro session
  have hPinned : ∀ registry b, (session.registry registry).pinned = some b ↔
      PinnedTo b past registry := fun _ _ => pinned_run_iff zone past
  -- a registry without a pinned mode falls back on the mode in force
  have hUnpinned : ∀ b, ConfiguredTo past b → ∀ registry, (∀ c, ¬ PinnedTo c past registry) →
      session.UsesMode registry b := by
    intro b hb registry hNot
    have hNone : (session.registry registry).pinned = none :=
      Option.eq_none_iff_forall_ne_some.mpr fun c hc => hNot c ((hPinned registry c).mp hc)
    have hMode := session.usesMode registry
    rwa [Registry.escapes, hNone, Option.getD_none, (inForce_run_iff zone).mpr hb] at hMode
  have hUnique : ∃! b, ConfiguredTo past b :=
    ⟨_, configuredTo_inForce past, fun b hb => hb.inForce_eq.symm⟩
  refine ⟨fun b hb => ?_, hUnique, fun b hb => ⟨?_, hUnpinned b hb registry⟩⟩
  · have hMode := session.usesMode registry
    rwa [Registry.escapes, (hPinned registry b).mpr hb, Option.getD_some] at hMode
  · exact hUnpinned b hb .shared fun c => not_pinnedTo_shared

/-- A registry is pinned and copied, and the copy is cleared; a setting is made and cleared, so
that the environment counts. -/
def pinnedAndCopied : List Operation :=
  [.setEscaping none, .reset (.own "copy"), .setEscaping (some false),
    .copy (.own "plain") "copy", .setEnvironment (some " Yes\n"), .pin "plain" false]

/-- The cleared copy keeps its mode; the shared registry, and one that was never pinned, follow the
environment. -/
theorem registries_use_their_modes_pinnedAndCopied :
    let session := (World.run "UTC" pinnedAndCopied.reverse).session
    session.UsesMode (.own "copy") false ∧ session.UsesMode .shared true ∧
      session.UsesMode (.own "fresh") true := by
  intro session
  have hCopy : PinnedTo false pinnedAndCopied (.own "copy") :=
    .kept nofun (.kept nofun (.kept nofun (.copied (.kept nofun .pinned))))
  have hFresh : ∀ c, ¬ PinnedTo c pinnedAndCopied (.own "fresh") := by
    intro c h
    rw [← pinned_run_iff "UTC"] at h
    revert h
    cases c <;> decide +kernel
  have hYes : SaysSwitch " Yes\n" true :=
    readSwitch?_eq_some_iff.mp (by decide +kernel)
  have hConfigured : ConfiguredTo pinnedAndCopied true := .environment rfl rfl hYes
  have hModes := registries_use_their_modes "UTC" pinnedAndCopied
  obtain ⟨-, -, hFollow⟩ := hModes (.own "fresh")
  exact ⟨(hModes (.own "copy")).1 false hCopy, (hFollow true hConfigured).1,
    (hFollow true hConfigured).2 hFresh⟩

end TypedSteps
