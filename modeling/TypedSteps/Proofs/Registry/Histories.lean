import TypedSteps.Session
import TypedSteps.Proofs.Registry.Reachable

/-!
# Registries and their histories

What a registry holds follows from what happened to it: its custom types are exactly the
registrations accepted since it was last cleared, in order. This is so at every point of
every run, with any number of registries that are copied from one another, and with
transforms that register types with the shared registry or clear it while a match goes on.

* `RegistryEvent`, `History`, `History.accepted` — what happened to a registry, and what
  it should hold;
* `Records` — the invariant that ties a registry to its history, with one lemma for each
  event;
* `KeptByEvents` — what is kept by every event is kept by whole transforms and matches;
* `World`, `Operation`, `World.run` — sessions with the histories of their registries;
* `registries_follow_histories` — the invariant over every run.
-/

namespace TypedSteps

open Calendar (Zone)

-- ---------------------------------------------------------------------------
-- Histories
-- ---------------------------------------------------------------------------

/-- What can happen to the types of a registry: a registration is tried, and accepted if
there is no failure; or the registry is cleared. -/
inductive RegistryEvent where
  | attempt (type : CustomType) (failure : Option RegistrationError)
  | cleared

/-- What happened to a registry, the newest event first. -/
abbrev History := List RegistryEvent

/-- Whether an event clears the registry. -/
def RegistryEvent.isCleared : RegistryEvent → Bool
  | attempt _ _ => false
  | cleared => true

/-- The type that an event adds to the registry. -/
def RegistryEvent.accepted? : RegistryEvent → Option CustomType
  | attempt type none => some type
  | attempt _ (some _) => none
  | cleared => none

namespace History

/-- The registrations accepted since the registry was last cleared, in order. -/
def accepted (h : History) : List CustomType :=
  ((h.takeWhile fun e => !e.isCleared).filterMap RegistryEvent.accepted?).reverse

/-- Every registration in a history was judged by what was accepted before it. -/
def Judged (h : History) : Prop :=
  ∀ type failure earlier, RegistryEvent.attempt type failure :: earlier <:+ h →
    Verdict ((accepted earlier).map (·.name)) type.name type.pattern failure

theorem accepted_refused (type : CustomType) (e : RegistrationError) (h : History) :
    accepted (.attempt type (some e) :: h) = accepted h := rfl

/-- A registration that is accepted comes last. -/
theorem accepted_accepted (type : CustomType) (h : History) :
    accepted (.attempt type none :: h) = accepted h ++ [type] := by
  show (type :: List.filterMap _ _).reverse = _
  rw [List.reverse_cons]
  rfl

theorem judged_nil : Judged [] := by
  intro type failure earlier h
  exact absurd (List.suffix_nil.mp h) (by simp)

/-- To clear a registry judges nothing. -/
theorem Judged.cleared {h : History} (hj : Judged h) : Judged (.cleared :: h) := by
  intro type failure earlier hSuffix
  rcases List.suffix_cons_iff.mp hSuffix with heq | hSuffix
  · cases heq
  · exact hj type failure earlier hSuffix

/-- A registration that is judged by what was accepted before it joins the history. -/
theorem Judged.attempt {h : History} (hj : Judged h) {type : CustomType}
    {failure : Option RegistrationError}
    (hv : Verdict ((accepted h).map (·.name)) type.name type.pattern failure) :
    Judged (.attempt type failure :: h) := by
  intro type' failure' earlier hSuffix
  -- either the event asked about is the new one, or it was judged before
  rcases List.suffix_cons_iff.mp hSuffix with heq | hSuffix
  · rw [List.cons.injEq, RegistryEvent.attempt.injEq] at heq
    obtain ⟨⟨rfl, rfl⟩, rfl⟩ := heq
    exact hv
  · exact hj type' failure' earlier hSuffix

end History

-- ---------------------------------------------------------------------------
-- The invariant
-- ---------------------------------------------------------------------------

/-- A history accounts for a registry: the registry holds what was accepted since it was
last cleared, every registration was judged by the four checks, and the registry is
valid. -/
structure Records (h : History) (r : Registry) : Prop where
  types : r.types = h.accepted
  judged : h.Judged
  valid : r.Valid

namespace Records

/-- A registry without types records the empty history. -/
theorem empty {r : Registry} (hr : r.types = []) : Records [] r :=
  ⟨hr, History.judged_nil, Registry.valid_of_types_nil hr⟩

/-- Only the types count. -/
theorem congr {h : History} {r r' : Registry} (hRec : Records h r) (hr : r'.types = r.types) :
    Records h r' :=
  ⟨hr.trans hRec.types, hRec.judged, hRec.valid.congr hr⟩

/-- A registry that is cleared keeps its history and starts over. -/
theorem reset {h : History} {r : Registry} (hRec : Records h r) :
    Records (.cleared :: h) r.reset :=
  ⟨rfl, hRec.judged.cleared, Registry.valid_of_types_nil rfl⟩

/-- An accepted registration adds its type. -/
theorem accepted {h : History} {r r' : Registry} {name pattern : String} {transform : Transform}
    (hRec : Records h r) (hr : r.register name pattern transform = .ok r') :
    Records (.attempt ⟨name, pattern, transform⟩ none :: h) r' := by
  rcases register_cases r name pattern transform with ⟨hv, hok⟩ | ⟨e, -, hErr⟩
  · rw [hRec.types] at hv
    refine ⟨?_, hRec.judged.attempt hv, hRec.valid.register hr⟩
    rw [Registry.types_register hr, History.accepted_accepted, hRec.types]
  · rw [hErr] at hr
    cases hr

/-- A refused registration changes nothing. -/
theorem refused {h : History} {r : Registry} {name pattern : String} {transform : Transform}
    {e : RegistrationError} (hRec : Records h r)
    (hr : r.register name pattern transform = .error e) :
    Records (.attempt ⟨name, pattern, transform⟩ (some e) :: h) r := by
  rcases register_cases r name pattern transform with ⟨-, hok⟩ | ⟨e', hv, hErr⟩
  · rw [hok] at hr
    cases hr
  · rw [hErr, Except.error.injEq] at hr
    subst hr
    rw [hRec.types] at hv
    refine ⟨?_, hRec.judged.attempt hv, hRec.valid⟩
    rw [History.accepted_refused]
    exact hRec.types

end Records

-- ---------------------------------------------------------------------------
-- Events of a match
-- ---------------------------------------------------------------------------

/-- The history of the shared registry after an action, given the history before it. -/
def Action.events : Action → SharedTypes → History → History
  | yield _, _, h => h
  | create content next, s, h =>
    let (payload, s) := s.create content
    (next payload).events s h
  | define name pattern transform next, s, h =>
    let (failure, s) := s.define name pattern transform
    (next failure).events s (.attempt ⟨name, pattern, transform⟩ failure :: h)
  | reset next, s, h => next.events s.reset (.cleared :: h)

/-- The history of the shared registry after a text was converted. -/
def ParameterType.events (type : ParameterType) (text : String) (shared : SharedTypes)
    (h : History) : History :=
  match type with
  | builtin _ => h
  | custom t => (t.transform text).events shared h

/-- The history of the shared registry after captures were converted one after the other,
up to the first that cannot be converted. -/
def conversionEvents (r : Registry) (zone : Zone) :
    List Capture → SharedTypes → History → History
  | [], _, h => h
  | capture :: rest, shared, h =>
    let owner := (ownerOf? r capture.group).getD (.builtin .string)
    let after := owner.events capture.text shared h
    match convertCapture r zone capture shared with
    | (.error _, _) => after
    | (.ok _, shared) => conversionEvents r zone rest shared after

/-- The history of the shared registry after a match. -/
def matchEvents (r : Registry) (settings : MatchSettings) (step : Step) (template : String)
    (shared : SharedTypes) (h : History) : History :=
  if !r.hasPlaceholder template then h
  else
    match r.compile settings.escape template with
    | .error _ => h
    | .ok compiled =>
      conversionEvents r settings.zone (compiled.pattern.captures step.text) shared h

/-- Converting a capture leaves the shared types to the captures after it, unless it
fails. -/
theorem snd_convertAll_cons (r : Registry) (zone : Zone) (capture : Capture)
    (rest : List Capture) (shared : SharedTypes) :
    (convertAll r zone (capture :: rest) shared).2 =
      match convertCapture r zone capture shared with
      | (.error _, after) => after
      | (.ok _, after) => (convertAll r zone rest after).2 := by
  rw [convertAll]
  cases convertCapture r zone capture shared with
  | mk result after =>
    cases result with
    | error reason => rfl
    | ok value =>
      dsimp only
      cases convertAll r zone rest after with
      | mk results last => cases results <;> rfl

/-- A match does to the shared types what converting its captures does. -/
theorem snd_matchStep (r : Registry) (settings : MatchSettings) (step : Step) (template : String)
    (shared : SharedTypes) :
    (matchStep r settings step template shared).2 =
      if !r.hasPlaceholder template then shared
      else
        match r.compile settings.escape template with
        | .error _ => shared
        | .ok compiled =>
          (convertAll r settings.zone (compiled.pattern.captures step.text) shared).2 := by
  rw [matchStep]
  by_cases hp : (!r.hasPlaceholder template) = true
  · rw [if_pos hp, if_pos hp]
  · rw [if_neg hp, if_neg hp]
    cases r.compile settings.escape template with
    | error reason => rfl
    | ok compiled =>
      -- without captures nothing is converted, and the shared types stay as they are
      cases hCaptures : compiled.pattern.captures step.text with
      | nil =>
        simp only [hCaptures]
        rfl
      | cons c cs =>
        simp only [hCaptures]
        cases convertAll r settings.zone (c :: cs) shared with
        | mk results last =>
          cases results with
          | ok values => rfl
          | error e => rfl

/-- A relation between histories and registries that is kept by every event. -/
structure KeptByEvents (I : History → Registry → Prop) : Prop where
  accepted : ∀ {h : History} {r r' : Registry} {name pattern : String} {transform : Transform},
    I h r → r.register name pattern transform = .ok r' →
      I (.attempt ⟨name, pattern, transform⟩ none :: h) r'
  refused : ∀ {h : History} {r : Registry} {name pattern : String} {transform : Transform}
    {e : RegistrationError}, I h r → r.register name pattern transform = .error e →
      I (.attempt ⟨name, pattern, transform⟩ (some e) :: h) r
  reset : ∀ {h : History} {r : Registry}, I h r → I (.cleared :: h) r.reset

namespace KeptByEvents

variable {I : History → Registry → Prop} {h : History} {s : SharedTypes}

/-- A registration by a transform is one more event of the shared types. -/
theorem define (hI : KeptByEvents I) (hs : I h s.registry) (name pattern : String)
    (transform : Transform) :
    I (.attempt ⟨name, pattern, transform⟩ (s.define name pattern transform).1 :: h)
      (s.define name pattern transform).2.registry := by
  rw [SharedTypes.define]
  cases hr : s.registry.register name pattern transform with
  | ok r => exact hI.accepted hs hr
  | error e => exact hI.refused hs hr

/-- Whatever a transform does, the relation holds of the shared registry after it. -/
theorem run (hI : KeptByEvents I) (hs : I h s.registry) (a : Action) :
    I (a.events s h) (a.run s).2.registry := by
  induction a generalizing s h with
  | yield value => exact hs
  | create content next ih => exact ih _ (s := (s.create content).2) hs
  | define name pattern transform next _ ih => exact ih _ (hI.define hs name pattern transform)
  | reset next ih => exact ih (s := s.reset) (hI.reset hs)

/-- A conversion does to the shared types what the events of its transform do. -/
theorem convert (hI : KeptByEvents I) (hs : I h s.registry) (type : ParameterType) (zone : Zone)
    (text : String) : I (type.events text s h) (type.convert zone text s).2.registry := by
  cases type with
  | builtin b => exact hs
  | custom t => exact hI.run hs (t.transform text)

/-- The captures of a match are converted in order, each with what those before it left. -/
theorem convertAll (hI : KeptByEvents I) (hs : I h s.registry) (r : Registry) (zone : Zone)
    (captures : List Capture) :
    I (conversionEvents r zone captures s h)
      (TypedSteps.convertAll r zone captures s).2.registry := by
  induction captures generalizing s h with
  | nil => exact hs
  | cons capture rest ih =>
    have hOne : I _ (convertCapture r zone capture s).2.registry :=
      hI.convert hs ((ownerOf? r capture.group).getD (.builtin .string)) zone capture.text
    rw [conversionEvents, snd_convertAll_cons]
    cases hc : convertCapture r zone capture s with
    | mk result after =>
      rw [hc] at hOne
      cases result with
      | error reason => exact hOne
      | ok value => exact ih hOne

/-- A match does to the shared types what converting its captures does. -/
theorem matchStep (hI : KeptByEvents I) (hs : I h s.registry) (r : Registry)
    (settings : MatchSettings) (step : Step) (template : String) :
    I (matchEvents r settings step template s h)
      (TypedSteps.matchStep r settings step template s).2.registry := by
  rw [matchEvents, snd_matchStep]
  cases r.hasPlaceholder template with
  | false => exact hs
  | true =>
    cases r.compile settings.escape template with
    | error reason => exact hs
    | ok compiled => exact hI.convertAll hs r settings.zone _

end KeptByEvents

/-- What a registry records is kept by each kind of event. -/
theorem Records.kept : KeptByEvents Records :=
  ⟨Records.accepted, Records.refused, Records.reset⟩

-- ---------------------------------------------------------------------------
-- Registries of a session
-- ---------------------------------------------------------------------------

theorem lookup_cons_eq {α : Type} (name other : String) (value : α) (l : List (String × α)) :
    ((name, value) :: l).lookup other = if other = name then some value else l.lookup other := by
  rw [List.lookup_cons]
  by_cases h : other = name
  · rw [if_pos h, beq_iff_eq.mpr h]
  · rw [if_neg h, beq_false_of_ne h]

/-- Only the entry that is put is changed. -/
theorem lookup_putEntry {α : Type} (name other : String) (value : α) (l : List (String × α)) :
    (Session.putEntry name value l).lookup other =
      if other = name then some value else l.lookup other := by
  induction l with
  | nil => exact lookup_cons_eq name other value []
  | cons entry rest ih =>
    obtain ⟨n, v⟩ := entry
    rw [Session.putEntry, lookup_cons_eq]
    by_cases hn : n = name
    · subst hn
      rw [if_pos rfl, lookup_cons_eq]
      by_cases h : other = n
      · rw [if_pos h, if_pos h]
      · rw [if_neg h, if_neg h, if_neg h]
    · rw [if_neg hn, lookup_cons_eq, ih]
      by_cases h : other = n
      · subst h
        rw [if_pos rfl, if_neg hn, if_pos rfl]
      · rw [if_neg h, if_neg h]

/-- Only the registry that is set is changed. -/
theorem registry_setRegistry (s : Session) (r : Registry) (name other : RegistryName) :
    (s.setRegistry r name).registry other = if other = name then r else s.registry other := by
  cases name with
  | shared => cases other <;> rfl
  | own name =>
    cases other with
    | shared => rfl
    | own other =>
      show ((Session.putEntry name r s.registries).lookup other).getD .empty = _
      rw [lookup_putEntry]
      by_cases h : other = name
      · rw [if_pos h, if_pos (by rw [h])]
        rfl
      · rw [if_neg h, if_neg (by simpa using h)]
        rfl

-- ---------------------------------------------------------------------------
-- Runs
-- ---------------------------------------------------------------------------

/-- What can be done to the registries of a session. The shared registry is not renewed,
pinned or made a copy; its types change by registering and clearing alone, which
transforms may do as well. -/
inductive Operation where
  | renew (name : String) (escape : Option Bool)
  | pin (name : String) (escape : Bool)
  | copy (source : RegistryName) (target : String)
  | register (registry : RegistryName) (name pattern : String) (transform : Transform)
  | registerConstant (registry : RegistryName) (name pattern : String)
  | reset (registry : RegistryName)
  | convert (registry : RegistryName) (name text : String)
  | matchStep (registry : RegistryName) (step : Step) (template : String)
  | setEscaping (override : Option Bool)
  | setEnvironment (value : Option String)

/-- A session with the histories of its registries. -/
structure World where
  session : Session
  history : RegistryName → History

namespace World

/-- A new session, to whose registries nothing has happened. -/
def start (zone : String) : World :=
  ⟨Session.start zone, fun _ => []⟩

/-- The histories with another one for the registry `name`. -/
def noting (w : World) (name : RegistryName) (h : History) : RegistryName → History :=
  fun other => if other = name then h else w.history other

/-- What a registration leaves, given its answer. -/
def registered (w : World) (name : RegistryName) (type : CustomType) :
    Except RegistrationError Session → World
  | .ok s => ⟨s, w.noting name (.attempt type none :: w.history name)⟩
  | .error e => ⟨w.session, w.noting name (.attempt type (some e) :: w.history name)⟩

/-- One operation. A copy takes over the history of its original. -/
def step (w : World) : Operation → World
  | .renew name escape => ⟨w.session.renew (.own name) escape, w.noting (.own name) []⟩
  | .pin name escape => ⟨w.session.pin (.own name) escape, w.history⟩
  | .copy source target =>
    ⟨w.session.copy source (.own target), w.noting (.own target) (w.history source)⟩
  | .register registry name pattern transform =>
    w.registered registry ⟨name, pattern, transform⟩
      (w.session.register registry name pattern transform)
  | .registerConstant registry name pattern =>
    let payload := (w.session.shared.create name).1
    w.registered registry ⟨name, pattern, .constant (.custom payload)⟩
      (w.session.registerConstant registry name pattern)
  | .reset registry =>
    ⟨w.session.reset registry, w.noting registry (.cleared :: w.history registry)⟩
  | .convert registry name text =>
    ⟨(w.session.convert registry name text).2,
      match (w.session.registry registry).resolve? name with
      | some type =>
        w.noting .shared (type.events text w.session.shared (w.history .shared))
      | none => w.history⟩
  | .matchStep registry step template =>
    ⟨(w.session.matchStep registry step template).2,
      w.noting .shared (matchEvents (w.session.registry registry) w.session.settings step template
        w.session.shared (w.history .shared))⟩
  | .setEscaping override => ⟨w.session.setEscaping override, w.history⟩
  | .setEnvironment value => ⟨w.session.setEnvironment value, w.history⟩

/-- A whole run. -/
def run (zone : String) (ops : List Operation) : World :=
  ops.foldl step (start zone)

/-- The histories account for all registries of the session. -/
def Sound (w : World) : Prop :=
  ∀ name, Records (w.history name) (w.session.registry name)

/-- At the start no registry has types of its own. -/
theorem sound_start (zone : String) : (start zone).Sound := by
  intro name
  cases name with
  | shared => exact .empty rfl
  | own name => exact .empty rfl

/-- A change of one registry that its new history accounts for keeps a world sound. -/
theorem Sound.set {w : World} (h : w.Sound) {name : RegistryName} {r : Registry} {past : History}
    (hRec : Records past r) : Sound ⟨w.session.setRegistry r name, w.noting name past⟩ := by
  intro other
  rw [registry_setRegistry]
  show Records (w.noting name past other) _
  rw [noting]
  by_cases heq : other = name
  · rw [if_pos heq, if_pos heq]
    exact hRec
  · rw [if_neg heq, if_neg heq]
    exact h other

/-- A change of the shared types alone keeps a world sound if it keeps the shared registry
accounted for. -/
theorem Sound.share {w : World} (h : w.Sound) {shared : SharedTypes} {past : History}
    (hRec : Records past shared.registry) :
    Sound ⟨{ w.session with shared := shared }, w.noting .shared past⟩ := by
  intro other
  cases other with
  | shared => exact hRec
  | own name => exact h (.own name)

/-- A registration is noted for the registry it is tried on, whether it is accepted or not. -/
theorem Sound.registered {w : World} (h : w.Sound) {s : Session}
    (hs : ∀ name, s.registry name = w.session.registry name) (name : RegistryName)
    (typeName pattern : String) (transform : Transform) :
    (w.registered name ⟨typeName, pattern, transform⟩
      (s.register name typeName pattern transform)).Sound := by
  intro other
  rw [Session.register, hs]
  have hRec := h name
  cases hr : (w.session.registry name).register typeName pattern transform with
  | ok r =>
    show Records (w.noting name _ other) ((s.setRegistry r name).registry other)
    rw [registry_setRegistry, noting]
    -- the registries that the operation is not about keep their types and history
    by_cases heq : other = name
    · rw [if_pos heq, if_pos heq]
      exact hRec.accepted hr
    · rw [if_neg heq, if_neg heq, hs]
      exact h other
  | error e =>
    show Records (w.noting name _ other) (w.session.registry other)
    rw [noting]
    by_cases heq : other = name
    · rw [if_pos heq, heq]
      exact hRec.refused hr
    · rw [if_neg heq]
      exact h other

/-- A registration that is refused leaves the session as it is, whatever is noted of it. -/
theorem session_step_register {w : World} {registry : RegistryName} {name pattern : String}
    {transform : Transform} {e : RegistrationError}
    (hRefused : w.session.register registry name pattern transform = .error e) :
    (w.step (.register registry name pattern transform)).session = w.session := by
  rw [step, hRefused]
  rfl

/-- Every operation keeps the histories right. -/
theorem Sound.step {w : World} (h : w.Sound) (op : Operation) : (w.step op).Sound := by
  -- operations change the registry they name; conversions may reach the shared one as well
  cases op with
  | renew name escape => exact h.set (.empty rfl)
  | pin name escape =>
    intro other
    show Records _ ((w.session.setRegistry _ _).registry other)
    rw [registry_setRegistry]
    by_cases heq : other = .own name
    · rw [if_pos heq, heq]
      exact (h (.own name)).congr rfl
    · rw [if_neg heq]
      exact h other
  | copy source target => exact h.set (h source)
  | register registry name pattern transform =>
    exact h.registered (fun _ => rfl) registry name pattern transform
  | registerConstant registry name pattern =>
    -- the constant is put down before the registration, and is no part of any registry
    refine h.registered (fun other => ?_) registry name pattern _
    cases other <;> rfl
  | reset registry => exact h.set (h registry).reset
  | convert registry name text =>
    rw [World.step, Session.convert]
    cases (w.session.registry registry).resolve? name with
    | none => exact h
    | some type => exact h.share (Records.kept.convert (h .shared) type w.session.zone text)
  | matchStep registry step template =>
    exact h.share (Records.kept.matchStep (h .shared) (w.session.registry registry)
      w.session.settings step template)
  | setEscaping override => exact h
  | setEnvironment value => exact h

/-- The histories are right at every point of every run. -/
theorem sound_run (zone : String) (ops : List Operation) : (run zone ops).Sound := by
  have hFold : ∀ w : World, w.Sound → (ops.foldl World.step w).Sound := by
    -- the world is left open, so that the run can be followed step by step
    induction ops with
    | nil => exact fun w h => h
    | cons op ops ih => exact fun w h => ih _ (h.step op)
  exact hFold _ (sound_start zone)

end World

/-- **Registries hold what was registered.** At every point of every run, and for every
registry of the session: its custom types are the registrations accepted since it was last
cleared, in order, where a copy goes on from the history of its original; every
registration, those by transforms included, was accepted or refused for the first of the
four faults, judged by what the registry held at the time; one that is refused now leaves
all registries as they are, and so does one that a transform tries in the middle of a
match; the names of all its types are different identifiers, and each
custom pattern can be read on its own. -/
theorem registries_follow_histories (zone : String) (ops : List Operation)
    (registry : RegistryName) :
    let w := World.run zone ops
    (w.session.registry registry).types = History.accepted (w.history registry) ∧
    (∀ type failure earlier,
      RegistryEvent.attempt type failure :: earlier <:+ w.history registry →
        Verdict ((History.accepted earlier).map (·.name)) type.name type.pattern failure) ∧
    (∀ name pattern transform e, w.session.register registry name pattern transform = .error e →
      (w.step (.register registry name pattern transform)).session = w.session) ∧
    (∀ (shared : SharedTypes) name pattern transform e,
      (shared.define name pattern transform).1 = some e →
        (shared.define name pattern transform).2 = shared) ∧
    (Builtin.all.map Builtin.name ++ (w.session.registry registry).types.map (·.name)).Nodup ∧
    (∀ name ∈ Builtin.all.map Builtin.name ++ (w.session.registry registry).types.map (·.name),
      IsIdentifier name) ∧
    ∀ t ∈ (w.session.registry registry).types, ∃ p, Pattern.ofSource t.pattern = .ok p := by
  intro w
  have hRec : Records (w.history registry) (w.session.registry registry) :=
    World.sound_run zone ops registry
  refine ⟨hRec.types, hRec.judged, ?_, ?_, hRec.valid.nodup, hRec.valid.identifiers,
    hRec.valid.readable⟩
  · intro name pattern transform e hErr
    exact World.session_step_register hErr
  · intro shared name pattern transform e hErr
    exact SharedTypes.define_of_refused hErr

end TypedSteps
