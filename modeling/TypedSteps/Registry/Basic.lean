import TypedSteps.Builtin
import TypedSteps.Value
import TypedSteps.Template.Source

/-!
# Registries of parameter types

A registry knows the built-in types and the custom types that were registered with it.
A custom type has a name, a pattern and a transform that turns captured text into a
value. Transforms may do more than that: they may create payloads, and they may
register types with the registry that all steps share or clear it. What a transform
does for one text is an `Action`; running it changes the `SharedTypes`.

* `Action`, `Transform`, `CustomType`, `Registry` — custom types and registries;
* `Registry.register`, `Registry.reset`, `Registry.resolve?` — their operations;
* `SharedTypes`, `Action.run` — the shared registry and the effect of transforms.
-/

namespace TypedSteps

-- ---------------------------------------------------------------------------
-- Registration errors
-- ---------------------------------------------------------------------------

/-- Why a custom type was not registered. -/
inductive RegistrationError where
  /-- The name belongs to a built-in type. -/
  | builtinCollision (name : String)
  /-- A custom type of that name is registered already. -/
  | customCollision (name : String)
  /-- The name is no identifier. -/
  | invalidName (name : String)
  /-- The pattern cannot be read. -/
  | invalidPattern (name : String) (reason : SyntaxError)
  deriving DecidableEq, Repr

/-- The name with which the registration was tried. -/
def RegistrationError.name : RegistrationError → String
  | builtinCollision n | customCollision n | invalidName n | invalidPattern n _ => n

-- ---------------------------------------------------------------------------
-- Types
-- ---------------------------------------------------------------------------

/-- What the transform of a custom type does for one captured text: it yields a value,
and before that it may create a payload, register a type with the shared registry, or
clear that registry. -/
inductive Action where
  | yield (value : Value)
  | create (content : String) (next : Payload → Action)
  | define (name pattern : String) (transform : String → Action)
      (next : Option RegistrationError → Action)
  | reset (next : Action)

/-- What a custom type does with captured text. -/
abbrev Transform := String → Action

/-- A custom parameter type. -/
structure CustomType where
  name : String
  pattern : String
  transform : Transform

/-- A custom type as a parameter of templates. -/
def CustomType.parameter (t : CustomType) : Parameter :=
  ⟨t.name, t.pattern⟩

/-- A custom type as it is written for diagnosis. -/
def CustomType.describe (t : CustomType) : String :=
  "CustomType \x7b name: " ++ Text.quoted t.name ++ ", pattern: " ++ Text.quoted t.pattern ++
    ", .. \x7d"

/-- A parameter type found by its name. -/
inductive ParameterType where
  | builtin (type : Builtin)
  | custom (type : CustomType)

/-- A parameter type as a parameter of templates. -/
def ParameterType.parameter : ParameterType → Parameter
  | builtin b => b.parameter
  | custom t => t.parameter

-- ---------------------------------------------------------------------------
-- Registries
-- ---------------------------------------------------------------------------

/-- The custom types of a registry in the order of registration, and whether literal
text of templates is escaped, if the registry settles it. -/
structure Registry where
  types : List CustomType := []
  pinned : Option Bool := none

namespace Registry

/-- A registry without custom types. -/
def empty : Registry := {}

/-- The registry that settles whether literal text is escaped. -/
def pin (r : Registry) (escape : Bool) : Registry :=
  { r with pinned := some escape }

/-- Why a custom type cannot be registered, if it cannot: the first reason that applies
counts. -/
def refusal? (r : Registry) (name pattern : String) : Option RegistrationError :=
  if (Builtin.ofName? name).isSome then some (.builtinCollision name)
  else if r.types.any (·.name == name) then some (.customCollision name)
  else if !isIdentifier name then some (.invalidName name)
  else
    match Pattern.ofSource pattern with
    | .ok _ => none
    | .error reason => some (.invalidPattern name reason)

/-- Registers a custom type after those there are. -/
def register (r : Registry) (name pattern : String) (transform : Transform) :
    Except RegistrationError Registry :=
  match r.refusal? name pattern with
  | some e => .error e
  | none => .ok { r with types := r.types ++ [⟨name, pattern, transform⟩] }

/-- The registry without its custom types. -/
def reset (r : Registry) : Registry :=
  { r with types := [] }

/-- The type with the given name; built-in types come first. -/
def resolve? (r : Registry) (name : String) : Option ParameterType :=
  match Builtin.ofName? name with
  | some b => some (.builtin b)
  | none => (r.types.find? (·.name == name)).map .custom

/-- The table against which templates are read: the built-in types, then the custom
ones. -/
def table (r : Registry) : List Parameter :=
  Builtin.all.map Builtin.parameter ++ r.types.map CustomType.parameter

/-- Whether literal text is escaped, given what holds where the registry does not settle
it. -/
def escapes (r : Registry) (configured : Bool) : Bool :=
  r.pinned.getD configured

/-- Whether a template has a placeholder of a known type. -/
def hasPlaceholder (r : Registry) (template : String) : Bool :=
  containsPlaceholder r.table template

/-- Compiles a template; `configured` says whether literal text is escaped where the
registry does not settle it. -/
def compile (r : Registry) (configured : Bool) (template : String) :
    Except SyntaxError CompiledTemplate :=
  CompiledTemplate.ofTemplate r.table (r.escapes configured) template

/-- A registered type stands after those there were. -/
theorem types_register {r r' : Registry} {name pattern : String} {transform : Transform}
    (h : r.register name pattern transform = .ok r') :
    r'.types = r.types ++ [⟨name, pattern, transform⟩] := by
  unfold register at h
  split at h
  · cases h
  · cases h
    rfl

/-- The names of built-in types always resolve to these. -/
theorem resolve?_builtin (r : Registry) (b : Builtin) :
    r.resolve? b.name = some (.builtin b) := by
  simp [resolve?, Builtin.ofName?_name]

end Registry

-- ---------------------------------------------------------------------------
-- Shared types
-- ---------------------------------------------------------------------------

/-- What all steps share: a registry, and the identity of the next payload. -/
structure SharedTypes where
  registry : Registry := .empty
  nextIdentity : Nat := 0

namespace SharedTypes

/-- Creates a payload with an identity of its own. -/
def create (s : SharedTypes) (content : String) : Payload × SharedTypes :=
  (⟨s.nextIdentity, content⟩, { s with nextIdentity := s.nextIdentity + 1 })

/-- Registers a type with the shared registry, which stays as it is on failure. -/
def define (s : SharedTypes) (name pattern : String) (transform : Transform) :
    Option RegistrationError × SharedTypes :=
  match s.registry.register name pattern transform with
  | .ok r => (none, { s with registry := r })
  | .error e => (some e, s)

/-- A registration that is refused leaves the shared types as they are. -/
theorem define_of_refused {s : SharedTypes} {name pattern : String} {transform : Transform}
    {e : RegistrationError} (h : (s.define name pattern transform).1 = some e) :
    (s.define name pattern transform).2 = s := by
  rw [define] at h ⊢
  cases hr : s.registry.register name pattern transform with
  | ok r =>
    rw [hr] at h
    cases h
  | error e' => rfl

/-- Clears the shared registry. -/
def reset (s : SharedTypes) : SharedTypes :=
  { s with registry := s.registry.reset }

end SharedTypes

/-- Runs an action: the value it yields, and the shared types after it. -/
def Action.run : Action → SharedTypes → Value × SharedTypes
  | yield value, s => (value, s)
  | create content next, s =>
    let (payload, s) := s.create content
    (next payload).run s
  | define name pattern transform next, s =>
    let (failure, s) := s.define name pattern transform
    (next failure).run s
  | reset next, s => next.run s.reset

end TypedSteps
