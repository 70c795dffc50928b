import TypedSteps.Registry.Transforms
import TypedSteps.Matching
import TypedSteps.Escaping
import TypedSteps.Language.Scopes
import TypedSteps.Language.Error
import TypedSteps.Calendar.ZoneDescription

/-!
# Sessions

A session is everything that calls can leave behind: the shared types, registries and
lists of values kept under a name, the settings, and the languages. Each operation
takes a session and answers with the session after it.

* `Session`, `Session.start` — sessions;
* `RegistryName` — the shared registry, or one of the session's own;
* `Session.register`, `Session.convert`, `Session.matchStep` — the operations that act
  on registries.
-/

namespace TypedSteps

open Calendar (Zone)

/-- Which registry an operation is about. -/
inductive RegistryName where
  | shared
  | own (name : String)
  deriving DecidableEq, Repr

/-- What calls can leave behind. -/
structure Session where
  shared : SharedTypes := {}
  registries : List (String × Registry) := []
  saved : List (String × List Value) := []
  escaping : Escaping := {}
  zone : Zone := .utc
  scopes : Scopes := .initial

namespace Session

/-- Puts an entry into a list of named entries, in place of one of the same name. -/
def putEntry {α : Type} (name : String) (value : α) : List (String × α) → List (String × α)
  | [] => [(name, value)]
  | (n, v) :: rest => if n = name then (name, value) :: rest else (n, v) :: putEntry name value rest

/-- A new session in the time zone that a text describes, UTC if it describes none. -/
def start (zone : String) : Session :=
  { zone := (Zone.read? zone).getD .utc }

-- ---------------------------------------------------------------------------
-- Registries
-- ---------------------------------------------------------------------------

/-- The registry with a name; one that was never used is empty. -/
def registry (s : Session) : RegistryName → Registry
  | .shared => s.shared.registry
  | .own name => (s.registries.lookup name).getD .empty

/-- The session with another registry under a name. -/
def setRegistry (s : Session) (r : Registry) : RegistryName → Session
  | .shared => { s with shared := { s.shared with registry := r } }
  | .own name => { s with registries := putEntry name r s.registries }

/-- Replaces a registry by an empty one, pinned if `escape` says how. -/
def renew (s : Session) (name : RegistryName) (escape : Option Bool) : Session :=
  s.setRegistry { pinned := escape } name

/-- Settles for a registry whether literal text is escaped. -/
def pin (s : Session) (name : RegistryName) (escape : Bool) : Session :=
  s.setRegistry ((s.registry name).pin escape) name

/-- Copies a registry. -/
def copy (s : Session) (source target : RegistryName) : Session :=
  s.setRegistry (s.registry source) target

/-- Clears a registry. -/
def reset (s : Session) (name : RegistryName) : Session :=
  s.setRegistry (s.registry name).reset name

/-- Registers a type; on failure the session stays as it is. -/
def register (s : Session) (name : RegistryName) (typeName pattern : String)
    (transform : Transform) : Except RegistrationError Session :=
  match (s.registry name).register typeName pattern transform with
  | .ok r => .ok (s.setRegistry r name)
  | .error e => .error e

/-- Registers a type that yields one value, with a payload created here, for every
text. -/
def registerConstant (s : Session) (name : RegistryName) (typeName pattern : String) :
    Except RegistrationError Session :=
  let (payload, shared) := s.shared.create typeName
  { s with shared := shared }.register name typeName pattern (Transform.constant (.custom payload))

-- ---------------------------------------------------------------------------
-- Matching
-- ---------------------------------------------------------------------------

/-- The settings that matching depends on. -/
def settings (s : Session) : MatchSettings :=
  ⟨s.escaping.inForce, s.zone⟩

/-- Compiles a template against a registry. -/
def compile (s : Session) (name : RegistryName) (template : String) :
    Except SyntaxError CompiledTemplate :=
  (s.registry name).compile s.escaping.inForce template

/-- Converts a text as a type of a registry asks; `none` if there is no such type. -/
def convert (s : Session) (name : RegistryName) (typeName text : String) :
    Option (Except ConversionError Value) × Session :=
  match (s.registry name).resolve? typeName with
  | none => (none, s)
  | some type =>
    let (result, shared) := type.convert s.zone text s.shared
    (some result, { s with shared := shared })

/-- Matches a step against a template, on the registry as it is when the match begins. -/
def matchStep (s : Session) (name : RegistryName) (step : Step) (template : String) :
    Except MatchError (List Value) × Session :=
  let (result, shared) := TypedSteps.matchStep (s.registry name) s.settings step template s.shared
  (result, { s with shared := shared })

/-- Keeps values under a name. -/
def save (s : Session) (name : String) (values : List Value) : Session :=
  { s with saved := putEntry name values s.saved }

/-- A value of a list kept under a name. -/
def savedValue? (s : Session) (name : String) (index : Nat) : Option Value :=
  match s.saved.lookup name with
  | some values => values[index]?
  | none => none

-- ---------------------------------------------------------------------------
-- Settings and languages
-- ---------------------------------------------------------------------------

/-- Decides whether literal text is escaped, or leaves it to the environment again. -/
def setEscaping (s : Session) (override : Option Bool) : Session :=
  { s with escaping.override := override }

/-- Sets or removes the variable of the environment. -/
def setEnvironment (s : Session) (value : Option String) : Session :=
  { s with escaping.environment := value }

/-- The language of messages. -/
def language (s : Session) : Language :=
  s.scopes.language

end Session

end TypedSteps
