import TypedSteps.Registry.Basic
import TypedSteps.Conversion
import TypedSteps.Step

/-!
# Matching steps against templates

A template is matched against the text of a step: the placeholders of all matches are
converted to values, in the order in which they stand in the text. Which type converts
a capture is read off the name of its group; a group that no known type owns is taken as
quoted text.

* `convertCapture`, `convertAll` — from captures to values;
* `matchStep` — matching, with the errors of `MatchError`.

The registry is the one at the start of the match. Transforms act on the shared types
while the match goes on, up to the first capture that cannot be converted.
-/

namespace TypedSteps

open Calendar (Zone)

/-- Why a step yields no values. -/
inductive MatchError where
  /-- The text of the step shows no match. -/
  | mismatch (step template : String)
  /-- The pattern of the template cannot be read. -/
  | invalidExpression (template : String) (reason : SyntaxError)
  /-- A captured text could not be converted. -/
  | conversion (step group text : String) (reason : ConversionError)
  deriving DecidableEq, Repr

/-- The settings that matching depends on: whether literal text is escaped where the
registry does not settle it, and the local time zone. -/
structure MatchSettings where
  escape : Bool
  zone : Zone

/-- The type that converts what a group captured. -/
def ownerOf? (r : Registry) (group : String) : Option ParameterType :=
  match splitGroupName? group with
  | some (name, _) => r.resolve? name
  | none => none

/-- Converts a text as a type asks. -/
def ParameterType.convert (type : ParameterType) (zone : Zone) (text : String)
    (shared : SharedTypes) : Except ConversionError Value × SharedTypes :=
  match type with
  | builtin b => (b.convert zone text, shared)
  | custom t =>
    let (value, after) := (t.transform text).run shared
    (.ok value, after)

/-- Converts a capture: as its owner asks, and as quoted text if it has none. -/
def convertCapture (r : Registry) (zone : Zone) (capture : Capture) (shared : SharedTypes) :
    Except ConversionError Value × SharedTypes :=
  ((ownerOf? r capture.group).getD (.builtin .string)).convert zone capture.text shared

/-- Converts captures one after the other, up to the first that cannot be converted;
that one is named in the error. -/
def convertAll (r : Registry) (zone : Zone) :
    List Capture → SharedTypes → Except (Capture × ConversionError) (List Value) × SharedTypes
  | [], shared => (.ok [], shared)
  | capture :: rest, shared =>
    match convertCapture r zone capture shared with
    | (.error reason, after) => (.error (capture, reason), after)
    | (.ok value, after) =>
      match convertAll r zone rest after with
      | (.ok values, last) => (.ok (value :: values), last)
      | (.error e, last) => (.error e, last)

/-- Matches a step against a template. A template without placeholders yields no values
whatever the step says; any other has to yield at least one. -/
def matchStep (r : Registry) (settings : MatchSettings) (step : Step) (template : String)
    (shared : SharedTypes) : Except MatchError (List Value) × SharedTypes :=
  if !r.hasPlaceholder template then (.ok [], shared)
  else
    match r.compile settings.escape template with
    | .error reason => (.error (.invalidExpression template reason), shared)
    | .ok compiled =>
      match compiled.pattern.captures step.text with
      | [] => (.error (.mismatch step.diagnostic template), shared)
      | captures =>
        match convertAll r settings.zone captures shared with
        | (.ok values, after) => (.ok values, after)
        | (.error (capture, reason), after) =>
          (.error (.conversion step.diagnostic capture.group capture.text reason), after)

end TypedSteps
