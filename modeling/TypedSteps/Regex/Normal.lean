import TypedSteps.Regex.Basic

/-!
# Building expressions in normal form

Sequences, alternatives and repetitions are built through the functions below. They
keep what an expression matches, but they also settle which of several matches is
preferred, so a pattern must be read through them.

* `Regex.concat` — a sequence, flat and without empty parts;
* `Regex.alternate` — alternatives, flat; literals alone or classes alone become one
  class, and a part with which all alternatives begin is taken out in front;
* `Regex.repeated` — a repetition; a body that matches only the empty text is
  repeated at most once.
-/

namespace TypedSteps.Regex

open Unicode (CharSet)

-- ---------------------------------------------------------------------------
-- Sequences
-- ---------------------------------------------------------------------------

/-- The parts of a sequence, in order; the empty expression has none. -/
def factors : Regex → List Regex
  | empty => []
  | cat a b => a.factors ++ b.factors
  | r => [r]

/-- The sequence of the given parts, as they stand. -/
def ofFactors : List Regex → Regex
  | [] => .empty
  | [r] => r
  | r :: rs => .cat r (ofFactors rs)

/-- The sequence of the given expressions. -/
def concat (rs : List Regex) : Regex :=
  ofFactors (rs.flatMap factors)

/-- The set of an expression that matches one character of a set. -/
def charSet? : Regex → Option CharSet
  | chars s _ => some s
  | _ => none

/-- Whether the expression matches one certain character and nothing else. -/
def isLiteral : Regex → Bool
  | chars s _ => s.isSingleton
  | _ => false

/-- Cuts the parts of a sequence into runs: literals that follow one another make one
run, and every other part is a run of its own. -/
def runs : List Regex → List (List Regex)
  | [] => []
  | r :: rs =>
    match runs rs with
    | (s :: run) :: rest =>
      if r.isLiteral && s.isLiteral then (r :: s :: run) :: rest else [r] :: (s :: run) :: rest
    | rest => [r] :: rest

-- ---------------------------------------------------------------------------
-- Alternatives
-- ---------------------------------------------------------------------------

/-- The alternatives of an expression, in order of preference. -/
def branches : Regex → List Regex
  | alt a b => a.branches ++ b.branches
  | r => [r]

/-- The choice between the given alternatives, as they stand. -/
def ofBranches : List Regex → Regex
  | [] => .chars .empty false
  | [r] => r
  | r :: rs => .alt r (ofBranches rs)

/-- The one class that alternatives of one character each amount to, if either all of
them are literals or none of them is. -/
def classOf? (rs : List Regex) : Option CharSet :=
  if rs.all isLiteral || !rs.any isLiteral then
    (rs.mapM charSet?).map fun sets => sets.foldl (fun acc s => s.union acc) .empty
  else none

/-- The longest list with which both lists begin. -/
def commonStart : List (List Regex) → List (List Regex) → List (List Regex)
  | r :: rs, s :: ss => if r = s then r :: commonStart rs ss else []
  | _, _ => []

/-- The runs with which all alternatives begin, if every alternative is a sequence of
at least two runs; otherwise none. -/
def sharedStart (rs : List Regex) : List (List Regex) :=
  let parts := rs.map fun r => runs r.factors
  if parts.any (·.length < 2) then []
  else
    match parts with
    | [] => []
    | p :: ps => ps.foldl commonStart p

/-- The choice between alternatives, with at most `fuel` shared beginnings taken out
one inside the other. -/
def alternateWithin : Nat → List Regex → Regex
  | 0, rs => ofBranches (rs.flatMap branches)
  | fuel + 1, rs =>
    let bs := rs.flatMap branches
    if bs.length < 2 then ofBranches bs
    else
      match classOf? bs with
      | some s => .ofSet false s
      | none =>
        let start := (sharedStart bs).flatten
        if start.isEmpty then ofBranches bs
        else
          concat (start ++
            [alternateWithin fuel (bs.map fun b => ofFactors (b.factors.drop start.length))])

/-- The choice between the given alternatives, the preferred one first. -/
def alternate (rs : List Regex) : Regex :=
  alternateWithin (rs.foldr (fun r total => r.size + total) 0) rs

-- ---------------------------------------------------------------------------
-- Repetitions
-- ---------------------------------------------------------------------------

/-- The repetition of `r` from `min` to `max` times, without bound where `max` is
`none`. -/
def repeated (r : Regex) (min : Nat) (max : Option Nat) (greedy : Bool) : Regex :=
  let least := if r.matchesOnlyEmpty then Nat.min min 1 else min
  let most := if r.matchesOnlyEmpty then some (Nat.min (max.getD 1) 1) else max
  if least = 0 ∧ most = some 0 then .empty
  else if least = 1 ∧ most = some 1 then r
  else .rep r least most greedy

end TypedSteps.Regex
