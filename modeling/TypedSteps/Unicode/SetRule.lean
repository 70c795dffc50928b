import TypedSteps.Text.Basic
import TypedSteps.Text.Hexadecimal
import TypedSteps.Unicode.CharSet

/-!
# Rules for sets of characters

The standard describes most properties of characters by long lists of ranges, and some by
means of others. A `SetRule` is such a description; its members are worked out where
they are asked for.

* `SetRule`, `SetRule.members` — descriptions and the sets they describe;
* `CharSet.ofText` — the notation for ranges;
* `NamedSet`, `findNamed?` — tables of sets with names.
-/

namespace TypedSteps.Unicode

-- ---------------------------------------------------------------------------
-- The notation for ranges
-- ---------------------------------------------------------------------------

/-- The bounds in a text such as `41-5A`, in hexadecimal digits; a number alone is both. -/
def boundsOfText (cs : List Char) : Nat × Nat :=
  let numbers := (Text.splitAt '-' cs).map Text.hexNumber
  (numbers.headD 0, numbers.getLastD 0)

/-- Every `step`-th code point of a range, from the first on. -/
def stridden (step : Nat) (r : Nat × Nat) : List (Nat × Nat) :=
  (List.range ((r.2 - r.1) / step + 1)).map fun k => (r.1 + k * step, r.1 + k * step)

/-- The ranges of one item: `41-5A` is a range, `AA` a code point, and `100-12E/2` takes
every second code point of a range. -/
def rangesOfItem (item : List Char) : List (Nat × Nat) :=
  match Text.splitAt '/' item with
  | [bounds, step] => stridden (Text.hexNumber step) (boundsOfText bounds)
  | _ => [boundsOfText item]

/-- The set that a text of items describes, which has spaces and line ends between them. -/
def CharSet.ofText (text : String) : CharSet :=
  let lines := Text.splitAt '\n' text.toList
  let items := (lines.flatMap (Text.splitAt ' ')).filter fun item => !item.isEmpty
  .ofRanges (items.flatMap rangesOfItem)

-- ---------------------------------------------------------------------------
-- Rules
-- ---------------------------------------------------------------------------

/-- A description of a set of characters: by its ranges, by a set that is known, or by
other descriptions. -/
inductive SetRule where
  | ranges (text : String)
  | table (set : CharSet)
  | union (first second : SetRule)
  | without (whole part : SetRule)
  deriving Repr

namespace SetRule

/-- The set that a rule describes. -/
def members : SetRule → CharSet
  | ranges text => .ofText text
  | table set => set
  | union r s => r.members.union s.members
  | without r s => r.members.diff s.members

/-- The members of all of the given rules together. -/
def anyOf : List SetRule → SetRule
  | [] => .table .empty
  | [r] => r
  | r :: rs => .union r (anyOf rs)

end SetRule

-- ---------------------------------------------------------------------------
-- Names
-- ---------------------------------------------------------------------------

/-- A set with its names, in the form in which names are compared. -/
structure NamedSet where
  names : List String
  rule : SetRule
  deriving Repr

/-- The set of a table that has the given name. -/
def findNamed? (table : List NamedSet) (name : String) : Option CharSet :=
  (table.find? fun entry => entry.names.contains name).map fun entry => entry.rule.members

end TypedSteps.Unicode
