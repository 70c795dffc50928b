/-!
# Languages and their selection

Messages are written in English or in French. A request lists language tags in order
of preference; it selects the languages of the library that answer to some tag, each
once, and English always closes the list if it was not selected before.

* `Language`, `Language.tag` — the languages;
* `Language.ofTag?` — the language that answers to a tag;
* `Language.select` — the languages that a request selects.
-/

namespace TypedSteps

/-- A language in which messages are written. -/
inductive Language where
  | english
  | french
  deriving DecidableEq, Repr

namespace Language

/-- The tag of a language. -/
def tag : Language → String
  | english => "en-US"
  | french => "fr"

/-- The part of a tag before the first hyphen or underscore, in lower case. -/
def primarySubtag (tag : String) : List Char :=
  (tag.toList.takeWhile fun c => c != '-' && c != '_').map Char.toLower

/-- The language that answers to a tag: what follows its primary part makes no
difference. -/
def ofTag? (tag : String) : Option Language :=
  let primary := primarySubtag tag
  if primary = ['e', 'n'] then some english
  else if primary = ['f', 'r'] then some french
  else none

/-- Some languages with the first mention of each kept. -/
def firstMentions : List Language → List Language
  | [] => []
  | l :: ls => l :: (firstMentions ls).filter (· ≠ l)

/-- The languages that a request selects, the preferred one first. -/
def select (tags : List String) : List Language :=
  firstMentions (tags.filterMap ofTag? ++ [english])

/-- The language in which messages are written: the first one selected. -/
def first (selected : List Language) : Language :=
  selected.headD english

end Language

end TypedSteps
