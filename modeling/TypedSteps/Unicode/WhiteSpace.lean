import TypedSteps.Unicode.CharSet

/-!
# The White_Space property

The characters with the Unicode property White_Space. Trimming, the blanks that
a spaced pattern ignores and the class `\s` all use this one set.
-/

namespace TypedSteps.Unicode

/-- The characters with the property White_Space. -/
def whiteSpace : CharSet := .mk
  [(0x9, 0xD), (0x20, 0x20), (0x85, 0x85), (0xA0, 0xA0), (0x1680, 0x1680), (0x2000, 0x200A),
   (0x2028, 0x2029), (0x202F, 0x202F), (0x205F, 0x205F), (0x3000, 0x3000)]

/-- Whether a character has the property White_Space. -/
def isWhiteSpace (c : Char) : Bool :=
  whiteSpace.contains c

end TypedSteps.Unicode
