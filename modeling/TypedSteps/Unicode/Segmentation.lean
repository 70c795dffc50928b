import TypedSteps.Unicode.BooleanProperty

/-!
# Segmentation

Where one character, word or sentence of a text ends and the next begins is decided by
classes of characters, as of version 16 of Unicode. A character is in at most one class
of each kind.

* `GraphemeBreak.classes` — the classes for characters as a reader sees them;
* `WordBreak.classes`, `SentenceBreak.classes` — those for words and sentences.
-/

namespace TypedSteps.Unicode

/-- The carriage return, which all kinds of segments end at. -/
def carriageReturn : SetRule :=
  .ranges "D"

/-- The line feed, which all kinds of segments end at. -/
def lineFeed : SetRule :=
  .ranges "A"

/-- The joiner without width. -/
def joiner : SetRule :=
  .ranges "200D"

-- ---------------------------------------------------------------------------
-- Characters as a reader sees them
-- ---------------------------------------------------------------------------

namespace GraphemeBreak

/-- Characters that belong to the one before them. -/
def extend : SetRule :=
  .union BooleanProperty.graphemeExtend BooleanProperty.emojiModifier

/-- Characters that belong to the one after them. -/
def prepend : SetRule :=
  .union BooleanProperty.prependedConcatenationMark
    (.ranges "D4E 111C2-111C3 113D1 1193F 11941 11A3A 11A84-11A89 11D46 11F02")

/-- Characters that stand alone. -/
def control : SetRule :=
  .without
    (.union (anyCategory [.lineSeparator, .paragraphSeparator, .control, .format])
      (.ranges "2065 FFF0-FFF8 E0000 E0002-E001F E0080-E00FF E01F0-E0FFF"))
    (.anyOf [.ranges "A D 200C-200D", BooleanProperty.prependedConcatenationMark, extend])

/-- Marks with a place of their own. -/
def spacingMark : SetRule :=
  .without (.union GeneralCategory.spacingMark.rule (.ranges "E33 EB3"))
    (.union extend
      (.ranges
        "102B-102C 1038 1062-1064 1067-106D 1083 1087-108C 108F 109A-109C 1A61 1A63-1A64 AA7B
         AA7D 11720-11721"))

/-- Consonants that start a syllable of Hangul. -/
def leading : SetRule :=
  .ranges "1100-115F A960-A97C"

/-- Vowels of such a syllable. -/
def vowel : SetRule :=
  .ranges "1160-11A7 D7B0-D7C6 16D63 16D67-16D6A"

/-- Consonants that end one. -/
def trailing : SetRule :=
  .ranges "11A8-11FF D7CB-D7FB"

/-- Syllables that end in a vowel. -/
def openSyllable : SetRule :=
  .ranges "AC00-D788/1C"

/-- Syllables that end in a consonant. -/
def closedSyllable : SetRule :=
  .without (.ranges "AC00-D7A3") openSyllable

/-- The classes by which a text is cut into what a reader takes for one character. -/
def classes : List NamedSet :=
  [⟨["cr"], carriageReturn⟩,
   ⟨["lf"], lineFeed⟩,
   ⟨["ex", "extend"], extend⟩,
   ⟨["pp", "prepend"], prepend⟩,
   ⟨["cn", "control"], control⟩,
   ⟨["sm", "spacingmark"], spacingMark⟩,
   ⟨["l"], leading⟩,
   ⟨["v"], vowel⟩,
   ⟨["t"], trailing⟩,
   ⟨["lv"], openSyllable⟩,
   ⟨["lvt"], closedSyllable⟩,
   ⟨["zwj"], joiner⟩,
   ⟨["ri", "regionalindicator"], BooleanProperty.regionalIndicator⟩]

end GraphemeBreak

-- ---------------------------------------------------------------------------
-- Words
-- ---------------------------------------------------------------------------

namespace WordBreak

/-- Other ends of lines. -/
def newline : SetRule :=
  .ranges "B-C 85 2028-2029"

/-- Characters that belong to the one before them. -/
def extend : SetRule :=
  .anyOf
    [BooleanProperty.graphemeExtend,
     GeneralCategory.spacingMark.rule,
     BooleanProperty.emojiModifier]

/-- Format characters. -/
def format : SetRule :=
  .without GeneralCategory.format.rule
    (.anyOf [extend, BooleanProperty.prependedConcatenationMark, .ranges "200B-200D"])

/-- Letters of Katakana. -/
def katakana : SetRule :=
  .union
    (.ranges
      "30A1-30FA 30FD-30FF 31F0-31FF 32D0-32FE 3300-3357 FF66-FF6F FF71-FF9D 1AFF0-1AFF3
       1AFF5-1AFFB 1AFFD-1AFFE 1B000 1B120-1B122 1B155 1B164-1B167")
    (.ranges "3031-3035 309B-309C 30A0 30FC FF70")

/-- Letters of Hebrew. -/
def hebrewLetter : SetRule :=
  .ranges "5D0-5EA 5EF-5F2 FB1D FB1F-FB28 FB2A-FB36 FB38-FB3C FB3E FB40-FB41 FB43-FB44 FB46-FB4F"

/-- Letters of other scripts that put blanks between words. -/
def letter : SetRule :=
  .without
    (.union BooleanProperty.alphabetic
      (.ranges
        "2C2-2C5 2D2-2D7 2DE-2DF 2E5-2EB 2ED 2EF-2FF 55A-55C 55E 58A 5F3 70F A708-A716 A720-A721
         A789-A78A AB5B"))
    (.anyOf
      [BooleanProperty.ideographic,
       extend,
       katakana,
       hebrewLetter,
       .ranges
         "E01-E30 E32-E33 E40-E46 E81-E82 E84 E86-E8A E8C-EA3 EA5 EA7-EB0 EB2-EB3 EBD EC0-EC4
          EC6 EDC-EDF 1000-102A 103F 1050-1055 105A-105D 1061 1065-1066 106E-1070 1075-1081 108E
          1780-17B3 17D7 17DC 1950-196D 1970-1974 1980-19AB 19B0-19C9 1A20-1A54 1AA7 3041-3096
          309D-309F A9E0-A9E4 A9E6-A9EF A9FA-A9FE AA60-AA76 AA7A AA7E-AAAF AAB1 AAB5-AAB6
          AAB9-AABD AAC0 AAC2 AADB-AADD 11700-1171A 11740-11746 1B001-1B11F 1B132 1B150-1B152
          1F200"])

/-- The single quotation mark. -/
def singleQuote : SetRule :=
  .ranges "27"

/-- The double quotation mark. -/
def doubleQuote : SetRule :=
  .ranges "22"

/-- Punctuation inside words and numbers. -/
def midNumberLetter : SetRule :=
  .ranges "2E 2018-2019 2024 FE52 FF07 FF0E"

/-- Punctuation inside words. -/
def midLetter : SetRule :=
  .ranges "3A B7 387 55F 5F4 2027 FE13 FE55 FF1A"

/-- Punctuation inside numbers. -/
def midNumber : SetRule :=
  .ranges "2C 3B 37E 589 60C-60D 66C 7F8 2044 FE10 FE14 FE50 FE54 FF0C FF1B"

/-- Digits, and the marks that stand around them. -/
def numeric : SetRule :=
  .union GeneralCategory.decimalNumber.rule (.ranges "66B 600-605 6DD 890-891 8E2 110BD 110CD")

/-- Characters that connect words and numbers. -/
def connector : SetRule :=
  .union GeneralCategory.connectorPunctuation.rule (.ranges "202F")

/-- Spaces at which a line may end. -/
def space : SetRule :=
  .without GeneralCategory.spaceSeparator.rule (.ranges "A0 2007 202F")

/-- The classes by which a text is cut into words. -/
def classes : List NamedSet :=
  [⟨["cr"], carriageReturn⟩,
   ⟨["lf"], lineFeed⟩,
   ⟨["nl", "newline"], newline⟩,
   ⟨["extend"], extend⟩,
   ⟨["zwj"], joiner⟩,
   ⟨["fo", "format"], format⟩,
   ⟨["ka", "katakana"], katakana⟩,
   ⟨["hl", "hebrewletter"], hebrewLetter⟩,
   ⟨["le", "aletter"], letter⟩,
   ⟨["sq", "singlequote"], singleQuote⟩,
   ⟨["dq", "doublequote"], doubleQuote⟩,
   ⟨["mb", "midnumlet"], midNumberLetter⟩,
   ⟨["ml", "midletter"], midLetter⟩,
   ⟨["mn", "midnum"], midNumber⟩,
   ⟨["nu", "numeric"], numeric⟩,
   ⟨["ex", "extendnumlet"], connector⟩,
   ⟨["wsegspace"], space⟩,
   ⟨["ri", "regionalindicator"], BooleanProperty.regionalIndicator⟩]

end WordBreak

-- ---------------------------------------------------------------------------
-- Sentences
-- ---------------------------------------------------------------------------

namespace SentenceBreak

/-- Other ends of paragraphs. -/
def separator : SetRule :=
  .ranges "85 2028-2029"

/-- Characters that belong to the one before them. -/
def extend : SetRule :=
  .anyOf [BooleanProperty.graphemeExtend, GeneralCategory.spacingMark.rule, .ranges "200D"]

/-- Format characters. -/
def format : SetRule :=
  .without GeneralCategory.format.rule extend

/-- Blanks inside a paragraph. -/
def space : SetRule :=
  .without BooleanProperty.whiteSpace (.ranges "A D 85 2028-2029")

/-- Lower-case letters. -/
def lower : SetRule :=
  .without BooleanProperty.lowercase
    (.union BooleanProperty.graphemeExtend (.ranges "10D0-10FA 10FD-10FF"))

/-- Upper-case letters. -/
def upper : SetRule :=
  .without (.union BooleanProperty.uppercase GeneralCategory.titlecaseLetter.rule)
    (.ranges "1C90-1CBA 1CBD-1CBF")

/-- Other letters. -/
def letter : SetRule :=
  .without (.union BooleanProperty.alphabetic (.ranges "5F3")) (.anyOf [lower, upper, extend])

/-- Digits and the marks inside numbers. -/
def numeric : SetRule :=
  .union GeneralCategory.decimalNumber.rule (.ranges "66B-66C")

/-- Full stops, which need not end a sentence. -/
def fullStop : SetRule :=
  .ranges "2E 2024 FE52 FF0E"

/-- Punctuation that ends a sentence. -/
def terminal : SetRule :=
  .without BooleanProperty.sentenceTerminal fullStop

/-- Punctuation after which a sentence goes on. -/
def continuing : SetRule :=
  .ranges
    "2C-2D 3A-3B 37E 55D 60C-60D 7F8 1802 1808 2013-2014 3001 FE10-FE11 FE13-FE14 FE31-FE32
     FE50-FE51 FE54-FE55 FE58 FE63 FF0C-FF0D FF1A-FF1B FF64"

/-- Brackets and quotation marks. -/
def closing : SetRule :=
  .union
    (anyCategory [.openPunctuation, .closePunctuation, .initialPunctuation, .finalPunctuation])
    (.ranges "22 27 275B-2760 2E00-2E01 2E06-2E08 2E0B 1F676-1F678")

/-- The classes by which a text is cut into sentences. -/
def classes : List NamedSet :=
  [⟨["cr"], carriageReturn⟩,
   ⟨["lf"], lineFeed⟩,
   ⟨["se", "sep"], separator⟩,
   ⟨["ex", "extend"], extend⟩,
   ⟨["fo", "format"], format⟩,
   ⟨["sp"], space⟩,
   ⟨["lo", "lower"], lower⟩,
   ⟨["up", "upper"], upper⟩,
   ⟨["le", "oletter"], letter⟩,
   ⟨["nu", "numeric"], numeric⟩,
   ⟨["at", "aterm"], fullStop⟩,
   ⟨["st", "sterm"], terminal⟩,
   ⟨["sc", "scontinue"], continuing⟩,
   ⟨["cl", "close"], closing⟩]

end SentenceBreak

end TypedSteps.Unicode
