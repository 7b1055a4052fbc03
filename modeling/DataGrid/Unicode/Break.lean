import DataGrid.Unicode.Property
import DataGrid.Unicode.Script
/-!
The classes that decide where a text may be broken into what a reader takes for characters, into
words, and into sentences, after Unicode, version 16. Sets that are called other are left out, for
nothing can be named by them.
-/
namespace DataGrid.Unicode

/-- Format characters that begin what follows them, and those that are tags. -/
def boundFormats : Ranges :=
  .union (Property.listed .prependedConcatenationMark) [(0xe0020, 0xe007f)]

inductive CharacterBreak where
  | carriageReturn | lineFeed | control | extend | joiner | regionalIndicator | prepend
  | spacingMark | leadingJamo | vowelJamo | trailingJamo | openSyllable | closedSyllable
  deriving DecidableEq, Repr

namespace CharacterBreak

/-- A class by its names, written without underscores and capitals. -/
def ofName? : String → Option CharacterBreak
  | "cr" => some .carriageReturn
  | "lf" => some .lineFeed
  | "control" | "cn" => some .control
  | "extend" | "ex" => some .extend
  | "zwj" => some .joiner
  | "regionalindicator" | "ri" => some .regionalIndicator
  | "prepend" | "pp" => some .prepend
  | "spacingmark" | "sm" => some .spacingMark
  | "l" => some .leadingJamo
  | "v" => some .vowelJamo
  | "t" => some .trailingJamo
  | "lv" => some .openSyllable
  | "lvt" => some .closedSyllable
  | _ => none

/-- Some syllables of Hangul without a closing consonant, which every twenty-eighth is. -/
def openSyllables (count : Nat) : Ranges :=
  (List.range count).map fun n => (0xac00 + 28 * n, 0xac00 + 28 * n)

def ranges : CharacterBreak → Ranges
  | .carriageReturn => [(0xd, 0xd)]
  | .lineFeed => [(0xa, 0xa)]
  | .control =>
      .diffAll
        (.union
          (ofCategories [.lineSeparator, .paragraphSeparator, .control, .format])
          (.diff (Property.ranges .defaultIgnorableCodePoint) (ofCategories Category.assigned)))
        [[(0xa, 0xa), (0xd, 0xd), (0x200c, 0x200d)], boundFormats]
  | .extend => .union (Property.basic .graphemeExtend) (Property.listed .emojiModifier)
  | .joiner => [(0x200d, 0x200d)]
  | .regionalIndicator => Property.listed .regionalIndicator
  | .prepend =>
      .union (Property.listed .prependedConcatenationMark)
        (.read
          "d4e 111c2-111c3 113d1 1193f 11941 11a3a 11a84-11a89 11d46 11f02")
  | .spacingMark =>
      .diffAll (.union (Category.ranges .spacingMark) (.read "e33 eb3"))
        [Property.basic .graphemeExtend,
          .read
            "102b-102c 1038 1062-1064 1067-106d 1083 1087-108c 108f 109a-109c 1a61 1a63-1a64 aa7b
             aa7d 11720-11721"]
  | .leadingJamo => .read "1100-115f a960-a97c"
  | .vowelJamo => .read "1160-11a7 d7b0-d7c6 16d63 16d67-16d6a"
  | .trailingJamo => .read "11a8-11ff d7cb-d7fb"
  | .openSyllable => openSyllables 399
  | .closedSyllable => .diff [(0xac00, 0xd7a3)] (openSyllables 399)

end CharacterBreak

inductive WordBreak where
  | carriageReturn | lineFeed | newline | extend | joiner | regionalIndicator | format | katakana
  | hebrewLetter | letter | singleQuote | doubleQuote | middleNumberLetter | middleLetter
  | middleNumber | numeric | connector | blank
  deriving DecidableEq, Repr

namespace WordBreak

/-- A class by its names, written without underscores and capitals. -/
def ofName? : String → Option WordBreak
  | "cr" => some .carriageReturn
  | "lf" => some .lineFeed
  | "newline" | "nl" => some .newline
  | "extend" => some .extend
  | "zwj" => some .joiner
  | "regionalindicator" | "ri" => some .regionalIndicator
  | "format" | "fo" => some .format
  | "katakana" | "ka" => some .katakana
  | "hebrewletter" | "hl" => some .hebrewLetter
  | "aletter" | "le" => some .letter
  | "singlequote" | "sq" => some .singleQuote
  | "doublequote" | "dq" => some .doubleQuote
  | "midnumlet" | "mb" => some .middleNumberLetter
  | "midletter" | "ml" => some .middleLetter
  | "midnum" | "mn" => some .middleNumber
  | "numeric" | "nu" => some .numeric
  | "extendnumlet" | "ex" => some .connector
  | "wsegspace" => some .blank
  | _ => none

def basic : WordBreak → Ranges
  | .carriageReturn => [(0xd, 0xd)]
  | .lineFeed => [(0xa, 0xa)]
  | .newline => .read "b-c 85 2028-2029"
  | .extend =>
      .diff
        (.unionAll
          [Property.basic .graphemeExtend, Property.listed .emojiModifier,
            Category.ranges .spacingMark])
        [(0x200d, 0x200d)]
  | .joiner => [(0x200d, 0x200d)]
  | .regionalIndicator => Property.listed .regionalIndicator
  | .format =>
      .diffAll (Category.ranges .format) [[(0x200b, 0x200d)], boundFormats]
  | .katakana => .union (Script.ranges "kana") (.read "3031-3035 309b-309c 30a0 30fc ff70")
  | .hebrewLetter => .inter (Script.ranges "hebr") (Category.ranges .otherLetter)
  | .singleQuote => [(0x27, 0x27)]
  | .doubleQuote => [(0x22, 0x22)]
  | .middleNumberLetter => .read "2e 2018-2019 2024 fe52 ff07 ff0e"
  | .middleLetter => .read "3a b7 387 55f 5f4 2027 fe13 fe55 ff1a"
  | .middleNumber => .read "2c 3b 37e 589 60c-60d 66c 7f8 2044 fe50 fe54 ff0c ff1b"
  | .numeric =>
      .union (Category.ranges .decimalNumber)
        (.read "600-605 66b 6dd 890-891 8e2 19da 110bd 110cd")
  | .connector => .union (Category.ranges .connectorPunctuation) [(0x202f, 0x202f)]
  | .blank => .diff (Category.ranges .spaceSeparator) (.read "a0 2007 202f")
  | .letter => []

/-- Letters of scripts that are written without blanks between words. -/
def unspaced : String :=
  "e01-e30 e32-e33 e40-e46 e81-e82 e84 e86-e8a e8c-ea3 ea5 ea7-eb0 eb2-eb3 ebd ec0-ec4 ec6 edc-edf
   1000-102a 103f 1050-1055 105a-105d 1061 1065-1066 106e-1070 1075-1081 108e 1780-17b3 17d7 17dc
   1950-196d 1970-1974 1980-19ab 19b0-19c9 1a20-1a54 1aa7 a9e0-a9e4 a9e6-a9ef a9fa-a9fe aa60-aa76
   aa7a aa7e-aaaf aab1 aab5-aab6 aab9-aabd aac0 aac2 aadb-aadd 11700-1171a 11740-11746"

def ranges : WordBreak → Ranges
  | .letter =>
      .union
        (.diffAll (Property.ranges .alphabetic)
          [Property.listed .ideographic, basic .katakana, Script.ranges "hira", basic .extend,
            basic .hebrewLetter, .read unspaced])
        (.read
          "2c2-2c5 2d2-2d7 2de-2df 2e5-2eb 2ed 2ef-2ff 55a-55c 55e 58a 5f3 70f a708-a716 a720-a721
           a789-a78a ab5b")
  | other => basic other

end WordBreak

inductive SentenceBreak where
  | carriageReturn | lineFeed | extend | separator | format | blank | lower | upper | otherLetter
  | numeric | fullStop | middle | terminal | closing
  deriving DecidableEq, Repr

namespace SentenceBreak

/-- A class by its names, written without underscores and capitals. -/
def ofName? : String → Option SentenceBreak
  | "cr" => some .carriageReturn
  | "lf" => some .lineFeed
  | "extend" | "ex" => some .extend
  | "sep" | "se" => some .separator
  | "format" | "fo" => some .format
  | "sp" => some .blank
  | "lower" | "lo" => some .lower
  | "upper" | "up" => some .upper
  | "oletter" | "le" => some .otherLetter
  | "numeric" | "nu" => some .numeric
  | "aterm" | "at" => some .fullStop
  | "scontinue" | "sc" => some .middle
  | "sterm" | "st" => some .terminal
  | "close" | "cl" => some .closing
  | _ => none

def basic : SentenceBreak → Ranges
  | .carriageReturn => [(0xd, 0xd)]
  | .lineFeed => [(0xa, 0xa)]
  | .extend =>
      .unionAll
        [Property.basic .graphemeExtend, Category.ranges .spacingMark, [(0x200d, 0x200d)]]
  | .separator => .read "85 2028-2029"
  | .format =>
      .union [(0x70f, 0x70f)]
        (.diffAll (Category.ranges .format) [[(0x200c, 0x200d)], boundFormats])
  | .blank =>
      .diff (Property.listed .whiteSpace) (.read "a d 85 2028-2029")
  | .lower =>
      .diffAll (Property.basic .lowercase)
        [Property.basic .graphemeExtend, .read "10d0-10fa 10fd-10ff"]
  | .upper =>
      .diff (.union (Property.basic .uppercase) (Category.ranges .titlecaseLetter))
        (.read "1c90-1cba 1cbd-1cbf")
  | .numeric =>
      .union (Category.ranges .decimalNumber)
        (.read "600-605 66b-66c 6dd 890-891 8e2 19da 110bd 110cd")
  | .fullStop => .read "2e 2024 fe52 ff0e"
  | .middle =>
      .read
        "2c-2d 3a-3b 37e 55d 60c-60d 7f8 1802 1808 2013-2014 3001 fe10-fe11 fe13-fe14 fe31-fe32
         fe50-fe51 fe54-fe55 fe58 fe63 ff0c-ff0d ff1a-ff1b ff64"
  | .terminal =>
      .diff (Property.listed .sentenceTerminal) (.read "2e 2024 fe52 ff0e")
  | .otherLetter => []
  | .closing => []

def ranges : SentenceBreak → Ranges
  | .otherLetter =>
      .union [(0x5f3, 0x5f3)]
        (.diffAll (Property.ranges .alphabetic) [basic .lower, basic .upper, basic .extend])
  | .closing =>
      .diffAll
        (.union
          (ofCategories
            [.openPunctuation, .closePunctuation, .initialPunctuation, .finalPunctuation])
          (.read "22 27 275b-2760 2e00-2e01 2e06-2e08 2e0b 1f676-1f678"))
        [basic .fullStop, basic .terminal]
  | other => basic other

end SentenceBreak

end DataGrid.Unicode
