/-!
Why a text is no pattern, by cause, and the wording of each cause.
-/
namespace DataGrid.Pattern

inductive Fault where
  | backReference
  | lookAround
  | classUnclosed
  | classEscape
  | classRange
  | classRangeEnd
  | countEmpty
  | countTooLarge
  | countUnclosed
  | countDecreasing
  | nothingToRepeat
  | escapeUnfinished
  | escapeUnknown
  | hexEmpty
  | hexDigit
  | hexCharacter
  | propertyUnknown
  | propertyUnnamed
  | flagUnfinished
  | flagUnknown
  | flagRepeated
  | flagNegationRepeated
  | flagNegationDangling
  | nameUnfinished
  | nameEmpty
  | nameInvalid
  | nameRepeated
  | groupUnclosed
  | groupUnopened
  | boundaryUnclosed
  | boundaryUnknown
  | beyondAscii
  | tooDeep
  | tooLarge
  deriving DecidableEq, Repr

/-- How many groups, classes and repetitions may stand inside one another. -/
def depthLimit : Nat := 250

/-- How large a pattern may grow when its counted repetitions are written out. -/
def sizeLimit : Nat := 10485760

def Fault.reason : Fault → String
  | .backReference => "backreferences are not supported"
  | .lookAround => "look-around, including look-ahead and look-behind, is not supported"
  | .classUnclosed => "unclosed character class"
  | .classEscape => "invalid escape sequence found in character class"
  | .classRange => "invalid character class range, the start must be <= the end"
  | .classRangeEnd => "invalid range boundary, must be a literal"
  | .countEmpty => "repetition quantifier expects a valid decimal"
  | .countTooLarge => "decimal literal invalid"
  | .countUnclosed => "unclosed counted repetition"
  | .countDecreasing => "invalid repetition count range, the start must be <= the end"
  | .nothingToRepeat => "repetition operator missing expression"
  | .escapeUnfinished => "incomplete escape sequence, reached end of pattern prematurely"
  | .escapeUnknown => "unrecognized escape sequence"
  | .hexEmpty => "hexadecimal literal empty"
  | .hexDigit => "invalid hexadecimal digit"
  | .hexCharacter => "hexadecimal literal is not a Unicode scalar value"
  | .propertyUnknown => "Unicode property not found"
  | .propertyUnnamed => "invalid Unicode character class"
  | .flagUnfinished => "expected flag but got end of regex"
  | .flagUnknown => "unrecognized flag"
  | .flagRepeated => "duplicate flag"
  | .flagNegationRepeated => "flag negation operator repeated"
  | .flagNegationDangling => "dangling flag negation operator"
  | .nameUnfinished => "unclosed capture group name"
  | .nameEmpty => "empty capture group name"
  | .nameInvalid => "invalid capture group character"
  | .nameRepeated => "duplicate capture group name"
  | .groupUnclosed => "unclosed group"
  | .groupUnopened => "unopened group"
  | .boundaryUnclosed => "special word boundary assertion is unclosed or has an invalid character"
  | .boundaryUnknown => "unrecognized special word boundary assertion"
  | .beyondAscii => "pattern can match beyond ASCII while Unicode is switched off"
  | .tooDeep => "exceeded the maximum number of nested parentheses/brackets (250)"
  | .tooLarge => "Compiled regex exceeds size limit of 10485760 bytes."

/-- A pattern that is too large can be read; every other one is shown below the heading. -/
def Fault.message (fault : Fault) (pattern : String) : String :=
  match fault with
  | .tooLarge => fault.reason
  | fault => "regex parse error:\n    " ++ pattern ++ "\nerror: " ++ fault.reason

end DataGrid.Pattern
