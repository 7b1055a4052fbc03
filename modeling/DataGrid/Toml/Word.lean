import DataGrid.Json.Reader
import DataGrid.Toml.Basic
import DataGrid.Toml.Scan
/-!
The words of a TOML text: blanks, comments, line ends, strings and keys.
-/
namespace DataGrid.Toml.Scan

def isBlank (c : Char) : Bool := c == ' ' || c == '\t'

/-- The characters of comments and strings: no control characters but the tabulator. -/
def isPrintable (c : Char) : Bool := c == '\t' || (32 ≤ c.toNat && c.toNat ≠ 127)

def blanks : Scan Unit := (fun _ => ()) <$> run isBlank

def newline : Scan Unit := fun text =>
  match text with
  | '\n' :: rest => .done () rest
  | '\r' :: '\n' :: rest => .done () rest
  -- it is read before it is refused
  | _ :: rest => .miss rest
  | [] => .miss []

def comment : Scan Unit := do
  mark '#'
  (fun _ => ()) <$> run isPrintable

def textEnd : Scan Unit := fun text => if text.isEmpty then .done () text else .miss text

def lineEnd : Scan Unit := either newline textEnd

def trailing : Scan Unit := do
  blanks
  let _ ← optional comment
  lineEnd

/-- Blanks, comments and line ends over several lines, so many lines at most. -/
def triviaUpTo : (fuel : Nat) → Scan Unit
  | 0 => pure ()
  | fuel + 1 => do
      blanks
      match ← ahead with
      | '#' :: _ => do
          comment
          newline
          triviaUpTo fuel
      | '\n' :: _ | '\r' :: _ => do
          newline
          triviaUpTo fuel
      | _ => pure ()

def trivia : Scan Unit := fun text => triviaUpTo (text.length + 1) text

def isScalar (n : Nat) : Bool := n < 0xd800 || (0xe000 ≤ n && n < 0x110000)

def hexEscape (digits : Nat) : Scan Char :=
  checked (exactly digits fun c => (Json.hexValue? c).isSome) fun word =>
    let n := word.foldl (fun sum c => sum * 16 + (Json.hexValue? c).getD 0) 0
    if isScalar n then some (Char.ofNat n) else none

def noEscape (c : Char) : Scan Char := fun text =>
  -- only letters of one byte count as read
  .fail (if c.utf8Size = 1 then text else c :: text)

def escape : Scan Char := do
  mark '\\'
  match ← one fun _ => true with
  | 'b' => pure '\x08'
  | 't' => pure '\t'
  | 'n' => pure '\n'
  | 'f' => pure '\x0c'
  | 'r' => pure '\r'
  | '"' => pure '"'
  | '\\' => pure '\\'
  | 'u' => must (hexEscape 4)
  | 'U' => must (hexEscape 8)
  | c => noEscape c

/-- Characters that stand for themselves in a string with escapes. -/
def isPlain (c : Char) : Bool := isPrintable c && c != '"' && c != '\\'

def basicString : Scan (List Char) := do
  mark '"'
  let pieces ← many (either (run1 isPlain) ((fun c => [c]) <$> escape))
  must (mark '"')
  pure pieces.flatten

def literalString : Scan (List Char) := do
  mark '\''
  let inside ← run fun c => isPrintable c && c != '\''
  must (mark '\'')
  pure inside

/-- A backslash at the end of a line, with all blanks and line ends behind it. -/
def continuation : Scan Unit := do
  mark '\\'
  blanks
  newline
  let _ ← many (either newline ((fun _ => ()) <$> run1 isBlank))

def longString (quote : Char) (content : Scan (List Char)) : Scan (List Char) := do
  let delimiter := word [quote, quote, quote]
  -- one or two quotes may stand inside and just before the end
  let quotes := fun (next : Scan Unit) =>
    let before := fun (inside : List Char) => do
      word inside
      peek next
      pure inside
    either (before [quote, quote]) (before [quote])
  delimiter
  let _ ← optional newline
  let start ← many content
  let more ← many (do
    let inside ← quotes ((fun _ => ()) <$> content)
    let first ← content
    let more ← many content
    pure (inside ++ first ++ more.flatten))
  let last ← optional (quotes delimiter)
  must delimiter
  pure (start.flatten ++ more.flatten ++ last.getD [])

def lineBreak : Scan (List Char) := (fun _ => ['\n']) <$> newline

def longBasicString : Scan (List Char) :=
  longString '"'
    (either (run1 isPlain)
      (either ((fun _ => []) <$> continuation) (either ((fun c => [c]) <$> escape) lineBreak)))

def longLiteralString : Scan (List Char) :=
  longString '\'' (either (run1 fun c => isPrintable c && c != '\'') lineBreak)

def string : Scan String :=
  String.ofList <$>
    either longBasicString (either basicString (either longLiteralString literalString))

def isBareKey (c : Char) : Bool := c.isAlphanum || c == '-' || c == '_'

/-- One key: bare, or a string on one line. -/
def simpleKey : Scan Key := do
  let place ← place
  let name ← match ← ahead with
    | '"' :: _ => basicString
    | '\'' :: _ => literalString
    | _ => run1 isBareKey
  pure ⟨place, String.ofList name⟩

/-- The length that a path of dotted keys stays below. -/
def pathLimit : Nat := 80

/-- Keys with dots between them: those on the way and the last one. -/
def key : Scan (List Key × Key) :=
  let spaced := do
    blanks
    let key ← simpleKey
    blanks
    pure key
  checked (separated spaced '.') fun keys =>
    if keys.length < pathLimit then keys.getLast?.map fun last => (keys.dropLast, last) else none

end DataGrid.Toml.Scan
