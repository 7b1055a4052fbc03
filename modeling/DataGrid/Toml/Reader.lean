import DataGrid.Toml.Moment
import DataGrid.Toml.Word
/-!
Reading of TOML documents. A document is read line by line: a header opens a table, and the fields
after it go into that table until the next header.
-/
namespace DataGrid.Toml

namespace Scan

def number : Scan Toml := do
  let place ← place
  either ((fun _ => .dateTime place) <$> moment)
    (either ((fun _ => .float place) <$> float) (.integer place <$> integer))

/-- A value, told by its first character. Arrays and inline tables have ways of their own. -/
def valueWith (array inline : Scan Toml) : Scan Toml := do
  let place ← place
  match ← ahead with
  | '[' :: _ => array
  | '\x7b' :: _ => inline
  | '"' :: _ | '\'' :: _ => .string place <$> string
  | 't' :: _ => (fun _ => .boolean place true) <$> must (word "true".toList)
  | 'f' :: _ => (fun _ => .boolean place false) <$> must (word "false".toList)
  | 'i' :: _ => (fun _ => .float place) <$> infinity
  | 'n' :: _ => (fun _ => .float place) <$> notANumber
  | '.' :: _ => (fun _ => .float place) <$> float
  | '_' :: _ => .integer place <$> integer
  | c :: _ => if c.isDigit || c == '+' || c == '-' then number else miss
  | [] => miss

def items (value : Scan Toml) : Scan (List Toml) := do
  let item := do
    trivia
    let value ← value
    trivia
    pure value
  match ← ahead with
  | ']' :: _ => pure []
  | _ => do
      let items ← optional (do
        let items ← separated item ','
        -- a comma may stand after the last value
        let _ ← optional (mark ',')
        pure items)
      trivia
      pure (items.getD [])

def arrayOf (value : Scan Toml) : Scan Toml := do
  let place ← place
  mark '['
  let items ← must (items value)
  must (mark ']')
  pure (.array place items)

def fieldOf (value : Scan Toml) : Scan ((List Key × Key) × Toml) := do
  let key ← key
  must (mark '=')
  blanks
  let value ← must value
  pure (key, value)

/-- Fields put into a table one after another, unless they contradict each other. -/
def fieldsOf? (fields : List ((List Key × Key) × Toml)) : Option Fields :=
  (fields.foldlM (fun draft ((path, key), value) => putField path key value draft)
    (⟨false, []⟩ : Draft)).map Draft.fields

def inlineOf (value : Scan Toml) : Scan Toml := do
  let place ← place
  let field := do
    let field ← fieldOf value
    blanks
    pure field
  mark '\x7b'
  let fields ← must (checked
    (do
      let fields ← optional (separated field ',')
      blanks
      pure (fields.getD []))
    fieldsOf?)
  must (mark '\x7d')
  pure (.inline place fields)

/-- A value in which arrays and inline tables are nested as deep as `depth` says. -/
def valueIn : (depth : Nat) → Scan Toml
  | 0 => valueWith fail fail
  | depth + 1 => valueWith (arrayOf (valueIn depth)) (inlineOf (valueIn depth))

def depthLimit : Nat := 79

def fieldLine : Scan ((List Key × Key) × Toml) := do
  let field ← fieldOf (valueIn depthLimit)
  must trailing
  pure field

def headerLine : Scan (Bool × List Key × Key) := do
  -- two brackets open an element of an array of tables
  let isElement ← match ← ahead with
    | [_] => miss
    | '[' :: '[' :: _ => pure true
    | _ => pure false
  let brackets := fun (c : Char) => word (if isElement then [c, c] else [c])
  brackets '['
  let key ← must key
  must (brackets ']')
  must trailing
  pure (isElement, key)

/-- The table at the path of a header opened. -/
def openAt (place : Nat) (header : Bool × List Key × Key) (draft : Draft) : Option Draft :=
  let (isElement, path, key) := header
  changeAt false (if isElement then openElement place key else openTable place key) path draft

/-- The lines of a document, so many at most, with the path of the last header. -/
def lines : (fuel : Nat) → (header : List Key) → Draft → Scan Fields
  | 0, _, _ => fail
  | fuel + 1, header, draft => do
      match ← ahead with
      | [] => pure draft.fields
      | '#' :: _ => do
          comment
          lineEnd
          blanks
          lines fuel header draft
      | '[' :: _ => do
          let place ← place
          let (path, opened) ← checked headerLine fun line =>
            (openAt place line draft).map fun draft => (line.2.1 ++ [line.2.2], draft)
          blanks
          lines fuel path opened
      | '\n' :: _ | '\r' :: _ => do
          -- a return alone ends no line
          either newline fail
          blanks
          lines fuel header draft
      | _ => do
          let draft ← checked fieldLine fun ((path, key), value) =>
            putUnder header path key value draft
          blanks
          lines fuel header draft

def document : Scan Fields := do
  let _ ← optional (mark '\ufeff')
  blanks
  let text ← ahead
  lines (text.length + 1) [] ⟨false, []⟩

end Scan

def read (text : String) : Except Nat Fields :=
  match Scan.document text.toList with
  | .done fields _ => .ok fields
  | .miss rest | .fail rest => .error rest.length

/-- The line and the column, both counted from 1, where so much of a text is left. -/
def position (text : String) (left : Nat) : Nat × Nat :=
  let characters := text.toList
  let index := characters.length - left
  -- the end of the text counts as one behind its last character
  let seen := characters.take (min index (characters.length - 1))
  let inLine := seen.reverse.takeWhile (· ≠ '\n')
  let column := match characters.drop index with
    | c :: _ =>
        -- before a character of several bytes the column counts bytes
        if c.utf8Size = 1 then inLine.length else (String.ofList inLine).utf8ByteSize
    | [] => inLine.length + (index - seen.length)
  (seen.count '\n' + 1, column + 1)

end DataGrid.Toml
