import DataGrid.Json.Number
/-!
Reading of JSON text. A repeated key of an object keeps its first place and takes the last value.
Containers may be nested 127 deep. A text holds one value with blanks around it.
-/
namespace DataGrid.Json

def isBlank (c : Char) : Bool := c == ' ' || c == '\n' || c == '\t' || c == '\r'

def dropBlanks (text : List Char) : List Char := text.dropWhile isBlank

def hexValue? (c : Char) : Option Nat :=
  if c.isDigit then some (c.toNat - '0'.toNat)
  else if 'a' ≤ c ∧ c ≤ 'f' then some (c.toNat - 'a'.toNat + 10)
  else if 'A' ≤ c ∧ c ≤ 'F' then some (c.toNat - 'A'.toNat + 10)
  else none

def codeUnit : List Char → Option (Nat × List Char)
  | a :: b :: c :: d :: rest => do
      let high := (← hexValue? a) * 16 + (← hexValue? b)
      let low := (← hexValue? c) * 16 + (← hexValue? d)
      some (high * 256 + low, rest)
  | _ => none

/-- The character of a `\u` escape: a code unit, or a surrogate pair of two escapes. -/
def unicodeEscape (text : List Char) : Option (Char × List Char) := do
  let (unit, rest) ← codeUnit text
  if 0xd800 ≤ unit ∧ unit < 0xdc00 then
    match rest with
    | '\\' :: 'u' :: rest =>
        let (low, rest) ← codeUnit rest
        if 0xdc00 ≤ low ∧ low < 0xe000 then
          some (Char.ofNat (0x10000 + (unit - 0xd800) * 1024 + (low - 0xdc00)), rest)
        else none
    | _ => none
  else if 0xdc00 ≤ unit ∧ unit < 0xe000 then none
  else some (Char.ofNat unit, rest)

def simpleEscape : Char → Option Char
  | '"' => some '"'
  | '\\' => some '\\'
  | '/' => some '/'
  | 'b' => some '\x08'
  | 'f' => some '\x0c'
  | 'n' => some '\n'
  | 'r' => some '\r'
  | 't' => some '\t'
  | _ => none

/-- The characters before the closing quote, escapes not yet resolved, and the text after it. -/
def quotedPart : List Char → Option (List Char × List Char)
  | [] => none
  | '"' :: rest => some ([], rest)
  | '\\' :: c :: rest => (quotedPart rest).map fun (inside, after) => ('\\' :: c :: inside, after)
  | c :: rest => (quotedPart rest).map fun (inside, after) => (c :: inside, after)

def unescape : (fuel : Nat) → List Char → Option (List Char)
  | 0, text => if text.isEmpty then some [] else none
  | fuel + 1, text =>
      match text with
      | [] => some []
      | '\\' :: 'u' :: rest => do
          let (c, rest) ← unicodeEscape rest
          (unescape fuel rest).map (c :: ·)
      | '\\' :: mark :: rest => do
          let c ← simpleEscape mark
          (unescape fuel rest).map (c :: ·)
      -- control characters have to be escaped
      | c :: rest => if c.toNat < 32 then none else (unescape fuel rest).map (c :: ·)

def readString (text : List Char) : Option (String × List Char) := do
  let (inside, rest) ← quotedPart text
  let characters ← unescape inside.length inside
  some (String.ofList characters, rest)

mutual

def readValue : (fuel depth : Nat) → List Char → Option (Value × List Char)
  | 0, _, _ => none
  | fuel + 1, depth, text =>
      match dropBlanks text, depth with
      | 'n' :: 'u' :: 'l' :: 'l' :: rest, _ => some (.null, rest)
      | 't' :: 'r' :: 'u' :: 'e' :: rest, _ => some (.bool true, rest)
      | 'f' :: 'a' :: 'l' :: 's' :: 'e' :: rest, _ => some (.bool false, rest)
      | '"' :: rest, _ => (readString rest).map fun (text, rest) => (.string text, rest)
      -- the depth is used up
      | '[' :: _, 0 => none
      | '\x7b' :: _, 0 => none
      | '[' :: rest, depth + 1 =>
          match dropBlanks rest with
          | ']' :: rest => some (.array [], rest)
          | rest => (readItems fuel depth rest).map fun (items, rest) => (.array items, rest)
      | '\x7b' :: rest, depth + 1 =>
          match dropBlanks rest with
          | '\x7d' :: rest => some (.object [], rest)
          | rest => (readFields fuel depth rest).map fun (fields, rest) =>
              (.object (Document.ofFields fields), rest)
      | text, _ => do
          let (numeral, rest) ← Numeral.read text
          let value ← numeral.toValue
          some (value, rest)

def readItems : (fuel depth : Nat) → List Char → Option (List Value × List Char)
  | 0, _, _ => none
  | fuel + 1, depth, text => do
      let (item, rest) ← readValue fuel depth text
      match dropBlanks rest with
      | ',' :: rest => (readItems fuel depth rest).map fun (items, rest) => (item :: items, rest)
      | ']' :: rest => some ([item], rest)
      | _ => none

def readFields : (fuel depth : Nat) → List Char → Option (List (String × Value) × List Char)
  | 0, _, _ => none
  | fuel + 1, depth, text =>
      match dropBlanks text with
      | '"' :: rest => do
          let (key, rest) ← readString rest
          match dropBlanks rest with
          | ':' :: rest => do
              let (value, rest) ← readValue fuel depth rest
              match dropBlanks rest with
              | ',' :: rest =>
                  (readFields fuel depth rest).map fun (fields, rest) =>
                    ((key, value) :: fields, rest)
              | '\x7d' :: rest => some ([(key, value)], rest)
              | _ => none
          | _ => none
      | _ => none

end

def read? (text : String) : Option Value := do
  -- each value and each item takes a character at least, so that the fuel is never used up
  let (value, rest) ← readValue (2 * text.length + 2) 127 text.toList
  if (dropBlanks rest).isEmpty then some value else none

end DataGrid.Json
