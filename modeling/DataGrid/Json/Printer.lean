import DataGrid.Value
import DataGrid.Double.Shortest
/-!
The JSON text of a value: compact, or laid out over lines with two blanks for each level. Text
beyond ASCII stands for itself; only the quote, the backslash and control characters are escaped.
-/
namespace DataGrid.Json

def hexDigit (n : Nat) : Char := (Nat.toDigits 16 n).headD '0'

def escape (c : Char) : List Char :=
  match c with
  | '"' => ['\\', '"']
  | '\\' => ['\\', '\\']
  | '\n' => ['\\', 'n']
  | '\r' => ['\\', 'r']
  | '\t' => ['\\', 't']
  | '\x08' => ['\\', 'b']
  | '\x0c' => ['\\', 'f']
  | c =>
      if c.toNat < 32 then
        ['\\', 'u', '0', '0', hexDigit (c.toNat / 16), hexDigit (c.toNat % 16)]
      else [c]

def quoted (text : String) : String :=
  String.ofList ('"' :: text.toList.flatMap escape ++ ['"'])

def commaSeparated : List String → String
  | [] => ""
  | [last] => last
  | first :: rest => first ++ "," ++ commaSeparated rest

mutual

def compact : Value → String
  | .null => "null"
  | .bool true => "true"
  | .bool false => "false"
  | .int n => toString n
  | .double x => x.toText
  | .string text => quoted text
  | .array items => "[" ++ commaSeparated (compactItems items) ++ "]"
  | .object fields => "\x7b" ++ commaSeparated (compactFields fields) ++ "\x7d"

def compactItems : List Value → List String
  | [] => []
  | item :: rest => compact item :: compactItems rest

def compactFields : List (String × Value) → List String
  | [] => []
  | (key, value) :: rest => (quoted key ++ ":" ++ compact value) :: compactFields rest

end

def newLine (level : Nat) : String := String.ofList ('\n' :: List.replicate (2 * level) ' ')

/-- Entries on lines of their own between two brackets; nothing stands between the brackets of an
empty container. -/
def block (openBracket closeBracket : String) (level : Nat) (entries : List String) : String :=
  if entries.isEmpty then openBracket ++ closeBracket
  else openBracket ++ commaSeparated (entries.map (newLine (level + 1) ++ ·)) ++
    newLine level ++ closeBracket

mutual

def prettyAt (level : Nat) : Value → String
  | .array items => block "[" "]" level (prettyItems (level + 1) items)
  | .object fields => block "\x7b" "\x7d" level (prettyFields (level + 1) fields)
  | scalar => compact scalar

def prettyItems (level : Nat) : List Value → List String
  | [] => []
  | item :: rest => prettyAt level item :: prettyItems level rest

def prettyFields (level : Nat) : List (String × Value) → List String
  | [] => []
  | (key, value) :: rest =>
      (quoted key ++ ": " ++ prettyAt level value) :: prettyFields level rest

end

def pretty (value : Value) : String := prettyAt 0 value

end DataGrid.Json
