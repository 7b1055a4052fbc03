import DataGrid.Unicode.Property
/-!
What is said about files: why one cannot be read, and how a path is quoted.
-/
namespace DataGrid.CommandLine

inductive FileFault where
  | missing
  | denied
  | noFolder
  | isFolder
  | nameTooLong
  | noText
  | other (reason : String)
  deriving DecidableEq, Repr

namespace FileFault

def ofCode? : Nat → Option FileFault
  | 2 => some .missing
  | 13 => some .denied
  | 20 => some .noFolder
  | 21 => some .isFolder
  | 36 => some .nameTooLong
  | _ => none

def reason : FileFault → String
  | .missing => "No such file or directory (os error 2)"
  | .denied => "Permission denied (os error 13)"
  | .noFolder => "Not a directory (os error 20)"
  | .isFolder => "Is a directory (os error 21)"
  | .nameTooLong => "File name too long (os error 36)"
  | .noText => "stream did not contain valid UTF-8"
  | .other reason => reason

end FileFault

open Unicode

/-- Characters that show by themselves. The only blank among them is the space. -/
def isShown (c : Char) : Bool :=
  c == ' ' ||
    ((ofCategories (Category.letters ++ Category.marks ++ Category.numbers ++
        Category.punctuation ++ Category.symbols)).holds c.toNat &&
      !(Property.ranges .graphemeExtend).holds c.toNat)

def quotedChar (c : Char) : List Char :=
  match c with
  | '\x00' => ['\\', '0']
  | '\t' => ['\\', 't']
  | '\n' => ['\\', 'n']
  | '\r' => ['\\', 'r']
  | '"' => ['\\', '"']
  | '\\' => ['\\', '\\']
  | c => if isShown c then [c] else ['\\', 'u', '\x7b'] ++ Nat.toDigits 16 c.toNat ++ ['\x7d']

def quotedPath (path : String) : String :=
  "\"" ++ String.ofList (path.toList.flatMap quotedChar) ++ "\""

end DataGrid.CommandLine
