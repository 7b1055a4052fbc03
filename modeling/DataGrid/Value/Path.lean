import DataGrid.Value
import DataGrid.Text.Word
/-!
Dotted paths. A path is read segment by segment: only objects are entered, and an empty segment is
a key like any other. Writing makes the objects it needs on the way and replaces what is none.
-/
namespace DataGrid

namespace Path

def segments (path : String) : List String := (Text.pieces '.' path.toList).map String.ofList

/-- The text before the first dot and the text after it. -/
def splitFirst (path : String) : Option (String × String) :=
  match path.toList.span (· ≠ '.') with
  | (head, _ :: rest) => some (String.ofList head, String.ofList rest)
  | (_, []) => none

end Path

namespace Value

def descend : Value → List String → Option Value
  | value, [] => some value
  | .object fields, segment :: rest =>
      (Document.get? fields segment).bind fun inner => descend inner rest
  | _, _ :: _ => none

def get? (value : Value) (path : String) : Option Value := descend value (Path.segments path)

end Value

namespace Document

def putIn : Document → List String → Value → Document
  | doc, [], _ => doc
  | doc, [segment], value => put doc segment value
  | doc, segment :: next :: rest, value =>
      let inner := match get? doc segment with
        | some (.object fields) => fields
        -- what is no object gives way to one
        | _ => []
      put doc segment (.object (putIn inner (next :: rest) value))

def removeIn : Document → List String → Document
  | doc, [] => doc
  | doc, [segment] => remove doc segment
  | doc, segment :: next :: rest =>
      match get? doc segment with
      | some (.object fields) => put doc segment (.object (removeIn fields (next :: rest)))
      -- there is nothing inside what is no object
      | _ => doc

def setPath (doc : Document) (path : String) (value : Value) : Document :=
  putIn doc (Path.segments path) value

def removePath (doc : Document) (path : String) : Document :=
  removeIn doc (Path.segments path)

end Document

end DataGrid
