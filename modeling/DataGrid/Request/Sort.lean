import DataGrid.Group.Shape
/-!
Sort keys, paging and selected fields of a request as stages.
-/
namespace DataGrid

structure SortKey where
  selector : String
  descending : Bool
  deriving DecidableEq, Repr

namespace SortKey

/-- A path that comes again keeps its first place and takes the last direction. -/
def stages (sort : List SortKey) : Pipeline :=
  if sort.isEmpty then []
  else
    [.sort (Document.ofFields
      (sort.map fun key => (key.selector, GroupShape.direction key.descending)))]

end SortKey

namespace Paging

def positive (number : Option UInt64) : Option UInt64 := number.filter (· > 0)

def stages (skip take : Option UInt64) : Pipeline :=
  ((positive skip).map .skip).toList ++ ((positive take).map .limit).toList

end Paging

namespace Select

def stages (select : List String) : Pipeline :=
  if select.isEmpty then []
  else [.project (Document.ofFields (select.map fun path => (path, Term.field path)))]

end Select

end DataGrid
