import DataGrid.Group.Key
/-!
The group stage of a level and the shape of its entries: a key, a count unless it is known from
elsewhere, and items, which are null unless rows are asked for. Entries are sorted by key.
-/
namespace DataGrid

/-- Without a row form, whole rows are collected. -/
structure GroupShape where
  descending : Bool
  withItems : Bool
  countedElsewhere : Bool
  rowForm : Option Document
  deriving DecidableEq, Repr

namespace GroupShape

/-- The row form of selected fields: `_id` and the fields; none where nothing is selected. -/
def rowForm? (select : List String) : Option Document :=
  if select.isEmpty then none
  else some (Document.ofFields (("_id" :: select).map fun path => (path, Term.field path)))

def direction (descending : Bool) : Value := .int (if descending then -1 else 1)

def collected (shape : GroupShape) : Value :=
  match shape.rowForm with
  | some form => .object form
  | none => .string "$$CURRENT"

def groupSpec (shape : GroupShape) (key : GroupKey) : Document :=
  [("_id", Term.field key.field)] ++
    (if shape.countedElsewhere then [] else [("count", .single "$sum" (.int 1))]) ++
    (if shape.withItems then [("items", .single "$push" shape.collected)] else [])

def entryForm (shape : GroupShape) : Document :=
  [("_id", .int 0), ("key", .string "$_id")] ++
    (if shape.countedElsewhere then [] else [("count", .int 1)]) ++
    [("items", if shape.withItems then .int 1 else .single "$literal" .null)]

def stages (shape : GroupShape) (key : GroupKey) : Pipeline :=
  [.group (shape.groupSpec key), .project shape.entryForm,
    .sort [("key", direction shape.descending)]]

end GroupShape

end DataGrid
