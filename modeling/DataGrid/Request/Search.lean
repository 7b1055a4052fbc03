import DataGrid.Value
/-!
Searches: one condition on one field, or the same condition on several fields of which one has to
meet it.
-/
namespace DataGrid

inductive SearchFields where
  | one (field : String)
  | several (fields : List String)
  deriving DecidableEq, Repr

structure Search where
  fields : SearchFields
  operation : String
  operand : Value
  deriving DecidableEq, Repr

namespace Search

def condition (search : Search) (field : String) : Value :=
  .array [.string field, .string search.operation, search.operand]

def alternatives : List Value → List Value
  | [] => []
  | [last] => [last]
  | condition :: rest => condition :: .string "or" :: alternatives rest

/-- The search spelled as a filter. It is incomplete without fields, operation or operand. -/
def toFilter? (search : Search) : Option Value :=
  if search.operation = "" ∨ search.operand.isNull then none
  else
    match search.fields with
    | .one field => if field = "" then none else some (search.condition field)
    | .several fields =>
        if fields.isEmpty then none
        else some (.array (alternatives (fields.map search.condition)))

/-- A filter and a search that both have to hold; a filter of null counts as none. -/
def combine? (filter : Option Value) (search : Option Search) : Option Value :=
  match filter.filter (fun value => !value.isNull), search.bind toFilter? with
  | some filter, some search => some (.array [filter, .string "and", search])
  | some filter, none => some filter
  | none, search => search

end Search

end DataGrid
