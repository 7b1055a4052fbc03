import DataGrid.Store.Error
/-!
How a load call can fail: the store refuses a pipeline, or answers with documents of another shape
than the pipeline asks for.
-/
namespace DataGrid

inductive Malformed where
  | countMissing (field : String)
  | groupCountMissing
  | itemsMissing
  | itemsKind (items : Value)
  | itemKind (item : Value)
  deriving DecidableEq, Repr

def Malformed.message : Malformed → String
  | .countMissing field => "count result without " ++ field
  | .groupCountMissing => "group without count"
  | .itemsMissing => "expanded group without items"
  | .itemsKind items => "group items is not an array: " ++ Json.compact items
  | .itemKind item => "group item is not a document: " ++ Json.compact item

inductive LoadError where
  | store (error : StoreError)
  | malformed (fault : Malformed)
  deriving DecidableEq, Repr

def LoadError.message : LoadError → String
  | .store error => "Store error: " ++ error.message
  | .malformed fault => "Malformed result: " ++ fault.message

end DataGrid
