import DataGrid.Group.Interval
import DataGrid.Pipeline.Stage
import DataGrid.Request.Search
import DataGrid.Request.Sort
import DataGrid.Summary
/-!
Load requests of a grid and the options of a call. A search comes as one record or spread over three
fields of the request; the record goes first.
-/
namespace DataGrid

/-- One level of grouping. Rows are returned on the deepest level alone, and only when it is
expanded. -/
structure GroupLevel where
  selector : String
  descending : Bool := false
  expanded : Bool := false
  interval : Option Interval := none
  deriving DecidableEq, Repr

structure Request where
  filter : Option Value := none
  search : Option Search := none
  searchFields : Option SearchFields := none
  searchOperation : Option String := none
  searchOperand : Option Value := none
  sort : List SortKey := []
  group : List GroupLevel := []
  select : List String := []
  skip : Option UInt64 := none
  take : Option UInt64 := none
  totalCount : Bool := false
  groupCount : Bool := false
  totalSummary : List Summary := []
  groupSummary : List Summary := []
  deriving DecidableEq, Repr

namespace Request

def effectiveSearch? (request : Request) : Option Search :=
  request.search.or do
    some ⟨← request.searchFields, ← request.searchOperation, request.searchOperand.getD .null⟩

def isGrouped (request : Request) : Bool := !request.group.isEmpty

/-- A total summary is asked for only where something matched, so it needs the count. -/
def needsTotalCount (request : Request) : Bool :=
  request.totalCount || !request.totalSummary.isEmpty

end Request

/-- The offset is UTC less local time, in minutes. The stages of `before` open every pipeline. -/
structure Options where
  replaceIds : Bool := true
  summaryLimit : Nat := 100
  offset : Int := 0
  ignoreCase : Bool := true
  before : Pipeline := []
  deriving DecidableEq, Repr

end DataGrid
