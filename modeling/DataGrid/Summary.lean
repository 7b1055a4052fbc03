import DataGrid.Pipeline.Stage
import DataGrid.Pipeline.Term
/-!
Summaries over a set of documents. All of them are computed by one group stage, each under a name
made of its kind and its selector, and read back by position.
-/
namespace DataGrid

inductive SummaryKind where
  | total | average | least | greatest | number
  deriving DecidableEq, Repr

namespace SummaryKind

def name : SummaryKind → String
  | .total => "sum"
  | .average => "avg"
  | .least => "min"
  | .greatest => "max"
  | .number => "count"

def ofName? : String → Option SummaryKind
  | "sum" => some .total
  | "avg" => some .average
  | "min" => some .least
  | "max" => some .greatest
  | "count" => some .number
  | _ => none

end SummaryKind

/-- A summary as it is asked for: a kind by name, and the path it is taken over. -/
structure Summary where
  kind : String
  selector : Option String
  deriving DecidableEq, Repr

namespace Summary

def accumulator? (summary : Summary) : Option (String × Value) :=
  match SummaryKind.ofName? summary.kind with
  | none => none
  -- counting needs no selector
  | some .number => some ("___count", .single "$sum" (.int 1))
  | some kind => summary.selector.map fun selector =>
      ("___" ++ kind.name ++ selector, .single ("$" ++ kind.name) (Term.field selector))

def accumulatorName? (summary : Summary) : Option String := summary.accumulator?.map Prod.fst

def stages (summaries : List Summary) : Pipeline :=
  if summaries.isEmpty then []
  -- all documents are one group, under the key null
  else [.group (Document.ofFields (("_id", .null) :: summaries.filterMap accumulator?))]

/-- One value for each summary: null where the result has none. -/
def read (summaries : List Summary) (result : Document) : List Value :=
  summaries.map fun summary => ((summary.accumulatorName?).bind result.get?).getD .null

end Summary

end DataGrid
