import DataGrid.Pipeline.Grouping
import DataGrid.Pipeline.Projection
import DataGrid.Pipeline.Stage
import DataGrid.Store.Predicate
/-!
Running a pipeline over a list of documents, stage after stage.
-/
namespace DataGrid

namespace Sorting

/-- Keys in order of weight, each with whether it runs downward. -/
abbrev Keys := List (String × Bool)

def keys : Document → StoreResult Keys
  | [] => pure []
  | (field, direction) :: rest => do
      let descending ← match direction.int64? with
        | some 1 => pure false
        | some (-1) => pure true
        | _ => throw (.invalidExpression (.sortDirection field))
      let others ← keys rest
      pure ((field, descending) :: others)

/-- A missing path counts as null. -/
def compareAt (path : String) (a b : Document) : Ordering :=
  (((Value.object a).get? path).getD .null).compare (((Value.object b).get? path).getD .null)

def compareBy : Keys → Document → Document → Ordering
  | [], _, _ => .eq
  | (path, descending) :: rest, a, b =>
      let order := compareAt path a b
      (if descending then order.swap else order).then (compareBy rest a b)

/-- Places a document ahead of the first one that it does not come after. -/
def place (keys : Keys) (doc : Document) : List Document → List Document
  | [] => [doc]
  | other :: rest =>
      if compareBy keys doc other == .gt then other :: place keys doc rest
      else doc :: other :: rest

/-- Documents that are equal under every key stay in their order. -/
def sort (keys : Keys) (docs : List Document) : List Document := docs.foldr (place keys) []

end Sorting

/-- The items that satisfy a test, up to the first error. -/
def keepWhere {α : Type} (test : α → StoreResult Bool) : List α → StoreResult (List α)
  | [] => pure []
  | item :: rest => do
      let kept ← test item
      let others ← keepWhere test rest
      pure (if kept then item :: others else others)

namespace Stage

def apply (patterns : PatternCompiler) (stage : Stage) (docs : List Document) :
    StoreResult (List Document) :=
  match stage with
  | .matching predicate =>
      keepWhere (fun doc => Predicate.holds patterns (.object doc) predicate) docs
  | .sort spec => do pure (Sorting.sort (← Sorting.keys spec) docs)
  | .skip number => pure (docs.drop number.toNat)
  | .limit number => pure (docs.take number.toNat)
  | .project spec => docs.mapM (Projection.project spec)
  | .addFields fields => docs.mapM fun doc => Projection.addFields doc doc fields
  | .group spec => Grouping.group spec docs
  -- counting no documents yields no document at all
  | .count name => pure (if docs.isEmpty then [] else [[(name, .int docs.length)]])

end Stage

namespace Pipeline

def run (patterns : PatternCompiler) : Pipeline → List Document → StoreResult (List Document)
  | [], docs => pure docs
  | stage :: rest, docs => do run patterns rest (← stage.apply patterns docs)

end Pipeline

end DataGrid
