import DataGrid.Pipeline.Run
/-!
Running a pipeline over values, of which any may be no document. No stage refuses such a value: it has
no fields to sort by, to project or to add to, and it is evaluated as it is. Whether documents are left
is asked behind the last stage only.
-/
namespace DataGrid

/-- The fields of a document; any other value has none. -/
def Value.fields : Value → Document
  | .object fields => fields
  | _ => []

/-- How a run over values fails: in a stage, or because of what the last stage has left. -/
inductive RunFault where
  | stage (error : StoreError)
  | nonDocument (value : Value)
  deriving DecidableEq, Repr

def RunFault.report : RunFault → StoreError
  | .stage error => error
  | .nonDocument value => .invalidExpression (.nonDocument value)

namespace Untyped

def place (keys : Sorting.Keys) (doc : Value) : List Value → List Value
  | [] => [doc]
  | other :: rest =>
      if Sorting.compareBy keys doc.fields other.fields == .gt then other :: place keys doc rest
      else doc :: other :: rest

def includeEntry (doc : Value) (out : Document) (field : String) (value : Value) :
    StoreResult Document :=
  if field = "_id" ∧ (Projection.isFlag false value || Projection.isFlag true value) then pure out
  else if Projection.isFlag false value then throw (.invalidExpression (.mixedProjection field))
  else if Projection.isFlag true value then
    match doc.get? field with
    | some existing => pure (Document.setPath out field existing)
    | none => pure out
  else do pure (Document.setPath out field (← Expression.evaluate doc value))

def project (spec : Document) (doc : Value) : StoreResult Value :=
  if Projection.isExclusion spec then pure (.object (Projection.exclude spec doc.fields))
  else .object <$> spec.foldlM (fun out entry => includeEntry doc out entry.1 entry.2)
    (Projection.keptId spec doc.fields)

def addFields (fields : Document) (doc : Value) : StoreResult Value :=
  .object <$> fields.foldlM (fun out entry => do
    pure (Document.setPath out entry.1 (← Expression.evaluate doc entry.2))) doc.fields

def entry (id : Value) (columns : List Grouping.Column) (doc : Value) :
    StoreResult Grouping.Entry := do
  let key ← Expression.evaluate doc id
  let _ ← Grouping.accumulators columns
  let operands ← columns.mapM fun column => Expression.evaluate doc column.operand
  pure ⟨key, operands⟩

def group (spec : Document) (docs : List Value) : StoreResult (List Value) :=
  match Document.get? spec "_id" with
  | none => throw (.invalidExpression .missingGroupId)
  | some id => do
      let columns ← Grouping.columns spec
      let entries ← docs.mapM (entry id columns)
      match entries with
      | [] => pure []
      | entries => do
          let accumulators ← Grouping.accumulators columns
          pure ((Grouping.buckets entries).map fun bucket =>
            .object (bucket.document (columns.zip accumulators)))

def apply (patterns : PatternCompiler) (stage : Stage) (docs : List Value) :
    StoreResult (List Value) :=
  match stage with
  | .matching predicate => keepWhere (fun doc => Predicate.holds patterns doc predicate) docs
  | .sort spec => do
      let keys ← Sorting.keys spec
      pure (docs.foldr (place keys) [])
  | .skip number => pure (docs.drop number.toNat)
  | .limit number => pure (docs.take number.toNat)
  | .project spec => docs.mapM (project spec)
  | .addFields fields => docs.mapM (addFields fields)
  | .group spec => group spec docs
  | .count name => pure (if docs.isEmpty then [] else [.single name (.int docs.length)])

def run (patterns : PatternCompiler) (pipeline : Pipeline) (docs : List Value) :
    StoreResult (List Value) :=
  pipeline.foldlM (fun docs stage => apply patterns stage docs) docs

def documents : List Value → Except RunFault (List Document)
  | [] => pure []
  | .object doc :: rest => do pure (doc :: (← documents rest))
  | other :: _ => throw (.nonDocument other)

end Untyped

end DataGrid
