import DataGrid.Store.Expression
/-!
Reshaping of one document. A projection whose entries beside `_id` are all off removes the paths
that are off; any other builds a new document from the paths that are on and from expressions.
-/
namespace DataGrid.Projection

/-- Whether a value stands for on or off: a truth value, or a number other than zero or zero. -/
def isFlag (flag : Bool) : Value → Bool
  | .bool truth => truth == flag
  | .int n => !(Double.ofInt n).isZero == flag
  | .double x => !x.isZero == flag
  | _ => false

def isExclusion (spec : Document) : Bool :=
  spec.all fun entry => entry.1 == "_id" || isFlag false entry.2

def exclude (spec doc : Document) : Document :=
  (spec.filter fun entry => isFlag false entry.2).foldl
    (fun out entry => Document.removePath out entry.1) doc

/-- The stored `_id`, which comes first unless it is turned off. -/
def keptId (spec doc : Document) : Document :=
  match Document.get? spec "_id", Document.get? doc "_id" with
  | _, none => []
  | none, some id => [("_id", id)]
  | some value, some id => if isFlag false value then [] else [("_id", id)]

def includeEntry (doc out : Document) (field : String) (value : Value) : StoreResult Document :=
  -- settled by `keptId` already
  if field = "_id" ∧ (isFlag false value || isFlag true value) then pure out
  else if isFlag false value then throw (.invalidExpression (.mixedProjection field))
  else if isFlag true value then
    -- a path that is on is copied when it exists
    match (Value.object doc).get? field with
    | some existing => pure (Document.setPath out field existing)
    | none => pure out
  else do pure (Document.setPath out field (← Expression.evaluate (.object doc) value))

def includeEntries (doc : Document) : Document → Document → StoreResult Document
  | out, [] => pure out
  | out, (field, value) :: rest => do
      includeEntries doc (← includeEntry doc out field value) rest

def project (spec doc : Document) : StoreResult Document :=
  if isExclusion spec then pure (exclude spec doc)
  else includeEntries doc (keptId spec doc) spec

/-- Every expression sees the document as it was before any field was added. -/
def addFields (doc : Document) : Document → Document → StoreResult Document
  | out, [] => pure out
  | out, (field, expression) :: rest => do
      let value ← Expression.evaluate (.object doc) expression
      addFields doc (Document.setPath out field value) rest

end DataGrid.Projection
