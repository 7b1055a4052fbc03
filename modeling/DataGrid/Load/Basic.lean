import DataGrid.Load.Job
import DataGrid.Load.Session
/-!
Loading with every call answered when it is made. Parts that are waited for together then come one
after the other, in the order in which they stand, and the first error ends the call.
-/
namespace DataGrid

namespace Load

def give {α : Type} (outcome : Except LoadError α) : Load α := fun session => (outcome, session)

end Load

namespace Job

variable (store : Store)

mutual

/-- Does a job with every call answered when it is made. Jobs that stand side by side are done one
after the other, and the first error ends them all. -/
def inOrder {α : Type} : Job α → Load α
  | .over outcome => Load.give outcome
  | .fetch pipeline next => fun session =>
      inOrder (next (store session.sent pipeline)) (session.send pipeline)
  | .claim pipeline next => fun session =>
      match session.limiter.acquire? with
      | some limiter => inOrder (next (some (store session.sent pipeline)))
          { session.send pipeline with limiter := limiter }
      | none => inOrder (next none) session
  | .wait pipeline next => fun session => inOrder (next (store session.sent pipeline)) session
  | .both first second next => do
      let value ← inOrder first
      let other ← inOrder second
      inOrder (next value other)
  | .each parts next => do
      let values ← allInOrder parts
      inOrder (next values)

def allInOrder : List (Job Group) → Load (List Group)
  | [] => pure []
  | part :: rest => do
      let value ← inOrder part
      let values ← allInOrder rest
      pure (value :: values)

end

end Job

namespace Load

variable (store : Store)

def count (pipeline : Pipeline) (field : String) : Load Nat := (Job.count pipeline field).inOrder store

def summarize (recipe : Recipe) (scope : Pipeline) (summaries : List Summary) :
    Load (Option (List Value)) :=
  (Job.summarize recipe scope summaries).inOrder store

def loadGroups (recipe : Recipe) (summaries : List Summary) (cleaner : RowCleaner)
    (levels : List RecipeLevel) (scope : Pipeline) : Load (List Group) :=
  (Job.loadGroups recipe summaries cleaner levels scope).inOrder store

def loadData (recipe : Recipe) (request : Request) (options : Options) : Load LoadData :=
  (Job.loadData recipe request options).inOrder store

def loadGroupCount (recipe : Recipe) (request : Request) : Load (Option Nat) :=
  (Job.loadGroupCount recipe request).inOrder store

def loadTotalCount (recipe : Recipe) (request : Request) : Load (Option Nat) :=
  (Job.loadTotalCount recipe request).inOrder store

def loadTotalSummary (recipe : Recipe) (request : Request) (totalCount : Option Nat) :
    Load (Option (List Value)) :=
  (Job.loadTotalSummary recipe request totalCount).inOrder store

def load (request : Request) (options : Options) : Load LoadResult :=
  (Job.load request options).inOrder store

def start (options : Options) : Session := ⟨[], .ofLimit options.summaryLimit⟩

end Load

namespace LoadResult

/-- Loads a request with its calls in order; also tells which pipelines were sent. -/
def ofRequest (store : Store) (request : Request) (options : Options) :
    Except LoadError LoadResult × List Pipeline :=
  let (result, session) := (Load.load store request options).run (Load.start options)
  (result, session.sent)

def rows? (result : LoadResult) : Option (List Document) :=
  match result.data with
  | .rows items => some items
  | .groups _ => none

def groups? (result : LoadResult) : Option (List Group) :=
  match result.data with
  | .rows _ => none
  | .groups items => some items

def countField (name : String) : Option Nat → Document
  | some number => [(name, .int number)]
  | none => []

def toValue (result : LoadResult) : Value :=
  let data := match result.data with
    | .rows items => .array (items.map .object)
    | .groups items => .array (Group.toValues items)
  .object (("data", data) :: (countField "groupCount" result.groupCount ++
    countField "totalCount" result.totalCount ++ Group.summaryField result.summary))

end LoadResult

end DataGrid
