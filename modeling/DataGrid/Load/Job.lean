import DataGrid.Load.Error
import DataGrid.Load.Group
import DataGrid.Load.Rows
import DataGrid.Pipeline.Stage
import DataGrid.Plan.Recipe
/-!
Loading of a request, as a job that is done with the answers of a store. The data, the number of
groups and the total count are waited for together, and so are the groups of a level: each loads its
own groups before it asks for its summary. The total summary comes last, where anything was counted.
Which of the parts goes on when several of them wait is not for the job to say.
-/
namespace DataGrid

/-- What is left to do: a pipeline is to be sent, in any case or only if a slot is left, or its answer
is waited for, or two jobs or any number of them are to be done side by side. -/
inductive Job : Type → Type 1
  | over {α : Type} (outcome : Except LoadError α) : Job α
  | fetch {α : Type} (pipeline : Pipeline) (next : StoreResult (List Document) → Job α) : Job α
  | claim {α : Type} (pipeline : Pipeline) (next : Option (StoreResult (List Document)) → Job α) :
      Job α
  | wait {α : Type} (pipeline : Pipeline) (next : StoreResult (List Document) → Job α) : Job α
  | both {α β γ : Type} (first : Job α) (second : Job β) (next : α → β → Job γ) : Job γ
  | each {α : Type} (parts : List (Job Group)) (next : List Group → Job α) : Job α

inductive LoadData where
  | rows (items : List Document)
  | groups (items : List Group)

structure LoadResult where
  data : LoadData
  groupCount : Option Nat
  totalCount : Option Nat
  summary : Option (List Value)

namespace Load

/-- The key that the store's entry of a group carries. -/
def entryKey (entry : Document) : Value := (entry.get? "key").getD .null

/-- What a group holds of its own, by the store's entry for it. -/
def ownGroup (level : RecipeLevel) (cleaner : RowCleaner) (key : Value) (entry : Document) :
    Except LoadError Group :=
  if level.withItems then
    match entry.get? "items" with
    | some items => do pure (.ofRows key (← cleaner.cleanItems items))
    | none => throw (.malformed .itemsMissing)
  else
    match (entry.get? "count").bind Value.nat64? with
    | some number => pure (.counted key number)
    | none => throw (.malformed .groupCountMissing)

end Load

namespace Job

def bind {α β : Type} (after : α → Job β) : Job α → Job β
  | .over (.ok value) => after value
  | .over (.error fault) => .over (.error fault)
  | .fetch pipeline next => .fetch pipeline fun answer => bind after (next answer)
  | .claim pipeline next => .claim pipeline fun answer => bind after (next answer)
  | .wait pipeline next => .wait pipeline fun answer => bind after (next answer)
  | .both first second next => .both first second fun value other => bind after (next value other)
  | .each parts next => .each parts fun values => bind after (next values)

instance : Monad Job where
  pure value := .over (.ok value)
  bind job after := job.bind after

def send (pipeline : Pipeline) : Job (List Document) :=
  .fetch pipeline fun answer => .over (answer.mapError .store)

/-- Sends a pipeline if a slot is left, and otherwise yields nothing. -/
def sendLimited (pipeline : Pipeline) : Job (Option (List Document)) :=
  .claim pipeline fun
    | some answer => .over ((answer.mapError .store).map some)
    | none => pure none

def count (pipeline : Pipeline) (field : String) : Job Nat := do
  match ← send pipeline with
  -- counting no documents yields no document
  | [] => pure 0
  | doc :: _ =>
      match (doc.get? field).bind Value.nat64? with
      | some number => pure number
      | none => .over (throw (.malformed (.countMissing field)))

/-- The summaries over a scope; none where no slot is left or nothing matched. -/
def summarize (recipe : Recipe) (scope : Pipeline) (summaries : List Summary) :
    Job (Option (List Value)) := do
  let found ← sendLimited (recipe.summaryStages scope summaries)
  pure (found.bind fun docs => docs.head?.map (Summary.read summaries))

/-- A group before its summary. -/
def content (level : RecipeLevel) (cleaner : RowCleaner) (entry : Document)
    (below : Job (List Group)) : Job Group :=
  let key := Load.entryKey entry
  if level.last then .over (Load.ownGroup level cleaner key entry) else Group.ofGroups key <$> below

/-- The summary of a group over its scope, where one is asked for. -/
def summarized (recipe : Recipe) (summaries : List Summary) (inner : Pipeline) (group : Group) :
    Job Group :=
  if summaries.isEmpty then pure group
  else do pure (group.withSummary (← summarize recipe inner summaries))

/-- The group of an entry. The groups below it are complete before its summary is asked for. -/
def entryGroup (recipe : Recipe) (summaries : List Summary) (cleaner : RowCleaner)
    (level : RecipeLevel) (below : Pipeline → Job (List Group)) (scope : Pipeline)
    (entry : Document) : Job Group := do
  let inner := Recipe.keyScope level scope (Load.entryKey entry)
  let group ← content level cleaner entry (below inner)
  summarized recipe summaries inner group

/-- The groups of the first of the levels inside a scope, each with those of the levels below. -/
def loadGroups (recipe : Recipe) (summaries : List Summary) (cleaner : RowCleaner) :
    List RecipeLevel → (scope : Pipeline) → Job (List Group)
  | [], _ => pure []
  | level :: deeper, scope => do
      let entries ← send (recipe.levelStages level scope)
      let below := loadGroups recipe summaries cleaner deeper
      .each (entries.map (entryGroup recipe summaries cleaner level below scope)) pure

def loadData (recipe : Recipe) (request : Request) (options : Options) : Job LoadData :=
  let cleaner := RowCleaner.stripNothing options.replaceIds
  if request.isGrouped then
    .groups <$> loadGroups recipe request.groupSummary (cleaner.stripping recipe.keyNames)
      recipe.levels []
  else
    (fun rows => .rows (cleaner.cleanAll rows)) <$> send recipe.flatStages

def loadGroupCount (recipe : Recipe) (request : Request) : Job (Option Nat) :=
  match recipe.groupCountStages? with
  | some pipeline =>
      if request.groupCount then some <$> count pipeline "groupCount" else pure none
  | none => pure none

def loadTotalCount (recipe : Recipe) (request : Request) : Job (Option Nat) :=
  if request.needsTotalCount then some <$> count recipe.countStages "count" else pure none

def loadTotalSummary (recipe : Recipe) (request : Request) (totalCount : Option Nat) :
    Job (Option (List Value)) :=
  -- nothing is asked of an empty set
  if totalCount.getD 0 > 0 && !request.totalSummary.isEmpty then
    summarize recipe [] request.totalSummary
  else pure none

def loadCounts (recipe : Recipe) (request : Request) : Job (Option Nat × Option Nat) :=
  .both (loadGroupCount recipe request) (loadTotalCount recipe request)
    fun groupCount totalCount => pure (groupCount, totalCount)

def load (request : Request) (options : Options) : Job LoadResult :=
  let recipe := Recipe.ofRequest request options
  .both (loadData recipe request options) (loadCounts recipe request)
    fun data (groupCount, totalCount) => do
      let summary ← loadTotalSummary recipe request totalCount
      pure ⟨data, groupCount, totalCount, summary⟩

end Job

end DataGrid
