import DataGrid.Proofs.Load.Session
/-!
Jobs done in order, part by part. To do a job in order turns the parts of jobs into the parts of
calls; so each call of the loading is told by the calls that it is made of.
-/
namespace DataGrid

/-- Takes the fields away that are computed for the levels of a request. -/
def Recipe.cleaner (recipe : Recipe) (options : Options) : RowCleaner :=
  (RowCleaner.stripNothing options.replaceIds).stripping recipe.keyNames

namespace Job

variable {α β : Type} (store : Store)

open Load (run run_bind run_map)

theorem inOrder_pure (value : α) : (pure value : Job α).inOrder store = pure value := rfl

theorem run_fetch (pipeline : Pipeline) (next : StoreResult (List Document) → Job α)
    (session : Session) : run ((fetch pipeline next).inOrder store) session =
      run ((next (store session.sent pipeline)).inOrder store) (session.send pipeline) := rfl

theorem run_claim (pipeline : Pipeline) (next : Option (StoreResult (List Document)) → Job α)
    (session : Session) : run ((claim pipeline next).inOrder store) session =
      match session.limiter.acquire? with
      | some limiter => run ((next (some (store session.sent pipeline))).inOrder store)
          { session.send pipeline with limiter := limiter }
      | none => run ((next none).inOrder store) session := by
  change (match session.limiter.acquire? with
    | some limiter => (next (some (store session.sent pipeline))).inOrder store
        { session.send pipeline with limiter := limiter }
    | none => (next none).inOrder store session) = _
  cases session.limiter.acquire? <;> rfl

theorem inOrder_both {γ : Type} (first : Job α) (second : Job β) (next : α → β → Job γ) :
    (both first second next).inOrder store = first.inOrder store >>= fun value =>
      second.inOrder store >>= fun other => (next value other).inOrder store := rfl

theorem inOrder_each (parts : List (Job Group)) (next : List Group → Job α) :
    (each parts next).inOrder store =
      allInOrder store parts >>= fun values => (next values).inOrder store := rfl

theorem inOrder_bind (after : α → Job β) : ∀ job : Job α,
    (job >>= after).inOrder store = job.inOrder store >>= fun value => (after value).inOrder store
  | .over (.ok value) => (pure_bind value fun value => (after value).inOrder store).symm
  | .over (.error fault) => rfl
  | .fetch pipeline next => by
      funext session
      change run ((next (store session.sent pipeline) >>= after).inOrder store)
        (session.send pipeline) = run (_ >>= _) session
      rw [inOrder_bind after, run_bind, run_bind, run_fetch]
  | .claim pipeline next => by
      funext session
      change run ((claim pipeline fun answer => next answer >>= after).inOrder store) session =
        run (_ >>= _) session
      rw [run_bind, run_claim, run_claim]
      cases session.limiter.acquire? with
      | none =>
          dsimp only
          rw [inOrder_bind after (next none), run_bind]
      | some limiter =>
          dsimp only
          rw [inOrder_bind after (next (some _)), run_bind]
  | .wait pipeline next => by
      funext session
      change run ((next (store session.sent pipeline) >>= after).inOrder store) session =
        run (_ >>= _) session
      rw [inOrder_bind after, run_bind, run_bind]
      rfl
  | .both first second next => by
      change (both first second fun value other => next value other >>= after).inOrder store = _
      simp only [inOrder_both, inOrder_bind after (next _ _), bind_assoc]
  | .each parts next => by
      change (each parts fun values => next values >>= after).inOrder store = _
      simp only [inOrder_each, inOrder_bind after (next _), bind_assoc]

theorem inOrder_map (change : α → β) (job : Job α) :
    (change <$> job).inOrder store = change <$> job.inOrder store := inOrder_bind store _ job

theorem inOrder_send (pipeline : Pipeline) :
    (send pipeline).inOrder store = Load.send store pipeline := by
  funext session
  change (_, _) = (_, _)
  cases store session.sent pipeline <;> rfl

theorem inOrder_sendLimited (pipeline : Pipeline) :
    (sendLimited pipeline).inOrder store = Load.limited (Load.send store pipeline) := by
  funext session
  change run ((sendLimited pipeline).inOrder store) session =
    run (Load.limited (Load.send store pipeline)) session
  rw [sendLimited, run_claim, Load.run_limited]
  cases session.limiter.acquire? with
  | none => rfl
  | some limiter =>
      dsimp only
      rw [run_map, Load.run_send]
      rfl

theorem allInOrder_map {ι : Type} (entries : List ι) (part : ι → Job Group) :
    allInOrder store (entries.map part) = entries.mapM fun entry => (part entry).inOrder store := by
  induction entries with
  | nil => rw [List.mapM_nil, List.map_nil, allInOrder]
  | cons entry rest ih => rw [List.mapM_cons, List.map_cons, allInOrder, ih]

end Job

namespace Load

/-- A group before its summary. -/
def content (level : RecipeLevel) (cleaner : RowCleaner) (entry : Document)
    (below : Load (List Group)) : Load Group :=
  if level.last then give (ownGroup level cleaner (entryKey entry) entry)
  else Group.ofGroups (entryKey entry) <$> below

/-- The summary of a group over its scope, where one is asked for. -/
def summarized (store : Store) (recipe : Recipe) (summaries : List Summary) (inner : Pipeline)
    (group : Group) : Load Group :=
  if summaries.isEmpty then pure group
  else do pure (group.withSummary (← summarize store recipe inner summaries))

variable (store : Store) (recipe : Recipe) (summaries : List Summary) (cleaner : RowCleaner)

def entryGroup (level : RecipeLevel) (deeper : List RecipeLevel) (scope : Pipeline)
    (entry : Document) : Load Group :=
  let inner := Recipe.keyScope level scope (entryKey entry)
  content level cleaner entry (loadGroups store recipe summaries cleaner deeper inner) >>=
    summarized store recipe summaries inner

theorem count_def (pipeline : Pipeline) (field : String) :
    count store pipeline field = send store pipeline >>= fun docs =>
      match docs with
      | [] => pure 0
      | doc :: _ =>
          match (doc.get? field).bind Value.nat64? with
          | some number => pure number
          | none => throw (.malformed (.countMissing field)) := by
  rw [count, Job.count, Job.inOrder_bind, Job.inOrder_send]
  congr 1
  funext docs
  cases docs with
  | nil => rfl
  | cons doc _ =>
      dsimp only
      cases (doc.get? field).bind Value.nat64? <;> rfl

theorem summarize_def (scope : Pipeline) :
    summarize store recipe scope summaries =
      limited (send store (recipe.summaryStages scope summaries)) >>= fun found =>
        pure (found.bind fun docs => docs.head?.map (Summary.read summaries)) := by
  rw [summarize, Job.summarize, Job.inOrder_bind, Job.inOrder_sendLimited]
  rfl

theorem inOrder_content (level : RecipeLevel) (entry : Document) (below : Job (List Group)) :
    (Job.content level cleaner entry below).inOrder store =
      content level cleaner entry (below.inOrder store) := by
  unfold Job.content content
  cases level.last with
  | true => rfl
  | false => exact Job.inOrder_map store _ below

theorem inOrder_summarized (inner : Pipeline) (group : Group) :
    (Job.summarized recipe summaries inner group).inOrder store =
      summarized store recipe summaries inner group := by
  unfold Job.summarized summarized
  cases summaries.isEmpty with
  | true => rfl
  | false => exact Job.inOrder_bind store _ (Job.summarize recipe inner summaries)

theorem loadGroups_nil (scope : Pipeline) :
    loadGroups store recipe summaries cleaner [] scope = pure [] := rfl

theorem loadGroups_cons (level : RecipeLevel) (deeper : List RecipeLevel) (scope : Pipeline) :
    loadGroups store recipe summaries cleaner (level :: deeper) scope =
      send store (recipe.levelStages level scope) >>= fun entries =>
        entries.mapM (entryGroup store recipe summaries cleaner level deeper scope) := by
  rw [loadGroups, Job.loadGroups, Job.inOrder_bind, Job.inOrder_send]
  congr 1
  funext entries
  rw [Job.inOrder_each, Job.allInOrder_map]
  change _ >>= pure = _
  rw [bind_pure]
  congr 1
  funext entry
  rw [Job.entryGroup, Job.inOrder_bind, inOrder_content, entryGroup]
  congr 1
  funext group
  exact inOrder_summarized store recipe summaries _ group

section Parts

variable (request : Request) (options : Options)

theorem loadData_def :
    loadData store recipe request options =
      if request.isGrouped then
        .groups <$> loadGroups store recipe request.groupSummary (recipe.cleaner options)
          recipe.levels []
      else
        (fun rows => .rows ((RowCleaner.stripNothing options.replaceIds).cleanAll rows)) <$>
          send store recipe.flatStages := by
  unfold loadData Job.loadData
  cases request.isGrouped with
  | true => exact Job.inOrder_map store _ _
  | false =>
      rw [← Job.inOrder_send]
      exact Job.inOrder_map store _ _

theorem loadGroupCount_def :
    loadGroupCount store recipe request =
      match recipe.groupCountStages? with
      | some pipeline =>
          if request.groupCount then some <$> count store pipeline "groupCount" else pure none
      | none => pure none := by
  unfold loadGroupCount Job.loadGroupCount
  cases recipe.groupCountStages? with
  | none => rfl
  | some pipeline =>
      cases request.groupCount with
      | true => exact Job.inOrder_map store _ _
      | false => rfl

theorem loadTotalCount_def :
    loadTotalCount store recipe request =
      if request.needsTotalCount then some <$> count store recipe.countStages "count"
      else pure none := by
  unfold loadTotalCount Job.loadTotalCount
  cases request.needsTotalCount with
  | true => exact Job.inOrder_map store _ _
  | false => rfl

theorem loadTotalSummary_def (totalCount : Option Nat) :
    loadTotalSummary store recipe request totalCount =
      if totalCount.getD 0 > 0 && !request.totalSummary.isEmpty then
        summarize store recipe [] request.totalSummary
      else pure none := by
  unfold loadTotalSummary Job.loadTotalSummary
  split <;> rfl

theorem load_def :
    load store request options = (do
      let recipe := Recipe.ofRequest request options
      let data ← loadData store recipe request options
      let groupCount ← loadGroupCount store recipe request
      let totalCount ← loadTotalCount store recipe request
      let summary ← loadTotalSummary store recipe request totalCount
      pure ⟨data, groupCount, totalCount, summary⟩) := by
  rw [load, Job.load, Job.inOrder_both]
  congr 1
  funext data
  rw [Job.loadCounts, Job.inOrder_both]
  simp only [bind_assoc, Job.inOrder_pure, pure_bind]
  congr 1
  funext groupCount
  congr 1
  funext totalCount
  exact Job.inOrder_bind store _ _

end Parts

end Load

end DataGrid
