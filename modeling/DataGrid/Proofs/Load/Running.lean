import DataGrid.Load.Running
import DataGrid.Proofs.Load.Levels
/-!
Runs and the calls they are made of. Calls that are made in order are a run, so that what holds of
every run holds of them. What every call of a job keeps, all its runs keep, wherever they stop.
-/
namespace DataGrid

namespace Job

section InOrder

variable (store : Store)

open Load (run run_bind)

mutual

/-- A job that is done in order has run to its end. -/
theorem inOrder_runs : ∀ {α : Type} (job : Job α) (session : Session),
    Runs store.answers job session (.over (run (job.inOrder store) session).1)
      (run (job.inOrder store) session).2
  | _, .over outcome, session => .here _ session
  | _, .fetch pipeline next, session =>
      .step (.sent pipeline next session)
        (.step (.answered pipeline next _ (store session.sent pipeline) ⟨_, rfl⟩)
          (inOrder_runs (next (store session.sent pipeline)) (session.send pipeline)))
  | _, .claim pipeline next, session => by
      rw [run_claim]
      cases slot : session.limiter.acquire? with
      | none => exact .step (.refused pipeline next session slot) (inOrder_runs (next none) session)
      | some limiter =>
          exact .step (.granted pipeline next session limiter slot)
            (.step (.answered pipeline _ _ (store session.sent pipeline) ⟨_, rfl⟩)
              (inOrder_runs (next (some (store session.sent pipeline))) _))
  | _, .wait pipeline next, session =>
      .step (.answered pipeline next session (store session.sent pipeline) ⟨_, rfl⟩)
        (inOrder_runs (next (store session.sent pipeline)) session)
  | _, .both first second next, session => by
      rw [inOrder_both, run_bind]
      have left := (inOrder_runs first session).inFirst second next
      cases ran : run (first.inOrder store) session with
      | mk outcome middle =>
          rw [ran] at left
          cases outcome with
          | error fault => exact left.trans (.step (.firstFailed fault second next middle) (.here _ _))
          | ok value =>
              dsimp only
              rw [run_bind]
              have right := (inOrder_runs second middle).inSecond (.over (.ok value)) trivial next
              cases ranToo : run (second.inOrder store) middle with
              | mk outcome last =>
                  rw [ranToo] at right
                  refine left.trans (right.trans ?_)
                  cases outcome with
                  | error fault => exact .step (.secondFailed _ fault next last) (.here _ _)
                  | ok other =>
                      exact .step (.bothOver value other next last)
                        (inOrder_runs (next value other) last)
  | _, .each parts next, session => by
      rw [inOrder_each, run_bind]
      have all := allInOrder_runs parts [] next session
      cases ran : run (allInOrder store parts) session with
      | mk outcome middle =>
          rw [ran] at all
          cases outcome with
          | error fault => exact all
          | ok values => exact all.trans (.step (.allOver values next middle)
              (inOrder_runs (next values) middle))

theorem allInOrder_runs : ∀ {α : Type} (parts : List (Job Group)) (done : List Group)
    (next : List Group → Job α) (session : Session),
    Runs store.answers (.each (done.map (fun value => .over (.ok value)) ++ parts) next) session
      (match (run (allInOrder store parts) session).1 with
        | .ok values => .each ((done ++ values).map fun value => .over (.ok value)) next
        | .error fault => .over (.error fault))
      (run (allInOrder store parts) session).2
  | _, [], done, next, session => by
      rw [List.append_nil]
      have same : run (allInOrder store []) session = (.ok [], session) := rfl
      rw [same]
      simpa using Runs.here _ session
  | _, part :: rest, done, next, session => by
      have place : (done.map (fun value => Job.over (.ok value)) ++ part :: rest)[done.length]? =
          some part := by simp
      have first := (inOrder_runs part session).inPart _ done.length place next
      rw [allInOrder, run_bind]
      cases ran : run (part.inOrder store) session with
      | mk outcome middle =>
          rw [ran] at first
          refine first.trans ?_
          cases outcome with
          | error fault => exact .step (.partFailed _ fault next middle (by simp)) (.here _ _)
          | ok value =>
              have later := allInOrder_runs rest (done ++ [value]) next middle
              dsimp only
              rw [run_bind]
              cases ranToo : run (allInOrder store rest) middle with
              | mk outcome last =>
                  rw [ranToo] at later
                  cases outcome with
                  | error fault => simpa using later
                  | ok values =>
                      have made : run (pure (value :: values) : Load (List Group)) last =
                        (.ok (value :: values), last) := rfl
                      simpa [made] using later

end

end InOrder

section Growing

variable {answers : Answers}

theorem Step.grows {α : Type} {job later : Job α} {before after : Session}
    (step : Step answers job before later after) : before.sent.length ≤ after.sent.length := by
  induction step with
  | sent | granted => simp [Session.send]
  | first _ _ _ _ _ _ _ ih => exact ih
  | second _ _ _ _ _ _ _ _ ih => exact ih
  | part _ _ _ _ _ _ _ _ _ ih => exact ih
  | _ => exact Nat.le_refl _

theorem Runs.grows {α : Type} {job later : Job α} {before after : Session}
    (runs : Runs answers job before later after) : before.sent.length ≤ after.sent.length := by
  induction runs with
  | here => exact Nat.le_refl _
  | step first _ ih => exact Nat.le_trans first.grows ih

variable (store : Store)

open Load (run)

/-- What was sent stays sent. -/
theorem inOrder_grows {α : Type} (job : Job α) (session : Session) :
    session.sent.length ≤ (run (job.inOrder store) session).2.sent.length :=
  (inOrder_runs store job session).grows

theorem allInOrder_grow (parts : List (Job Group)) (session : Session) :
    session.sent.length ≤ (run (allInOrder store parts) session).2.sent.length :=
  (allInOrder_runs store parts [] (pure : List Group → Job (List Group)) session).grows

end Growing

section Kept

variable {α β : Type} {fetched claimed waited : Pipeline → Prop}

mutual

/-- Every pipeline that a job can send, in any case or for a slot, is one of its kind, and so is every
one that was sent and is waited for. -/
def Sends (fetched claimed waited : Pipeline → Prop) {α : Type} : Job α → Prop
  | .over _ => True
  | .fetch pipeline next => fetched pipeline ∧ ∀ answer, Sends fetched claimed waited (next answer)
  | .claim pipeline next => claimed pipeline ∧ ∀ answer, Sends fetched claimed waited (next answer)
  | .wait pipeline next => waited pipeline ∧ ∀ answer, Sends fetched claimed waited (next answer)
  | .both first second next => Sends fetched claimed waited first ∧
      Sends fetched claimed waited second ∧
      ∀ value other, Sends fetched claimed waited (next value other)
  | .each parts next => AllSend fetched claimed waited parts ∧
      ∀ values, Sends fetched claimed waited (next values)

def AllSend (fetched claimed waited : Pipeline → Prop) : List (Job Group) → Prop
  | [] => True
  | part :: rest => Sends fetched claimed waited part ∧ AllSend fetched claimed waited rest

end

theorem allSend_iff (parts : List (Job Group)) :
    AllSend fetched claimed waited parts ↔ ∀ part ∈ parts, Sends fetched claimed waited part := by
  induction parts with
  | nil => simp [AllSend]
  | cons part rest ih => simp [AllSend, ih]

theorem sends_bind (after : α → Job β) (later : ∀ value, Sends fetched claimed waited (after value)) :
    ∀ job : Job α, Sends fetched claimed waited job → Sends fetched claimed waited (job >>= after)
  | .over (.ok value), _ => later value
  | .over (.error _), _ => trivial
  | .fetch _ _, sends => ⟨sends.1, fun answer => sends_bind after later _ (sends.2 answer)⟩
  | .claim _ _, sends => ⟨sends.1, fun answer => sends_bind after later _ (sends.2 answer)⟩
  | .wait _ _, sends => ⟨sends.1, fun answer => sends_bind after later _ (sends.2 answer)⟩
  | .both _ _ _, sends => ⟨sends.1, sends.2.1, fun value other =>
      sends_bind after later _ (sends.2.2 value other)⟩
  | .each _ _, sends => ⟨sends.1, fun values => sends_bind after later _ (sends.2 values)⟩

theorem sends_map (change : α → β) (job : Job α) (sends : Sends fetched claimed waited job) :
    Sends fetched claimed waited (change <$> job) :=
  sends_bind (fun value => pure (change value)) (fun _ => trivial) job sends

theorem send_sends (pipeline : Pipeline) (known : fetched pipeline) :
    Sends fetched claimed waited (send pipeline) := ⟨known, fun _ => trivial⟩

theorem count_sends (pipeline : Pipeline) (field : String) (known : fetched pipeline) :
    Sends fetched claimed waited (count pipeline field) := by
  refine sends_bind _ (fun docs => ?_) _ (send_sends pipeline known)
  cases docs with
  | nil => trivial
  | cons doc _ =>
      dsimp only
      cases (doc.get? field).bind Value.nat64? <;> trivial

theorem summarize_sends (recipe : Recipe) (scope : Pipeline) (summaries : List Summary)
    (known : claimed (recipe.summaryStages scope summaries)) :
    Sends fetched claimed waited (summarize recipe scope summaries) := by
  refine sends_bind _ ?_ _ ⟨known, fun answer => ?_⟩
  · exact fun _ => trivial
  · cases answer <;> trivial

theorem loadGroups_sends (recipe : Recipe) (summaries : List Summary) (cleaner : RowCleaner)
    (levels : List RecipeLevel) (scope : Pipeline)
    (level : ∀ level scope, fetched (recipe.levelStages level scope))
    (summary : summaries ≠ [] → ∀ scope, claimed (recipe.summaryStages scope summaries)) :
    Sends fetched claimed waited (loadGroups recipe summaries cleaner levels scope) := by
  induction levels generalizing scope with
  | nil => trivial
  | cons first deeper ih =>
      refine sends_bind _ ?_ _ (send_sends _ (level first scope))
      refine fun entries => ⟨(allSend_iff _).mpr ?_, fun _ => trivial⟩
      intro part member
      obtain ⟨entry, _, rfl⟩ := List.mem_map.mp member
      refine sends_bind _ ?_ _ ?_
      · intro group
        unfold summarized
        split
        · trivial
        · rename_i listed
          refine sends_bind _ ?_ _ (summarize_sends recipe _ summaries ?_)
          · exact fun _ => trivial
          · exact summary (fun none => listed (List.isEmpty_iff.mpr none)) _
      · unfold content
        dsimp only
        split
        · trivial
        · exact sends_map _ _ (ih _)

/-- A call sends pipelines that ask for no summary, and those of summaries for slots. It waits for none
before it has sent it. -/
theorem load_sends (request : Request) (options : Options) :
    Sends (Recipe.ofRequest request options).Fetches
      (fun pipeline => ∃ scope summaries, summaries ≠ [] ∧
        pipeline = (Recipe.ofRequest request options).summaryStages scope summaries)
      waited (load request options) := by
  refine ⟨?_, ⟨?_, ?_, fun _ _ => trivial⟩, fun data counts => ?_⟩
  · unfold loadData
    dsimp only
    split
    · exact sends_map _ _ (loadGroups_sends _ _ _ _ _ (fun level scope => .level level scope)
        fun listed scope => ⟨scope, _, listed, rfl⟩)
    · exact sends_map _ _ (send_sends _ .rows)
  · unfold loadGroupCount
    split
    · rename_i pipeline compiled
      split
      · exact sends_map _ _ (count_sends _ _ (.groups pipeline compiled))
      · trivial
    · trivial
  · unfold loadTotalCount
    split
    · exact sends_map _ _ (count_sends _ _ .total)
    · trivial
  · refine sends_bind _ ?_ _ ?_
    · exact fun _ => trivial
    unfold loadTotalSummary
    split
    · rename_i asked
      have listed : request.totalSummary ≠ [] := fun none => by simp [none] at asked
      exact summarize_sends _ [] _ ⟨[], _, listed, rfl⟩
    · trivial

variable {answers : Answers} {kept : Session → Prop}
  (sent : ∀ pipeline, fetched pipeline → ∀ session, kept session → kept (session.send pipeline))
  (granted : ∀ pipeline, claimed pipeline → ∀ session limiter,
    session.limiter.acquire? = some limiter → kept session →
    kept { session.send pipeline with limiter := limiter })
include sent granted

theorem Step.keeps {job later : Job α} {before after : Session}
    (step : Step answers job before later after) :
    Sends fetched claimed (fun _ => True) job → kept before →
    Sends fetched claimed (fun _ => True) later ∧ kept after := by
  induction step with
  | sent pipeline next session =>
      exact fun sends known => ⟨⟨trivial, sends.2⟩, sent pipeline sends.1 _ known⟩
  | granted pipeline next session limiter free =>
      exact fun sends known =>
        ⟨⟨trivial, fun answer => sends.2 (some answer)⟩, granted pipeline sends.1 _ _ free known⟩
  | refused pipeline next session full => exact fun sends known => ⟨sends.2 none, known⟩
  | answered pipeline next session answer given => exact fun sends known => ⟨sends.2 answer, known⟩
  | first first later second next before after _ ih =>
      intro sends known
      obtain ⟨left, still⟩ := ih sends.1 known
      exact ⟨⟨left, sends.2⟩, still⟩
  | second first second later next before after begun _ ih =>
      intro sends known
      obtain ⟨right, still⟩ := ih sends.2.1 known
      exact ⟨⟨sends.1, right, sends.2.2⟩, still⟩
  | bothOver value other next session => exact fun sends known => ⟨sends.2.2 value other, known⟩
  | firstFailed | secondFailed | partFailed => exact fun _ known => ⟨trivial, known⟩
  | part parts place part later next before after found _ ih =>
      intro sends known
      have all := (allSend_iff parts).mp sends.1
      obtain ⟨one, still⟩ := ih (all part (List.mem_of_getElem? found)) known
      refine ⟨⟨(allSend_iff _).mpr fun other member => ?_, sends.2⟩, still⟩
      rcases List.mem_or_eq_of_mem_set member with old | rfl
      · exact all other old
      · exact one
  | allOver values next session => exact fun sends known => ⟨sends.2 values, known⟩

/-- What every call of a job keeps, each of its runs keeps. -/
theorem Runs.keeps {job later : Job α} {before after : Session}
    (runs : Runs answers job before later after) (sends : Sends fetched claimed (fun _ => True) job)
    (known : kept before) : kept after := by
  induction runs with
  | here => exact known
  | step first _ ih =>
      obtain ⟨further, still⟩ := first.keeps sent granted sends known
      exact ih further still

end Kept

end Job

end DataGrid
