import DataGrid.Load.Executor
/-!
A load in polls is a run of its job, and what it comes to can be found by counting the polls.
-/
namespace DataGrid

namespace Job

variable (pace : Pace) (answer : Pipeline → StoreResult (List Document))

/-- A job that is polled until it is over has run to its end. -/
theorem finish_runs {α : Type} (answers : Answers)
    (given : ∀ pipeline, answers pipeline (answer pipeline)) (job : Job α) (order : Order)
    (session : Session) :
    Runs answers job session (.over (finish pace answer job order session).1)
      (finish pace answer job order session).2 := by
  fun_induction finish pace answer job order session with
  | case1 job order session outcome ended =>
      rw [outcome?_eq_some.mp ended]
      exact .here _ session
  | case2 job order session _ polled ih =>
      exact (poll_sound given job order ⟨session, pace.answers⟩).1.trans ih

/-- The end of a job within so many polls. -/
def polls {α : Type} :
    Nat → Job α → Order → Session → Option (Except LoadError α × Session)
  | 0, job, _, session => job.outcome?.map fun outcome => (outcome, session)
  | number + 1, job, order, session =>
      match job.outcome? with
      | some outcome => some (outcome, session)
      | none =>
          let polled := poll pace answer job order ⟨session, pace.answers⟩
          polls number polled.job polled.order polled.turn.session

theorem finish_of_polls {α : Type} (number : Nat) (job : Job α) (order : Order) (session : Session)
    (ended : Except LoadError α × Session)
    (within : polls pace answer number job order session = some ended) :
    finish pace answer job order session = ended := by
  induction number generalizing job order session with
  | zero =>
      obtain ⟨outcome, known, rfl⟩ := Option.map_eq_some_iff.mp within
      obtain rfl := outcome?_eq_some.mp known
      rw [finish]
      rfl
  | succ number ih =>
      rw [polls] at within
      rw [finish]
      split at within
      · rename_i outcome known
        obtain rfl := outcome?_eq_some.mp known
        exact Option.some.inj within
      · rename_i waits
        split
        · rename_i outcome known
          exact absurd known (by simp [waits])
        · exact ih _ _ _ within

end Job

namespace LoadResult

variable (pace : Pace) (answer : Pipeline → StoreResult (List Document)) (request : Request)
  (options : Options)

theorem ofPolls_runs (answers : Answers) (given : ∀ pipeline, answers pipeline (answer pipeline)) :
    ∃ session, Job.Runs answers (Job.load request options) (Load.start options)
      (.over (ofPolls pace answer request options).1) session ∧
      session.sent = (ofPolls pace answer request options).2 :=
  ⟨_, Job.finish_runs pace answer answers given _ .fresh _, rfl⟩

theorem ofPolls_of_polls (number : Nat) (outcome : Except LoadError LoadResult) (session : Session)
    (within : (Job.load request options).polls pace answer number .fresh (Load.start options) =
      some (outcome, session)) :
    ofPolls pace answer request options = (outcome, session.sent) := by
  rw [ofPolls, Job.finish_of_polls pace answer number _ _ _ _ within]

end LoadResult

end DataGrid
