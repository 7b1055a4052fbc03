import DataGrid.Load.Error
import DataGrid.Load.Limiter
import DataGrid.Pipeline.Stage
/-!
A call in progress: the pipelines sent so far and the limiter of its summaries. Both outlive an
error, so that it can be told what was sent before it.
-/
namespace DataGrid

/-- Answers a pipeline, given the pipelines that were sent before it. -/
abbrev Store := (sent : List Pipeline) → Pipeline → StoreResult (List Document)

structure Session where
  sent : List Pipeline
  limiter : Limiter
  deriving DecidableEq, Repr

def Session.send (session : Session) (pipeline : Pipeline) : Session :=
  { session with sent := session.sent ++ [pipeline] }

abbrev Load (α : Type) := ExceptT LoadError (StateM Session) α

namespace Load

def run {α : Type} (step : Load α) (session : Session) : Except LoadError α × Session :=
  (ExceptT.run step).run session

def send (store : Store) (pipeline : Pipeline) : Load (List Document) :=
  fun session =>
    let answer := match store session.sent pipeline with
      | .ok docs => .ok docs
      | .error error => .error (.store error)
    -- a refused pipeline counts as sent
    (answer, session.send pipeline)

/-- Runs a step if a slot is left, and otherwise yields nothing. -/
def limited {α : Type} (step : Load α) : Load (Option α) :=
  fun session =>
    match session.limiter.acquire? with
    | some limiter => (some <$> step) { session with limiter := limiter }
    | none => (.ok none, session)

end Load

end DataGrid
