import DataGrid.Load.Job
import DataGrid.Load.Session
/-!
Runs of a job. One call after the other is made or answered, and where several of them can come next,
any of them may. A store that answers late, or in another order than it was asked, is told by such a
run, and so is an executor that goes on with the parts of a job in an order of its own.
-/
namespace DataGrid

/-- Which answers a store may give to a pipeline. -/
abbrev Answers := Pipeline → StoreResult (List Document) → Prop

/-- What a store can answer at some time. -/
def Store.answers (store : Store) : Answers :=
  fun pipeline answer => ∃ sent, store sent pipeline = answer

namespace Job

/-- Whether a job has made its first call, if it makes one. -/
def Begun {α : Type} : Job α → Prop
  | .fetch _ _ => False
  | .claim _ _ => False
  | _ => True

/-- One step of a job, in a session. A pipeline counts as sent before its answer is there. Of two jobs
the first is begun first; jobs side by side end as soon as one of them is found to have failed. -/
inductive Step (answers : Answers) : {α : Type} → Job α → Session → Job α → Session → Prop
  | sent {α : Type} (pipeline : Pipeline) (next : StoreResult (List Document) → Job α)
      (session : Session) :
      Step answers (.fetch pipeline next) session (.wait pipeline next) (session.send pipeline)
  | granted {α : Type} (pipeline : Pipeline) (next : Option (StoreResult (List Document)) → Job α)
      (session : Session) (limiter : Limiter) (free : session.limiter.acquire? = some limiter) :
      Step answers (.claim pipeline next) session (.wait pipeline fun answer => next (some answer))
        { session.send pipeline with limiter := limiter }
  | refused {α : Type} (pipeline : Pipeline) (next : Option (StoreResult (List Document)) → Job α)
      (session : Session) (full : session.limiter.acquire? = none) :
      Step answers (.claim pipeline next) session (next none) session
  | answered {α : Type} (pipeline : Pipeline) (next : StoreResult (List Document) → Job α)
      (session : Session) (answer : StoreResult (List Document)) (given : answers pipeline answer) :
      Step answers (.wait pipeline next) session (next answer) session
  | first {α β γ : Type} (first later : Job α) (second : Job β) (next : α → β → Job γ)
      (before after : Session) (step : Step answers first before later after) :
      Step answers (.both first second next) before (.both later second next) after
  | second {α β γ : Type} (first : Job α) (second later : Job β) (next : α → β → Job γ)
      (before after : Session) (begun : first.Begun) (step : Step answers second before later after) :
      Step answers (.both first second next) before (.both first later next) after
  | bothOver {α β γ : Type} (value : α) (other : β) (next : α → β → Job γ) (session : Session) :
      Step answers (.both (.over (.ok value)) (.over (.ok other)) next) session (next value other)
        session
  | firstFailed {α β γ : Type} (fault : LoadError) (second : Job β) (next : α → β → Job γ)
      (session : Session) :
      Step answers (.both (.over (.error fault)) second next) session (.over (.error fault)) session
  | secondFailed {α β γ : Type} (first : Job α) (fault : LoadError) (next : α → β → Job γ)
      (session : Session) :
      Step answers (.both first (.over (.error fault)) next) session (.over (.error fault)) session
  | part {α : Type} (parts : List (Job Group)) (place : Nat) (part later : Job Group)
      (next : List Group → Job α) (before after : Session) (found : parts[place]? = some part)
      (step : Step answers part before later after) :
      Step answers (.each parts next) before (.each (parts.set place later) next) after
  | allOver {α : Type} (values : List Group) (next : List Group → Job α) (session : Session) :
      Step answers (.each (values.map fun value => .over (.ok value)) next) session (next values)
        session
  | partFailed {α : Type} (parts : List (Job Group)) (fault : LoadError) (next : List Group → Job α)
      (session : Session) (found : .over (.error fault) ∈ parts) :
      Step answers (.each parts next) session (.over (.error fault)) session

/-- Any number of steps. -/
inductive Runs (answers : Answers) {α : Type} : Job α → Session → Job α → Session → Prop
  | here (job : Job α) (session : Session) : Runs answers job session job session
  | step {job later last : Job α} {before middle after : Session}
      (first : Step answers job before later middle) (rest : Runs answers later middle last after) :
      Runs answers job before last after

namespace Runs

variable {answers : Answers} {α β γ : Type} {before middle after : Session}

theorem trans {job later last : Job α} (first : Runs answers job before later middle)
    (rest : Runs answers later middle last after) : Runs answers job before last after := by
  induction first with
  | here => exact rest
  | step first _ ih => exact .step first (ih rest)

theorem inFirst {first later : Job α} (runs : Runs answers first before later after) (second : Job β)
    (next : α → β → Job γ) :
    Runs answers (.both first second next) before (.both later second next) after := by
  induction runs with
  | here => exact .here _ _
  | step one _ ih => exact .step (.first _ _ second next _ _ one) ih

theorem inSecond {second later : Job β} (runs : Runs answers second before later after)
    (first : Job α) (begun : first.Begun) (next : α → β → Job γ) :
    Runs answers (.both first second next) before (.both first later next) after := by
  induction runs with
  | here => exact .here _ _
  | step one _ ih => exact .step (.second first _ _ next _ _ begun one) ih

theorem inPart {part later : Job Group} (runs : Runs answers part before later after)
    (parts : List (Job Group)) (place : Nat) (found : parts[place]? = some part)
    (next : List Group → Job α) :
    Runs answers (.each parts next) before (.each (parts.set place later) next) after := by
  induction runs generalizing parts with
  | here part session =>
      obtain ⟨inside, rfl⟩ := List.getElem?_eq_some_iff.mp found
      rw [List.set_getElem_self inside]
      exact .here _ _
  | step one _ ih =>
      obtain ⟨inside, _⟩ := List.getElem?_eq_some_iff.mp found
      have later := ih (parts.set place _) (List.getElem?_set_self inside)
      rw [List.set_set] at later
      exact .step (.part parts place _ _ next _ _ found one) later

end Runs

end Job

end DataGrid
