import DataGrid.Collection
import DataGrid.Pattern.Reader
import DataGrid.Proofs.Load.Levels
/-!
Calls to a store that may refuse any pipeline. A call goes on only while everything that it sent was
answered: the first pipeline that is refused is the last one that is sent, and its error is the error
of the call, whichever part of the call has sent it. What the store answers with is another matter:
an answer of the wrong shape ends a call too, without a refusal.
-/
namespace DataGrid

namespace Store

variable (store : Store)

/-- All pipelines were answered, each behind those that were sent before it. -/
def Answers (sent : List Pipeline) : Prop :=
  ∀ front pipeline rest, sent = front ++ pipeline :: rest → ∃ docs, store front pipeline = .ok docs

/-- The last pipeline was refused, behind others that were answered. -/
def Refuses (sent : List Pipeline) (fault : StoreError) : Prop :=
  ∃ front pipeline, sent = front ++ [pipeline] ∧ store.Answers front ∧
    store front pipeline = .error fault

theorem place_concat {α : Type} (items front rest : List α) (item other : α)
    (split : items ++ [item] = front ++ other :: rest) :
    (rest = [] ∧ front = items ∧ other = item) ∨ ∃ inner, items = front ++ other :: inner := by
  rcases List.eq_nil_or_concat rest with rfl | ⟨inner, last, rfl⟩
  · obtain ⟨same, ends⟩ := List.append_inj' split rfl
    exact Or.inl ⟨rfl, same.symm, (List.singleton_inj.mp ends).symm⟩
  · rw [List.concat_eq_append, ← List.cons_append, ← List.append_assoc] at split
    exact Or.inr ⟨inner, (List.append_inj' split rfl).1⟩

theorem answers_nil : store.Answers [] := by
  intro front pipeline rest split
  simp at split

theorem answers_concat (sent : List Pipeline) (pipeline : Pipeline) (docs : List Document)
    (before : store.Answers sent) (answer : store sent pipeline = .ok docs) :
    store.Answers (sent ++ [pipeline]) := by
  intro front other rest split
  rcases place_concat _ _ _ _ _ split with ⟨_, rfl, rfl⟩ | ⟨inner, early⟩
  · exact ⟨docs, answer⟩
  · exact before front other inner early

/-- Of a sequence that ends with a refusal, only the last pipeline can have been refused. -/
theorem refuses_last (sent front rest : List Pipeline) (pipeline : Pipeline)
    (fault other : StoreError) (refuses : store.Refuses sent fault)
    (split : sent = front ++ pipeline :: rest) (refused : store front pipeline = .error other) :
    other = fault ∧ rest = [] := by
  obtain ⟨before, last, rfl, answered, failed⟩ := refuses
  rcases place_concat _ _ _ _ _ split with ⟨ends, rfl, rfl⟩ | ⟨inner, early⟩
  · exact ⟨Except.error.inj (refused.symm.trans failed), ends⟩
  · obtain ⟨docs, answer⟩ := answered front pipeline inner early
    rw [refused] at answer
    contradiction

end Store

namespace Load

variable {α : Type} (store : Store)

/-- How a call stands when a step has failed: the store refused the last pipeline, or it answered all
of them and one answer had the wrong shape. -/
def Stopped : LoadError → Session → Prop
  | .store fault, session => store.Refuses session.sent fault
  | .malformed _, session => store.Answers session.sent

/-- A step that goes on only while everything is answered, and otherwise stops. -/
abbrev Stops (step : Load α) : Prop :=
  Ends (fun session => store.Answers session.sent) (Stopped store) step

theorem send_stops (pipeline : Pipeline) : Stops store (send store pipeline) := by
  intro session before
  rw [run_send]
  cases answer : store session.sent pipeline with
  | ok docs => exact store.answers_concat session.sent pipeline docs before answer
  | error fault => exact ⟨session.sent, pipeline, rfl, before, answer⟩

theorem summarize_stops (recipe : Recipe) (scope : Pipeline) (summaries : List Summary) :
    Stops store (summarize store recipe scope summaries) :=
  summarize_ends store summaries scope (send_stops store _) fun _ _ before => before

theorem load_stops (request : Request) (options : Options) :
    Stops store (load store request options) :=
  load_ends store (fun _ _ before => before) request options
    (fun pipeline _ => send_stops store pipeline)
    fun scope summaries _ => summarize_stops store _ scope summaries

end Load

namespace LoadResult

/-- A call over a store that may refuse any pipeline. The first refusal ends it: no pipeline follows,
and the call fails with the error of the store, as it does for no other reason. A call that succeeds
has had an answer to everything that it sent. -/
theorem ofRequest_stops (store : Store) (request : Request) (options : Options)
    (outcome : Except LoadError LoadResult) (sent : List Pipeline)
    (loaded : ofRequest store request options = (outcome, sent)) :
    (∀ front pipeline rest fault, sent = front ++ pipeline :: rest →
      store front pipeline = .error fault → outcome = .error (.store fault) ∧ rest = []) ∧
    (∀ fault, outcome = .error (.store fault) →
      ∃ front pipeline, sent = front ++ [pipeline] ∧ store front pipeline = .error fault) ∧
    ∀ result, outcome = .ok result → ∀ front pipeline rest, sent = front ++ pipeline :: rest →
      ∃ docs, store front pipeline = .ok docs := by
  obtain ⟨after, ran, rfl⟩ := Load.ofRequest_ran store request options outcome sent loaded
  have stops := Load.load_stops store request options (Load.start options) store.answers_nil
  rw [ran] at stops
  have answered (all : store.Answers after.sent) (front : List Pipeline) (pipeline : Pipeline)
      (rest : List Pipeline) (fault : StoreError) (split : after.sent = front ++ pipeline :: rest) :
      store front pipeline ≠ .error fault := by
    obtain ⟨docs, answer⟩ := all front pipeline rest split
    rw [answer]
    exact nofun
  -- a pipeline was refused exactly where the call has failed with an error of the store
  cases outcome with
  | ok result =>
      refine ⟨fun front pipeline rest fault split refused => ?_, nofun, fun _ _ => stops⟩
      exact absurd refused (answered stops front pipeline rest fault split)
  | error reason =>
      cases reason with
      | malformed reason =>
          refine ⟨fun front pipeline rest fault split refused => ?_, nofun, nofun⟩
          exact absurd refused (answered stops front pipeline rest fault split)
      | store reason =>
          refine ⟨fun front pipeline rest fault split refused => ?_, fun fault same => ?_, nofun⟩
          · obtain ⟨rfl, ends⟩ := store.refuses_last _ _ _ _ reason fault stops split refused
            exact ⟨rfl, ends⟩
          · obtain rfl := LoadError.store.inj (Except.error.inj same)
            obtain ⟨front, pipeline, sent, _, failed⟩ := stops
            exact ⟨front, pipeline, sent, failed⟩

/-- A store that loses its connection after some answers. -/
def losing (store : Store) (answers : Nat) : Store :=
  fun sent pipeline =>
    if sent.length < answers then store sent pipeline else .error (.backend "connection reset")

/-- Tickets by their team, counted and summed. -/
def ticketsByTeam : Request :=
  { group := [{ selector := "team" }]
    groupCount := true
    groupSummary := [⟨"sum", some "hours"⟩]
    totalSummary := [⟨"max", some "hours"⟩] }

def tickets : Store :=
  (Collection.ofDocuments
    [[("team", .string "red"), ("hours", .int 3)], [("team", .string "blue"), ("hours", .int 5)],
      [("team", .string "red")]]).store Pattern.compile

/-- With two answers the summary of the second group is refused, and nothing is sent after it; with
six the call gets to its end. -/
theorem ofRequest_stops_tickets :
    (ofRequest (losing tickets 2) ticketsByTeam {}).1 =
        .error (.store (.backend "connection reset")) ∧
      (ofRequest (losing tickets 2) ticketsByTeam {}).2.length = 3 ∧
      (ofRequest (losing tickets 6) ticketsByTeam {}).1.toOption.isSome = true ∧
      ∀ front pipeline rest,
        (ofRequest (losing tickets 6) ticketsByTeam {}).2 = front ++ pipeline :: rest →
        ∃ docs, losing tickets 6 front pipeline = .ok docs := by
  obtain ⟨ended, _, _⟩ := ofRequest_stops (losing tickets 2) ticketsByTeam {} _ _ (Prod.eta _).symm
  obtain ⟨_, _, answered⟩ := ofRequest_stops (losing tickets 6) ticketsByTeam {} _ _ (Prod.eta _).symm
  have three : (ofRequest (losing tickets 2) ticketsByTeam {}).2.length = 3 := by decide +kernel
  have whole : (ofRequest (losing tickets 6) ticketsByTeam {}).1.toOption.isSome = true := by
    decide +kernel
  refine ⟨?_, three, whole, ?_⟩
  · generalize (ofRequest (losing tickets 2) ticketsByTeam {}).2 = sent at ended three
    obtain ⟨first, second, third, rfl⟩ := List.length_eq_three.mp three
    have refused : losing tickets 2 [first, second] third = .error (.backend "connection reset") :=
      if_neg (by simp)
    exact (ended [first, second] third [] _ rfl refused).1
  · cases loaded : (ofRequest (losing tickets 6) ticketsByTeam {}).1 with
    | ok result => exact answered result loaded
    | error fault =>
        rw [loaded] at whole
        exact absurd whole Bool.false_ne_true

end LoadResult

end DataGrid
