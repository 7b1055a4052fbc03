import DataGrid.Load.Job
import DataGrid.Load.Session
/-!
Polls of a job. A poll goes on with a job until each of its parts waits for an answer or is over, and
it gives no more than so many answers; the next poll gives the others. Few parts are gone through from
the first to the last. Many parts stand in a queue: a part that has to wait goes to its end, and two of
them in a row end the poll.
-/
namespace DataGrid

/-- How an executor polls: from how many parts on they are a crowd, and how many answers it gives in
one poll. -/
structure Pace where
  crowd : Nat
  answers : Nat
  positive : 0 < answers

def Pace.usual : Pace := ⟨31, 128, by decide⟩

/-- What is kept of a job between two polls, beside the job: of the parts of a crowd, in which order
they come next. -/
inductive Order where
  | fresh
  | both (first second : Order)
  | parts (queue : List Nat) (inner : List Order)

namespace Order

def sides : Order → Order × Order
  | .both first second => (first, second)
  | _ => (.fresh, .fresh)

/-- The places of all parts, those that wait in the queue first. -/
def queue (number : Nat) : Order → List Nat
  | .parts queue _ => queue ++ (List.range number).filter fun place => !queue.contains place
  | _ => List.range number

def inner : Order → List Order
  | .parts _ inner => inner
  | _ => []

end Order

/-- How far a poll has come: the session, and the number of answers that are left to be given. -/
structure Turn where
  session : Session
  left : Nat

structure Polled (α : Type) where
  job : Job α
  order : Order
  turn : Turn

namespace Job

def outcome? {α : Type} : Job α → Option (Except LoadError α)
  | .over outcome => some outcome
  | _ => none

/-- The values of parts that are all over. -/
def values? : List (Job Group) → Option (List Group)
  | [] => some []
  | part :: rest =>
      match part.outcome? with
      | some (.ok value) => (values? rest).map (value :: ·)
      | _ => none

/-- The first part that has failed. In a crowd it is seen when those before it are over. -/
def failure? (crowded : Bool) : List (Job Group) → Option LoadError
  | [] => none
  | part :: rest =>
      match part.outcome? with
      | some (.error fault) => some fault
      | some (.ok _) => failure? crowded rest
      | none => if crowded then none else failure? crowded rest

end Job

/-- A part of a job, and how it is polled if it is still to be polled in this poll. -/
structure Part where
  job : Job Group
  order : Order
  poll? : Option (Turn → Polled Group)

/-- How far a poll has come with the parts of a job. -/
structure Round where
  parts : List Part
  turn : Turn

namespace Round

def jobs (round : Round) : List (Job Group) := round.parts.map Part.job

/-- The round in which the part at a place has been polled. It is not polled again. -/
def put (round : Round) (place : Nat) (polled : Polled Group) : Round :=
  ⟨round.parts.set place ⟨polled.job, polled.order, none⟩, polled.turn⟩

/-- Whether a part that is over ends the poll of all: it has failed, or in a crowd one has failed and
all before that are over. -/
def stops (crowded : Bool) (round : Round) (place : Nat) : Bool :=
  if crowded then (Job.failure? true round.jobs).isSome
  else
    match round.jobs[place]?.bind Job.outcome? with
    | some (.error _) => true
    | _ => false

/-- Polls the parts of a queue. The parts that wait are the queue of the next poll. -/
def pollAll (crowded : Bool) :
    (queue waiting : List Nat) → (waited : Bool) → Round → List Nat × Round
  | [], waiting, _, round => (waiting, round)
  | place :: queue, waiting, waited, round =>
      match round.parts[place]?.bind Part.poll? with
      | none =>
          -- a part may be over before it was ever polled
          if round.stops crowded place then (waiting ++ queue, round)
          else pollAll crowded queue waiting waited round
      | some poll =>
          let polled := poll round.turn
          let round := round.put place polled
          if polled.job.outcome?.isSome then
            if round.stops crowded place then (waiting ++ queue, round)
            else pollAll crowded queue waiting false round
          else if crowded && waited then (queue ++ waiting ++ [place], round)
          else pollAll crowded queue (waiting ++ [place]) true round

end Round

namespace Job

variable (pace : Pace) (answer : Pipeline → StoreResult (List Document))

mutual

def poll {α : Type} : Job α → Order → Turn → Polled α
  | .over outcome => fun _ turn => ⟨.over outcome, .fresh, turn⟩
  | .fetch pipeline next => fun _ turn =>
      let session := turn.session.send pipeline
      match turn.left with
      | 0 => ⟨.wait pipeline next, .fresh, ⟨session, 0⟩⟩
      | left + 1 => poll (next (answer pipeline)) .fresh ⟨session, left⟩
  | .claim pipeline next => fun _ turn =>
      match turn.session.limiter.acquire? with
      | some limiter =>
          let session := { turn.session.send pipeline with limiter := limiter }
          match turn.left with
          | 0 => ⟨.wait pipeline fun answer => next (some answer), .fresh, ⟨session, 0⟩⟩
          | left + 1 => poll (next (some (answer pipeline))) .fresh ⟨session, left⟩
      | none => poll (next none) .fresh turn
  | .wait pipeline next => fun _ turn =>
      match turn.left with
      | 0 => ⟨.wait pipeline next, .fresh, turn⟩
      | left + 1 => poll (next (answer pipeline)) .fresh ⟨turn.session, left⟩
  | .both first second next => fun order turn =>
      let one := poll first order.sides.1 turn
      match one.job.outcome? with
      | some (.error fault) => ⟨.over (.error fault), .fresh, one.turn⟩
      | ended =>
          let two := poll second order.sides.2 one.turn
          match ended, two.job.outcome? with
          | _, some (.error fault) => ⟨.over (.error fault), .fresh, two.turn⟩
          | some (.ok value), some (.ok other) => poll (next value other) .fresh two.turn
          | _, _ => ⟨.both one.job two.job next, .both one.order two.order, two.turn⟩
  | .each parts next => fun order turn =>
      let crowded := decide (pace.crowd ≤ parts.length)
      let (queue, round) := Round.pollAll crowded (order.queue parts.length) [] false
        ⟨pollEach parts order.inner, turn⟩
      match failure? crowded round.jobs with
      | some fault => ⟨.over (.error fault), .fresh, round.turn⟩
      | none =>
          match values? round.jobs with
          | some values => poll (next values) .fresh round.turn
          | none => ⟨.each round.jobs next, .parts queue (round.parts.map Part.order), round.turn⟩

/-- The parts of a job, of which those that are not over are to be polled. -/
def pollEach : List (Job Group) → List Order → List Part
  | [], _ => []
  | part :: rest, orders =>
      let order := orders.headD .fresh
      ⟨part, order, if part.outcome?.isSome then none else some (poll part order)⟩ ::
        pollEach rest orders.tail

end

end Job

end DataGrid
