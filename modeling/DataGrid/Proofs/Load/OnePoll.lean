import DataGrid.Load.Executor
import DataGrid.Proofs.Load.Running
/-!
Loads that one poll is enough for. As long as a poll has answers to give, no part of a job has to wait.
So it goes through the parts one after the other, each to its end, and has made the calls of the job
in order. Every answer is one to a pipeline, so a poll is enough for as many pipelines as it has
answers.
-/
namespace DataGrid

/-- How many pipelines can be sent and answered by the end of a poll. -/
def Turn.capacity (turn : Turn) : Nat := turn.session.sent.length + turn.left

theorem Turn.capacity_send (session : Session) (pipeline : Pipeline) (left : Nat) :
    capacity ⟨session.send pipeline, left⟩ = capacity ⟨session, left + 1⟩ := by
  simp only [capacity, Session.send, List.length_append, List.length_singleton]
  omega

namespace Round

variable (crowded : Bool) (queue waiting : List Nat) (waited : Bool) (before later : List Part)
  (part : Part) (turn : Turn)

theorem pollAll_known (known : part.poll? = none) :
    pollAll crowded (before.length :: queue) waiting waited ⟨before ++ part :: later, turn⟩ =
      if stops crowded ⟨before ++ part :: later, turn⟩ before.length then
        (waiting ++ queue, ⟨before ++ part :: later, turn⟩)
      else pollAll crowded queue waiting waited ⟨before ++ part :: later, turn⟩ := by
  have here : (before ++ part :: later)[before.length]?.bind Part.poll? = none := by simp [known]
  rw [pollAll, here]

/-- A part that is over after its poll stands at its place. -/
theorem pollAll_over (poll : Turn → Polled Group) (polls : part.poll? = some poll)
    (outcome : Except LoadError Group) (ended : (poll turn).job = .over outcome) :
    pollAll crowded (before.length :: queue) waiting waited ⟨before ++ part :: later, turn⟩ =
      let round : Round :=
        ⟨before ++ ⟨(poll turn).job, (poll turn).order, none⟩ :: later, (poll turn).turn⟩
      if stops crowded round before.length then (waiting ++ queue, round)
      else pollAll crowded queue waiting false round := by
  have here : (before ++ part :: later)[before.length]?.bind Part.poll? = some poll := by
    simp [polls]
  have isOver : (poll turn).job.outcome?.isSome = true := by
    rw [ended]
    rfl
  have put : put ⟨before ++ part :: later, turn⟩ before.length (poll turn) =
      ⟨before ++ ⟨(poll turn).job, (poll turn).order, none⟩ :: later, (poll turn).turn⟩ := by
    simp [put]
  rw [pollAll, here]
  dsimp only
  rw [if_pos isOver, put]

end Round

namespace Job

open Load (run run_bind)

/-- A poll has done what the calls do, with one answer for each of their pipelines. -/
structure EndsAs {α : Type} (capacity : Nat) (polled : Polled α)
    (called : Except LoadError α × Session) : Prop where
  isOver : polled.job = .over called.1
  reached : polled.turn.session = called.2
  left : polled.turn.capacity = capacity

/-- If a poll of the new job has answers for all its calls, it makes them in order. -/
def InOnePoll (pace : Pace) (answer : Pipeline → StoreResult (List Document)) {α : Type}
    (job : Job α) : Prop :=
  ∀ turn, (run (job.inOrder fun _ => answer) turn.session).2.sent.length ≤ turn.capacity →
    EndsAs turn.capacity (poll pace answer job .fresh turn)
      (run (job.inOrder fun _ => answer) turn.session)

/-- A round behind so many groups has done what the calls of the other parts do. -/
structure AllEndAs (crowded : Bool) (capacity : Nat) (done : List Group) (round : Round)
    (called : Except LoadError (List Group) × Session) : Prop where
  outcome : match called.1 with
    | .ok values => round.jobs = (done ++ values).map fun value => .over (.ok value)
    | .error fault => failure? crowded round.jobs = some fault
  reached : round.turn.session = called.2
  left : round.turn.capacity = capacity

section Outcomes

theorem failure?_done (crowded : Bool) (done : List Group) (more : List (Job Group)) :
    failure? crowded (done.map (fun value => .over (.ok value)) ++ more) = failure? crowded more := by
  induction done with
  | nil => rfl
  | cons value done ih => exact ih

theorem failure?_over (crowded : Bool) (values : List Group) :
    failure? crowded (values.map fun value => .over (.ok value)) = none := by
  have none := failure?_done crowded values []
  rwa [List.append_nil] at none

theorem values?_over (values : List Group) :
    values? (values.map fun value => .over (.ok value)) = some values := by
  induction values with
  | nil => rfl
  | cons value rest ih =>
      rw [List.map_cons, values?, ih]
      rfl

end Outcomes

section Parts

variable (store : Store)

theorem run_allInOrder_cons (part : Job Group) (rest : List (Job Group)) (session : Session) :
    run (allInOrder store (part :: rest)) session =
      match run (part.inOrder store) session with
      | (.ok value, middle) => ((run (allInOrder store rest) middle).1.map (value :: ·),
          (run (allInOrder store rest) middle).2)
      | (.error fault, middle) => (.error fault, middle) := by
  rw [allInOrder, run_bind]
  rcases run (part.inOrder store) session with ⟨_ | value, middle⟩
  · rfl
  · dsimp only
    rw [run_bind]
    rcases run (allInOrder store rest) middle with ⟨_ | values, last⟩ <;> rfl

theorem run_allInOrder_over (value : Group) (rest : List (Job Group)) (session : Session) :
    run (allInOrder store (.over (.ok value) :: rest)) session =
      ((run (allInOrder store rest) session).1.map (value :: ·),
        (run (allInOrder store rest) session).2) :=
  run_allInOrder_cons store _ rest session

/-- In a crowd a failure is seen when all before it are over, which then have nothing left to call. -/
theorem failure?_inOrder (parts : List (Job Group)) (fault : LoadError) (session : Session)
    (failed : failure? true parts = some fault) :
    run (allInOrder store parts) session = (.error fault, session) := by
  induction parts with
  | nil => contradiction
  | cons part rest ih =>
      rw [failure?] at failed
      split at failed
      · rename_i ended
        rw [run_allInOrder_cons, outcome?_eq_some.mp ended, ← Option.some.inj failed]
        rfl
      · rename_i value ended
        rw [outcome?_eq_some.mp ended, run_allInOrder_over, ih failed]
        rfl
      · contradiction

section Visited

variable (crowded : Bool) (done : List Group) (before later : List Part) (part : Part) (turn : Turn)
  (same : before.map Part.job = done.map fun value => .over (.ok value))
  (outcome : Except LoadError Group) (ended : part.job = .over outcome)
include same ended

theorem visited_jobs : Round.jobs ⟨before ++ part :: later, turn⟩ =
    done.map (fun value => .over (.ok value)) ++ .over outcome :: later.map Part.job := by
  rw [Round.jobs, List.map_append, List.map_cons, same, ended]

theorem visited_failure :
    failure? crowded (Round.jobs ⟨before ++ part :: later, turn⟩) =
      match outcome with
      | .ok _ => failure? crowded (later.map Part.job)
      | .error fault => some fault := by
  rw [visited_jobs done before later part turn same outcome ended, failure?_done]
  cases outcome <;> rfl

theorem visited_stops :
    Round.stops crowded ⟨before ++ part :: later, turn⟩ before.length =
      match outcome with
      | .ok _ => crowded && (failure? true (later.map Part.job)).isSome
      | .error _ => true := by
  have length : done.length = before.length := by simpa using (congrArg List.length same).symm
  have here : (Round.jobs ⟨before ++ part :: later, turn⟩)[before.length]? =
      some (.over outcome) := by
    rw [visited_jobs done before later part turn same outcome ended]
    simp [length]
  rw [Round.stops, visited_failure true done before later part turn same outcome ended, here]
  cases crowded <;> cases outcome <;> rfl

/-- Where the first part that is not known to be over ends the poll, the calls end there as well. -/
theorem visited_ends
    (stopped : Round.stops crowded ⟨before ++ part :: later, turn⟩ before.length = true) :
    AllEndAs crowded turn.capacity done ⟨before ++ part :: later, turn⟩
      (run (allInOrder store (.over outcome :: later.map Part.job)) turn.session) := by
  rw [visited_stops crowded done before later part turn same outcome ended] at stopped
  have failure := visited_failure crowded done before later part turn same outcome ended
  cases outcome with
  | error fault => exact ⟨failure, rfl, rfl⟩
  | ok value =>
      obtain ⟨rfl, failed⟩ := (Bool.and_eq_true _ _).mp stopped
      obtain ⟨fault, failed⟩ := Option.isSome_iff_exists.mp failed
      rw [run_allInOrder_over, failure?_inOrder store _ fault turn.session failed]
      exact ⟨failure.trans failed, rfl, rfl⟩

end Visited

theorem AllEndAs.cons {crowded : Bool} {capacity : Nat} {done : List Group} {value : Group}
    {round : Round} {called : Except LoadError (List Group) × Session}
    (rest : AllEndAs crowded capacity (done ++ [value]) round called) :
    AllEndAs crowded capacity done round (called.1.map (value :: ·), called.2) := by
  obtain ⟨outcome, session⟩ := called
  refine ⟨?_, rest.reached, rest.left⟩
  cases outcome with
  | error fault => exact rest.outcome
  | ok values => exact rest.outcome.trans (by rw [List.append_assoc, List.singleton_append])

/-- A part that is found to be over ends the poll like the calls, or the other parts follow. -/
theorem follow_ends (crowded : Bool) (done : List Group) (before later : List Part)
    (others : List (Job Group)) (jobs : later.map Part.job = others) (part : Part) (turn : Turn)
    (same : before.map Part.job = done.map fun value => .over (.ok value))
    (outcome : Except LoadError Group) (ended : part.job = .over outcome) (queue : List Nat)
    (further : List Nat × Round)
    (enough : (run (allInOrder store (.over outcome :: others)) turn.session).2.sent.length ≤
      turn.capacity)
    (rest : ∀ value, outcome = .ok value →
      (run (allInOrder store others) turn.session).2.sent.length ≤ turn.capacity →
      AllEndAs crowded turn.capacity (done ++ [value]) further.2
        (run (allInOrder store others) turn.session)) :
    AllEndAs crowded turn.capacity done
      (if Round.stops crowded ⟨before ++ part :: later, turn⟩ before.length then
        (queue, ⟨before ++ part :: later, turn⟩) else further).2
      (run (allInOrder store (.over outcome :: others)) turn.session) := by
  obtain rfl := jobs
  split
  · rename_i stopped
    exact visited_ends store crowded done before later part turn same outcome ended stopped
  · rename_i unstopped
    rw [visited_stops crowded done before later part turn same outcome ended] at unstopped
    cases outcome with
    | error fault => exact absurd rfl unstopped
    | ok value =>
        rw [run_allInOrder_over] at enough ⊢
        exact (rest value rfl enough).cons

end Parts

variable (pace : Pace) (answer : Pipeline → StoreResult (List Document))

/-- Parts that are all new are polled like calls in order. -/
theorem pollAll_ends (crowded : Bool) (parts : List (Job Group))
    (each : ∀ part ∈ parts, InOnePoll pace answer part)
    (done : List Group) (before : List Part) (turn : Turn) (waited : Bool)
    (same : before.map Part.job = done.map fun value => .over (.ok value))
    (enough : (run (allInOrder (fun _ => answer) parts) turn.session).2.sent.length ≤
      turn.capacity) :
    AllEndAs crowded turn.capacity done
      (Round.pollAll crowded (List.range' before.length parts.length) [] waited
        ⟨before ++ pollEach pace answer parts [], turn⟩).2
      (run (allInOrder (fun _ => answer) parts) turn.session) := by
  induction parts generalizing done before turn waited with
  | nil =>
      refine ⟨?_, rfl, rfl⟩
      change (before ++ []).map Part.job = (done ++ []).map _
      rw [List.append_nil, List.append_nil, same]
  | cons part rest ih =>
      have first : pollEach pace answer (part :: rest) [] =
          ⟨part, .fresh, if part.outcome?.isSome then none else some (poll pace answer part .fresh)⟩ ::
            pollEach pace answer rest [] := by
        rw [pollEach]
        rfl
      rw [List.length_cons, List.range'_succ, first]
      have jobs := pollEach_jobs pace answer rest []
      -- the places of the others are those behind one more part
      have others (visited : Part) (value : Group) (ended : visited.job = .over (.ok value))
          (turn : Turn) (waited : Bool)
          (enough : (run (allInOrder (fun _ => answer) rest) turn.session).2.sent.length ≤
            turn.capacity) :
          AllEndAs crowded turn.capacity (done ++ [value])
            (Round.pollAll crowded (List.range' (before.length + 1) rest.length) [] waited
              ⟨before ++ visited :: pollEach pace answer rest [], turn⟩).2
            (run (allInOrder (fun _ => answer) rest) turn.session) := by
        have more := ih (fun part member => each part (List.mem_cons_of_mem _ member))
          (done ++ [value]) (before ++ [visited]) turn waited (by simp [same, ended]) enough
        rwa [List.length_append, List.length_singleton, List.append_assoc,
          List.singleton_append] at more
      cases ended : part.outcome? with
      | some outcome =>
          obtain rfl := outcome?_eq_some.mp ended
          rw [Round.pollAll_known _ _ _ _ _ _ _ _ rfl]
          exact follow_ends _ crowded done before _ rest jobs _ turn same outcome rfl _ _ enough
            fun value known enough => others _ value (congrArg Job.over known) turn waited enough
      | none =>
          have room : (run (part.inOrder fun _ => answer) turn.session).2.sent.length ≤
              turn.capacity := by
            refine Nat.le_trans ?_ enough
            rw [run_allInOrder_cons]
            rcases run (part.inOrder fun _ => answer) turn.session with ⟨_ | value, middle⟩
            · exact Nat.le_refl _
            · exact allInOrder_grow _ rest middle
          obtain ⟨isOver, reached, left⟩ := each part List.mem_cons_self turn room
          have called : run (allInOrder (fun _ => answer) (part :: rest)) turn.session =
              run (allInOrder (fun _ => answer)
                (.over (run (part.inOrder fun _ => answer) turn.session).1 :: rest))
                (poll pace answer part .fresh turn).turn.session := by
            rw [run_allInOrder_cons, run_allInOrder_cons, reached]
            rfl
          rw [called, ← left] at enough ⊢
          rw [Round.pollAll_over _ _ _ _ _ _ _ _ _ rfl _ isOver]
          exact follow_ends _ crowded done before _ rest jobs _ _ same _ isOver _ _ enough
            fun value known enough => others _ value (isOver.trans (congrArg Job.over known)) _ _ enough

theorem both_ends {α β γ : Type} {first : Job α} {second : Job β} (next : α → β → Job γ)
    (left : InOnePoll pace answer first) (right : InOnePoll pace answer second)
    (later : ∀ value other, InOnePoll pace answer (next value other)) :
    InOnePoll pace answer (.both first second next) := by
  intro turn enough
  have one := left turn
  rw [inOrder_both, run_bind] at enough ⊢
  rw [poll]
  dsimp only [Order.sides]
  generalize run (first.inOrder fun _ => answer) turn.session = called at one enough ⊢
  obtain ⟨outcome, middle⟩ := called
  cases outcome with
  | error fault =>
      obtain ⟨isOver, reached, capacity⟩ := one enough
      rw [outcome?_eq_some.mpr isOver]
      exact ⟨rfl, reached, capacity⟩
  | ok value =>
      dsimp only at enough ⊢
      rw [run_bind] at enough ⊢
      have grows := inOrder_grows (fun _ => answer) second middle
      generalize ranToo : run (second.inOrder fun _ => answer) middle = called at grows enough ⊢
      obtain ⟨outcome, last⟩ := called
      have growsToo : last.sent.length ≤ turn.capacity := by
        refine Nat.le_trans ?_ enough
        cases outcome with
        | error fault => exact Nat.le_refl _
        | ok other => exact inOrder_grows (fun _ => answer) (next value other) last
      obtain ⟨isOver, rfl, capacity⟩ := one (Nat.le_trans grows growsToo)
      have two := right (poll pace answer first .fresh turn).turn
      rw [ranToo, capacity] at two
      obtain ⟨isOverToo, reached, capacityToo⟩ := two growsToo
      rw [outcome?_eq_some.mpr isOver]
      dsimp only
      rw [outcome?_eq_some.mpr isOverToo]
      cases outcome with
      | error fault => exact ⟨rfl, reached, capacityToo⟩
      | ok other =>
          have rest := later value other
            (poll pace answer second .fresh (poll pace answer first .fresh turn).turn).turn
          rw [reached, capacityToo] at rest
          exact rest enough

theorem each_ends {α : Type} {parts : List (Job Group)} (next : List Group → Job α)
    (each : ∀ part ∈ parts, InOnePoll pace answer part)
    (later : ∀ values, InOnePoll pace answer (next values)) :
    InOnePoll pace answer (.each parts next) := by
  intro turn enough
  have all := pollAll_ends pace answer (decide (pace.crowd ≤ parts.length)) parts each [] [] turn
    false rfl
  rw [inOrder_each, run_bind] at enough ⊢
  rw [poll]
  rw [List.nil_append, List.length_nil, ← List.range_eq_range'] at all
  dsimp only [Order.queue, Order.inner]
  generalize Round.pollAll _ (List.range parts.length) _ _ _ = polled at all ⊢
  obtain ⟨queue, round⟩ := polled
  generalize run (allInOrder (fun _ => answer) parts) turn.session = called at all enough ⊢
  obtain ⟨outcome, middle⟩ := called
  dsimp only at all enough ⊢
  cases outcome with
  | error fault =>
      obtain ⟨failed, reached, capacity⟩ := all enough
      rw [show failure? _ round.jobs = some fault from failed]
      exact ⟨rfl, reached, capacity⟩
  | ok values =>
      obtain ⟨ended, reached, capacity⟩ :=
        all (Nat.le_trans (inOrder_grows (fun _ => answer) (next values) middle) enough)
      have jobs : round.jobs = values.map fun value => .over (.ok value) := ended
      rw [jobs, failure?_over, values?_over]
      have rest := later values round.turn
      rw [reached, capacity] at rest
      exact rest enough

mutual

/-- A poll that has answers for all calls of a new job makes them in order. -/
theorem poll_ends {fetched claimed : Pipeline → Prop} : ∀ {α : Type} (job : Job α),
    Sends fetched claimed (fun _ => False) job → InOnePoll pace answer job
  | _, .over outcome, _ => fun turn _ => by
      rw [poll_over]
      exact ⟨rfl, rfl, rfl⟩
  | _, .fetch pipeline next, sends => fun ⟨session, left⟩ enough => by
      rw [run_fetch] at enough ⊢
      cases left with
      | zero =>
          have grows := inOrder_grows (fun _ => answer) (next (answer pipeline)) (session.send pipeline)
          simp only [Turn.capacity, Session.send, List.length_append, List.length_singleton]
            at enough grows
          omega
      | succ left =>
          rw [poll_fetch, poll]
          rw [← Turn.capacity_send session pipeline] at enough ⊢
          exact poll_ends (next (answer pipeline)) (sends.2 _) _ enough
  | _, .claim pipeline next, sends => fun ⟨session, left⟩ enough => by
      rw [run_claim] at enough ⊢
      rw [poll]
      dsimp only at enough ⊢
      cases free : session.limiter.acquire? with
      | none =>
          rw [free] at enough
          exact poll_ends (next none) (sends.2 _) _ enough
      | some limiter =>
          rw [free] at enough
          cases left with
          | zero =>
              have grows := inOrder_grows (fun _ => answer) (next (some (answer pipeline)))
                { session.send pipeline with limiter := limiter }
              simp only [Turn.capacity, Session.send, List.length_append, List.length_singleton]
                at enough grows
              omega
          | succ left =>
              rw [← Turn.capacity_send session pipeline] at enough ⊢
              exact poll_ends (next (some (answer pipeline))) (sends.2 _)
                ⟨{ session.send pipeline with limiter := limiter }, left⟩ enough
  | _, .wait _ _, sends => sends.1.elim
  | _, .both first second next, sends =>
      both_ends pace answer next (poll_ends first sends.1) (poll_ends second sends.2.1)
        fun value other => poll_ends (next value other) (sends.2.2 value other)
  | _, .each parts next, sends =>
      each_ends pace answer next (allPoll_end parts sends.1)
        fun values => poll_ends (next values) (sends.2 values)

theorem allPoll_end {fetched claimed : Pipeline → Prop} : ∀ (parts : List (Job Group)),
    AllSend fetched claimed (fun _ => False) parts → ∀ part ∈ parts, InOnePoll pace answer part
  | [], _, _, member => nomatch member
  | part :: rest, sends, other, member =>
      (List.mem_cons.mp member).elim (fun same => same ▸ poll_ends part sends.1)
        (allPoll_end rest sends.2 other)

end

theorem finish_ends {α : Type} (job : Job α) (session : Session) (single : InOnePoll pace answer job)
    (enough : (run (job.inOrder fun _ => answer) session).2.sent.length ≤
      session.sent.length + pace.answers) :
    finish pace answer job .fresh session = run (job.inOrder fun _ => answer) session := by
  obtain ⟨isOver, reached, _⟩ := single ⟨session, pace.answers⟩ enough
  rw [finish]
  split
  · rename_i outcome known
    obtain rfl := outcome?_eq_some.mp known
    rfl
  · dsimp only
    rw [finish]
    split
    · rename_i outcome known
      rw [isOver] at known
      rw [← Option.some.inj known, reached]
    · rename_i waits
      rw [isOver] at waits
      contradiction

end Job

/-- A load that sends no more pipelines than a poll has answers makes its calls in order. -/
theorem LoadResult.ofPolls_inOrder (pace : Pace) (answer : Pipeline → StoreResult (List Document))
    (request : Request) (options : Options)
    (enough : (ofRequest (fun _ => answer) request options).2.length ≤ pace.answers) :
    ofPolls pace answer request options = ofRequest (fun _ => answer) request options := by
  have single := Job.poll_ends pace answer (Job.load request options) (Job.load_sends request options)
  have none : (Load.start options).sent.length = 0 := rfl
  rw [ofPolls, Job.finish_ends pace answer _ _ single (by rw [none, Nat.zero_add]; exact enough)]
  rfl

end DataGrid
