import DataGrid.Load.Basic
import DataGrid.Load.Ending
import DataGrid.Load.Polling
/-!
A job polled until it is over. What a poll does are steps of the job, and at least one of them if the
job is not over, so it takes only so many polls.
-/
namespace DataGrid

namespace Job

section Outcomes

theorem outcome?_eq_some {α : Type} {job : Job α} {outcome : Except LoadError α} :
    job.outcome? = some outcome ↔ job = .over outcome := by
  cases job <;> simp [outcome?]

theorem values?_eq_some {parts : List (Job Group)} {values : List Group}
    (all : values? parts = some values) : parts = values.map fun value => .over (.ok value) := by
  induction parts generalizing values with
  | nil => simp_all [values?]
  | cons part rest ih =>
      rw [values?] at all
      split at all
      · rename_i value ended
        obtain ⟨others, found, rfl⟩ := Option.map_eq_some_iff.mp all
        rw [outcome?_eq_some.mp ended, ih found, List.map_cons]
      · contradiction

theorem failure?_eq_some {crowded : Bool} {parts : List (Job Group)} {fault : LoadError}
    (failed : failure? crowded parts = some fault) : .over (.error fault) ∈ parts := by
  induction parts with
  | nil => contradiction
  | cons part rest ih =>
      rw [failure?] at failed
      split at failed
      · rename_i ended
        rw [outcome?_eq_some.mp ended, Option.some.inj failed]
        exact List.mem_cons_self
      · exact List.mem_cons_of_mem part (ih failed)
      · split at failed
        · contradiction
        · exact List.mem_cons_of_mem part (ih failed)

theorem not_failed {parts : List (Job Group)} (unfailed : failure? false parts = none)
    (fault : LoadError) : .over (.error fault) ∉ parts := by
  induction parts with
  | nil => exact List.not_mem_nil
  | cons part rest ih =>
      intro member
      rw [failure?] at unfailed
      split at unfailed
      · contradiction
      · rename_i value ended
        rcases List.mem_cons.mp member with rfl | member
        · simp [outcome?] at ended
        · exact ih unfailed member
      · rename_i waits
        rcases List.mem_cons.mp member with rfl | member
        · simp [outcome?] at waits
        · exact ih unfailed member

/-- Parts that are all over have failed, or yield their values. -/
theorem exists_waiting {crowded : Bool} {parts : List (Job Group)}
    (unfailed : failure? crowded parts = none) (incomplete : values? parts = none) :
    ∃ part ∈ parts, part.outcome? = none := by
  induction parts with
  | nil => contradiction
  | cons part rest ih =>
      cases ended : part.outcome? with
      | none => exact ⟨part, List.mem_cons_self, ended⟩
      | some outcome =>
          cases outcome with
          | error fault => simp [failure?, ended] at unfailed
          | ok value =>
              rw [failure?, ended] at unfailed
              rw [values?, ended] at incomplete
              obtain ⟨other, member, waits⟩ := ih unfailed (Option.map_eq_none_iff.mp incomplete)
              exact ⟨other, List.mem_cons_of_mem part member, waits⟩

end Outcomes

variable {answers : Answers}

theorem Runs.less {α : Type} {first job later : Job α} {before after : Session}
    (runs : Runs answers job before later after) (less : Relation.TransGen (Less answers) job first) :
    Relation.TransGen (Less answers) later first := by
  induction runs with
  | here => exact less
  | step next _ ih => exact ih (.trans (.single ⟨_, _, next⟩) less)

/-- A run of one step at least. -/
def Proceeds (answers : Answers) {α : Type} (job : Job α) (before : Session) (later : Job α)
    (after : Session) : Prop :=
  ∃ smaller middle, Step answers job before smaller middle ∧ Runs answers smaller middle later after

namespace Proceeds

variable {α β γ : Type} {before middle after : Session}

theorem runs {job later : Job α} (proceeds : Proceeds answers job before later after) :
    Runs answers job before later after := by
  obtain ⟨_, _, step, rest⟩ := proceeds
  exact .step step rest

theorem last {job later last : Job α} (runs : Runs answers job before later middle)
    (step : Step answers later middle last after) : Proceeds answers job before last after := by
  cases runs with
  | here => exact ⟨last, after, step, .here _ _⟩
  | step first rest => exact ⟨_, _, first, rest.trans (.step step (.here _ _))⟩

theorem trans {job later last : Job α} (first : Proceeds answers job before later middle)
    (rest : Runs answers later middle last after) : Proceeds answers job before last after := by
  obtain ⟨smaller, between, step, runs⟩ := first
  exact ⟨smaller, between, step, runs.trans rest⟩

theorem inFirst {first later : Job α} (proceeds : Proceeds answers first before later after)
    (second : Job β) (next : α → β → Job γ) :
    Proceeds answers (.both first second next) before (.both later second next) after := by
  obtain ⟨_, _, step, rest⟩ := proceeds
  exact ⟨_, _, .first _ _ second next _ _ step, rest.inFirst second next⟩

theorem inSecond {second later : Job β} (proceeds : Proceeds answers second before later after)
    (first : Job α) (begun : first.Begun) (next : α → β → Job γ) :
    Proceeds answers (.both first second next) before (.both first later next) after := by
  obtain ⟨_, _, step, rest⟩ := proceeds
  exact ⟨_, _, .second first _ _ next _ _ begun step, rest.inSecond first begun next⟩

theorem inPart {part later : Job Group} (proceeds : Proceeds answers part before later after)
    (parts : List (Job Group)) (place : Nat) (found : parts[place]? = some part)
    (next : List Group → Job α) :
    Proceeds answers (.each parts next) before (.each (parts.set place later) next) after := by
  obtain ⟨smaller, middle, step, rest⟩ := proceeds
  obtain ⟨inside, _⟩ := List.getElem?_eq_some_iff.mp found
  refine ⟨_, _, .part parts place part smaller next _ _ found step, ?_⟩
  have later := rest.inPart (parts.set place smaller) place (List.getElem?_set_self inside) next
  rwa [List.set_set] at later

theorem less {job later : Job α} (proceeds : Proceeds answers job before later after) :
    Relation.TransGen (Less answers) later job := by
  obtain ⟨smaller, between, step, runs⟩ := proceeds
  exact runs.less (.single ⟨before, between, step⟩)

end Proceeds

/-- A run that is of one step at least where a step `must` be made. -/
def Reaches (answers : Answers) (must : Prop) {α : Type} (job : Job α) (before : Session)
    (later : Job α) (after : Session) : Prop :=
  Runs answers job before later after ∧ (must → Proceeds answers job before later after)

theorem Proceeds.reaches {α : Type} {job later : Job α} {before after : Session} {must : Prop}
    (proceeds : Proceeds answers job before later after) :
    Reaches answers must job before later after :=
  ⟨proceeds.runs, fun _ => proceeds⟩

/-- A poll makes steps of a job, and one at least if it is not over and an answer can be given. -/
def Sound (answers : Answers) {α : Type} (job : Job α) (poll : Turn → Polled α) : Prop :=
  ∀ turn, Reaches answers (job.outcome? = none ∧ 0 < turn.left) job turn.session (poll turn).job
    (poll turn).turn.session

end Job

/-- A part that is polled is not over, and it is polled soundly. -/
structure Part.Sound (answers : Answers) (part : Part) : Prop where
  waits : ∀ poll, part.poll? = some poll → part.job.outcome? = none
  sound : ∀ poll, part.poll? = some poll → part.job.Sound answers poll

namespace Round

variable {answers : Answers} {α : Type} (next : List Group → Job α)

theorem put_jobs (round : Round) (place : Nat) (polled : Polled Group) :
    (round.put place polled).jobs = round.jobs.set place polled.job := by
  simp [put, jobs, List.map_set]

theorem put_sound {round : Round} (place : Nat) (polled : Polled Group)
    (sound : ∀ part ∈ round.parts, part.Sound answers) :
    ∀ part ∈ (round.put place polled).parts, part.Sound answers := by
  intro part member
  rcases List.mem_or_eq_of_mem_set member with before | rfl
  · exact sound part before
  · exact ⟨fun _ polls => (nomatch polls), fun _ polls => (nomatch polls)⟩

theorem polled_part {round : Round} {place : Nat} {poll : Turn → Polled Group}
    (sound : ∀ part ∈ round.parts, part.Sound answers)
    (polls : round.parts[place]?.bind Part.poll? = some poll) :
    ∃ job, round.jobs[place]? = some job ∧ job.outcome? = none ∧ job.Sound answers poll := by
  obtain ⟨part, found, polls⟩ := Option.bind_eq_some_iff.mp polls
  have known := sound part (List.mem_of_getElem? found)
  exact ⟨part.job, by simp [jobs, found], known.waits poll polls, known.sound poll polls⟩

theorem stops_failed {crowded : Bool} {round : Round} {place : Nat}
    (stopped : round.stops crowded place = true) : Job.failure? crowded round.jobs ≠ none := by
  intro unfailed
  rw [stops] at stopped
  cases crowded with
  | true => simp [unfailed] at stopped
  | false =>
      rw [if_neg Bool.false_ne_true] at stopped
      split at stopped
      · rename_i fault failed
        obtain ⟨part, found, ended⟩ := Option.bind_eq_some_iff.mp failed
        rw [Job.outcome?_eq_some.mp ended] at found
        exact Job.not_failed unfailed fault (List.mem_of_getElem? found)
      · contradiction

theorem pollAll_runs (crowded : Bool) (queue waiting : List Nat) (waited : Bool) (round : Round)
    (sound : ∀ part ∈ round.parts, part.Sound answers) :
    Job.Runs answers (.each round.jobs next) round.turn.session
      (.each (pollAll crowded queue waiting waited round).2.jobs next)
      (pollAll crowded queue waiting waited round).2.turn.session := by
  induction queue generalizing waiting waited round with
  | nil => exact .here _ _
  | cons place queue ih =>
      rw [pollAll]
      split
      · split
        · exact .here _ _
        · exact ih _ _ _ sound
      · rename_i poll polls
        obtain ⟨job, found, _, known⟩ := polled_part sound polls
        have one := (known round.turn).1.inPart round.jobs place found next
        rw [← put_jobs] at one
        have later := fun waiting waited =>
          one.trans (ih waiting waited _ (put_sound place (poll round.turn) sound))
        dsimp only
        split
        · split
          · exact one
          · exact later _ _
        · split
          · exact one
          · exact later _ _

/-- The first part that is still to be polled makes a step, if none before it has failed. -/
theorem pollAll_proceeds (crowded : Bool) (queue waiting : List Nat) (waited : Bool) (round : Round)
    (sound : ∀ part ∈ round.parts, part.Sound answers) (left : 0 < round.turn.left)
    (some : ∃ place ∈ queue, (round.parts[place]?.bind Part.poll?).isSome)
    (unfailed : Job.failure? crowded (pollAll crowded queue waiting waited round).2.jobs = none) :
    Job.Proceeds answers (.each round.jobs next) round.turn.session
      (.each (pollAll crowded queue waiting waited round).2.jobs next)
      (pollAll crowded queue waiting waited round).2.turn.session := by
  induction queue with
  | nil => simp at some
  | cons place queue ih =>
      rw [pollAll]
      split
      · rename_i none
        obtain ⟨other, member, polls⟩ := some
        rcases List.mem_cons.mp member with rfl | member
        · simp [none] at polls
        · rw [pollAll, none] at unfailed
          dsimp only at unfailed
          split
          · rename_i stopped
            rw [if_pos stopped] at unfailed
            exact absurd unfailed (stops_failed stopped)
          · rename_i further
            rw [if_neg further] at unfailed
            exact ih ⟨other, member, polls⟩ unfailed
      · rename_i poll polls
        obtain ⟨job, found, waits, known⟩ := polled_part sound polls
        have one := ((known round.turn).2 ⟨waits, left⟩).inPart round.jobs place found next
        rw [← put_jobs] at one
        have later := fun waiting waited => one.trans
          (pollAll_runs next crowded queue waiting waited _ (put_sound place (poll round.turn) sound))
        dsimp only
        split
        · split
          · exact one
          · exact later _ _
        · split
          · exact one
          · exact later _ _

theorem pollAll_idle (crowded : Bool) (queue waiting : List Nat) (waited : Bool) (round : Round)
    (none : ∀ place ∈ queue, (round.parts[place]?.bind Part.poll?) = none) :
    (pollAll crowded queue waiting waited round).2 = round := by
  induction queue with
  | nil => rfl
  | cons place queue ih =>
      rw [pollAll, none place List.mem_cons_self]
      dsimp only
      split
      · rfl
      · exact ih fun other member => none other (List.mem_cons_of_mem place member)

end Round

theorem Order.mem_queue (order : Order) {number place : Nat} (inside : place < number) :
    place ∈ order.queue number := by
  cases order with
  | parts queue inner =>
      by_cases queued : place ∈ queue <;> simp [Order.queue, queued, inside]
  | fresh => simp [Order.queue, inside]
  | both => simp [Order.queue, inside]

namespace Job

variable (pace : Pace) (answer : Pipeline → StoreResult (List Document))

theorem pollEach_jobs (parts : List (Job Group)) (orders : List Order) :
    (pollEach pace answer parts orders).map Part.job = parts := by
  induction parts generalizing orders with
  | nil => rfl
  | cons part rest ih => rw [pollEach, List.map_cons, ih]

theorem pollEach_polls (parts : List (Job Group)) (orders : List Order) (place : Nat) :
    ((pollEach pace answer parts orders)[place]?.bind Part.poll?).isSome ↔
      ∃ part, parts[place]? = some part ∧ part.outcome? = none := by
  induction parts generalizing orders place with
  | nil => simp [pollEach]
  | cons first rest ih =>
      rw [pollEach]
      cases place with
      | zero => cases ended : first.outcome? <;> simp [ended]
      | succ place => exact ih _ _

/-- A poll leaves no call unmade that can be made. -/
theorem poll_begun : ∀ {α : Type} (job : Job α) (order : Order) (turn : Turn),
    (poll pace answer job order turn).job.Begun
  | _, .over outcome, _, _ => by
      rw [poll]
      trivial
  | _, .fetch pipeline next, order, turn => by
      rw [poll]
      dsimp only
      split
      · trivial
      · exact poll_begun (next (answer pipeline)) _ _
  | _, .claim pipeline next, order, turn => by
      rw [poll]
      dsimp only
      split
      · split
        · trivial
        · exact poll_begun (next (some (answer pipeline))) _ _
      · exact poll_begun (next none) _ _
  | _, .wait pipeline next, order, turn => by
      rw [poll]
      dsimp only
      split
      · trivial
      · exact poll_begun (next (answer pipeline)) _ _
  | _, .both first second next, order, turn => by
      rw [poll]
      dsimp only
      split
      · trivial
      · split
        · trivial
        · rename_i value other _ _
          exact poll_begun (next value other) _ _
        · trivial
  | _, .each parts next, order, turn => by
      rw [poll]
      dsimp only
      split
      · trivial
      · split
        · rename_i values _
          exact poll_begun (next values) _ _
        · trivial

variable {pace answer} {answers : Answers}

theorem poll_over {α : Type} (outcome : Except LoadError α) (order : Order) (turn : Turn) :
    poll pace answer (.over outcome) order turn = ⟨.over outcome, .fresh, turn⟩ := by
  rw [poll]

theorem sound_wait {α : Type} (pipeline : Pipeline) (next : StoreResult (List Document) → Job α)
    (given : answers pipeline (answer pipeline)) (order : Order)
    (later : Sound answers (next (answer pipeline))
      (poll pace answer (next (answer pipeline)) .fresh)) :
    Sound answers (.wait pipeline next) (poll pace answer (.wait pipeline next) order) := by
  rintro ⟨session, left⟩
  cases left with
  | zero => exact ⟨.here _ _, fun must => absurd must.2 (Nat.lt_irrefl 0)⟩
  | succ left =>
      rw [poll]
      exact Proceeds.reaches
        ⟨_, _, .answered pipeline next session _ given, (later ⟨session, left⟩).1⟩

theorem poll_fetch {α : Type} (pipeline : Pipeline) (next : StoreResult (List Document) → Job α)
    (order : Order) (session : Session) (left : Nat) :
    poll pace answer (.fetch pipeline next) order ⟨session, left⟩ =
      poll pace answer (.wait pipeline next) order ⟨session.send pipeline, left⟩ := by
  cases left <;> rfl

theorem poll_claim {α : Type} (pipeline : Pipeline)
    (next : Option (StoreResult (List Document)) → Job α) (order : Order) (session : Session)
    (limiter : Limiter) (left : Nat) (free : session.limiter.acquire? = some limiter) :
    poll pace answer (.claim pipeline next) order ⟨session, left⟩ =
      poll pace answer (.wait pipeline fun answer => next (some answer)) order
        ⟨{ session.send pipeline with limiter := limiter }, left⟩ := by
  rw [poll]
  dsimp only
  rw [free]
  cases left <;> rfl

theorem sound_both {α β γ : Type} {first : Job α} {second : Job β} (next : α → β → Job γ)
    (order : Order) (left : Sound answers first (poll pace answer first order.sides.1))
    (right : Sound answers second (poll pace answer second order.sides.2))
    (later : ∀ value other, Sound answers (next value other)
      (poll pace answer (next value other) .fresh)) :
    Sound answers (.both first second next) (poll pace answer (.both first second next) order) := by
  intro turn
  have begun := poll_begun pace answer first order.sides.1 turn
  have one := (left turn).1.inFirst second next
  have rest := (right (poll pace answer first order.sides.1 turn).turn).1.inSecond _ begun next
  rw [poll]
  dsimp only
  split
  · rename_i fault failed
    rw [outcome?_eq_some.mp failed] at one
    exact (Proceeds.last one (.firstFailed _ _ _ _)).reaches
  · rename_i ended unfailed
    split
    · rename_i fault failed
      have both := one.trans rest
      rw [outcome?_eq_some.mp failed] at both
      exact (Proceeds.last both (.secondFailed _ _ _ _)).reaches
    · rename_i value other ended also
      have both := one.trans rest
      rw [outcome?_eq_some.mp ended, outcome?_eq_some.mp also] at both
      exact ((Proceeds.last both (.bothOver _ _ _ _)).trans (later value other _).1).reaches
    · rename_i otherUnfailed unended
      refine ⟨one.trans rest, fun must => ?_⟩
      cases waits : first.outcome? with
      | none => exact (((left turn).2 ⟨waits, must.2⟩).inFirst second next).trans rest
      | some outcome =>
          -- a job that is over leaves the whole poll to the second one
          obtain rfl := outcome?_eq_some.mp waits
          rw [poll_over] at *
          cases outcome with
          | error fault => exact absurd rfl (unfailed fault)
          | ok value =>
              cases waits : second.outcome? with
              | none => exact ((right turn).2 ⟨waits, must.2⟩).inSecond _ begun next
              | some outcome =>
                  obtain rfl := outcome?_eq_some.mp waits
                  rw [poll_over] at *
                  cases outcome with
                  | error fault => exact absurd rfl (otherUnfailed fault)
                  | ok other => exact absurd rfl (unended value other rfl)

theorem sound_each {α : Type} {parts : List (Job Group)} (next : List Group → Job α) (order : Order)
    (sound : ∀ part ∈ pollEach pace answer parts order.inner, part.Sound answers)
    (later : ∀ values, Sound answers (next values) (poll pace answer (next values) .fresh)) :
    Sound answers (.each parts next) (poll pace answer (.each parts next) order) := by
  intro turn
  rw [poll]
  dsimp only
  generalize decide (pace.crowd ≤ parts.length) = crowded
  generalize ended : Round.pollAll crowded _ _ _ _ = polled
  obtain ⟨queue, round⟩ := polled
  have runs := Round.pollAll_runs next crowded (order.queue parts.length) [] false
    ⟨pollEach pace answer parts order.inner, turn⟩ sound
  rw [ended, Round.jobs, pollEach_jobs] at runs
  dsimp only
  split
  · rename_i fault failed
    exact (Proceeds.last runs (.partFailed _ fault _ _ (failure?_eq_some failed))).reaches
  · rename_i unfailed
    split
    · rename_i values all
      rw [values?_eq_some all] at runs
      exact ((Proceeds.last runs (.allOver _ _ _)).trans (later values _).1).reaches
    · rename_i incomplete
      refine ⟨runs, fun must => ?_⟩
      by_cases waits : ∃ part ∈ parts, part.outcome? = none
      · obtain ⟨part, member, waits⟩ := waits
        obtain ⟨place, inside, rfl⟩ := List.mem_iff_getElem.mp member
        have proceeds := Round.pollAll_proceeds next crowded (order.queue parts.length) [] false
          ⟨pollEach pace answer parts order.inner, turn⟩ sound must.2
          ⟨place, order.mem_queue inside, (pollEach_polls pace answer parts order.inner place).mpr
            ⟨_, List.getElem?_eq_getElem inside, waits⟩⟩
          (ended ▸ unfailed)
        rwa [ended, Round.jobs, pollEach_jobs] at proceeds
      · -- nothing is polled where all parts are over, and then they have failed or yield values
        have idle := Round.pollAll_idle crowded (order.queue parts.length) [] false
          ⟨pollEach pace answer parts order.inner, turn⟩ fun place _ => by
            rw [← Option.not_isSome_iff_eq_none, pollEach_polls]
            rintro ⟨part, found, unended⟩
            exact waits ⟨part, List.mem_of_getElem? found, unended⟩
        rw [ended] at idle
        rw [show round = _ from idle, Round.jobs, pollEach_jobs] at unfailed incomplete
        exact absurd (exists_waiting unfailed incomplete) waits

mutual

theorem poll_sound (given : ∀ pipeline, answers pipeline (answer pipeline)) :
    ∀ {α : Type} (job : Job α) (order : Order), Sound answers job (poll pace answer job order)
  | _, .over outcome, order => fun turn => by
      rw [poll_over]
      exact ⟨.here _ _, fun must => (nomatch must.1)⟩
  | _, .fetch pipeline next, order => fun ⟨session, left⟩ => by
      have sent := sound_wait pipeline next (given pipeline) order
        (poll_sound given (next (answer pipeline)) .fresh) ⟨session.send pipeline, left⟩
      rw [poll_fetch]
      exact Proceeds.reaches ⟨_, _, .sent pipeline next session, sent.1⟩
  | _, .claim pipeline next, order => fun ⟨session, left⟩ => by
      cases free : session.limiter.acquire? with
      | some limiter =>
          have sent := sound_wait pipeline (fun answer => next (some answer)) (given pipeline) order
            (poll_sound given (next (some (answer pipeline))) .fresh)
            ⟨{ session.send pipeline with limiter := limiter }, left⟩
          rw [poll_claim _ _ _ _ _ _ free]
          exact Proceeds.reaches ⟨_, _, .granted pipeline next session limiter free, sent.1⟩
      | none =>
          have later := poll_sound given (next none) .fresh ⟨session, left⟩
          rw [poll]
          dsimp only
          rw [free]
          exact Proceeds.reaches ⟨_, _, .refused pipeline next session free, later.1⟩
  | _, .wait pipeline next, order =>
      sound_wait pipeline next (given pipeline) order (poll_sound given (next (answer pipeline)) .fresh)
  | _, .both first second next, order =>
      sound_both next order (poll_sound given first _) (poll_sound given second _)
        fun value other => poll_sound given (next value other) .fresh
  | _, .each parts next, order =>
      sound_each next order (pollEach_sound given parts order.inner)
        fun values => poll_sound given (next values) .fresh

theorem pollEach_sound (given : ∀ pipeline, answers pipeline (answer pipeline)) :
    ∀ (parts : List (Job Group)) (orders : List Order),
      ∀ part ∈ pollEach pace answer parts orders, part.Sound answers
  | [], _ => fun _ member => nomatch member
  | part :: rest, orders => by
      intro other member
      rw [pollEach] at member
      rcases List.mem_cons.mp member with rfl | member
      · constructor
        · intro poll polls
          cases ended : part.outcome? with
          | none => rfl
          | some outcome => simp [ended] at polls
        · intro poll polls
          dsimp only at polls
          split at polls
          · contradiction
          · cases polls
            exact poll_sound given part _
      · exact pollEach_sound given rest _ other member

end

/-- Polls a job until it is over. -/
def finish {α : Type} (pace : Pace) (answer : Pipeline → StoreResult (List Document)) (job : Job α)
    (order : Order) (session : Session) : Except LoadError α × Session :=
  match _ : job.outcome? with
  | some outcome => (outcome, session)
  | none =>
      let polled := poll pace answer job order ⟨session, pace.answers⟩
      finish pace answer polled.job polled.order polled.turn.session
termination_by (ends fun pipeline given => answer pipeline = given).wrap job
decreasing_by
  exact ((poll_sound (fun _ => rfl) job order ⟨session, pace.answers⟩).2
    ⟨‹job.outcome? = none›, pace.positive⟩).less

end Job

/-- Loads a request in polls; also tells which pipelines were sent. -/
def LoadResult.ofPolls (pace : Pace) (answer : Pipeline → StoreResult (List Document))
    (request : Request) (options : Options) : Except LoadError LoadResult × List Pipeline :=
  let (result, session) := (Job.load request options).finish pace answer .fresh (Load.start options)
  (result, session.sent)

end DataGrid
