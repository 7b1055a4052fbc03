import DataGrid.Load.Running
import DataGrid.Proofs.Load.InOrder
/-!
What a job sends, by what it gives. A job that has been done made its calls in some order: side by
side the calls of the parts interleave, and one after the other they follow each other. In either case
each part makes calls of its own, whatever goes on beside it.
-/
namespace DataGrid

/-- A pipeline that was sent, or one for which a slot was asked. -/
inductive Event where
  | fetched (pipeline : Pipeline)
  | claimed (pipeline : Pipeline) (granted : Bool)

/-- The session after an event, if it can come about in it. -/
def Session.after? (session : Session) : Event → Option Session
  | .fetched pipeline => some (session.send pipeline)
  | .claimed pipeline granted =>
      match session.limiter.acquire? with
      | some limiter =>
          if granted then some { session.send pipeline with limiter := limiter } else none
      | none => if granted then none else some session

section Interleaving

variable {ι : Type} {ordered : Bool}

/-- A list is made of two others, each in its order. Where it is ordered itself, the first stands before
the second. -/
inductive Interleaves (ordered : Bool) : List ι → List ι → List ι → Prop
  | nil : Interleaves ordered [] [] []
  | left {item : ι} {first second whole : List ι} (rest : Interleaves ordered first second whole) :
      Interleaves ordered (item :: first) second (item :: whole)
  | right {item : ι} {first second whole : List ι} (late : ordered = true → first = [])
      (rest : Interleaves ordered first second whole) :
      Interleaves ordered first (item :: second) (item :: whole)

/-- The same, where the first list makes the start unless it has begun before. -/
inductive Joins (ordered : Bool) (begun : Prop) : List ι → List ι → List ι → Prop
  | begun {first second whole : List ι} (known : begun)
      (rest : Interleaves ordered first second whole) : Joins ordered begun first second whole
  | opens {item : ι} {first second whole : List ι} (rest : Interleaves ordered first second whole) :
      Joins ordered begun (item :: first) second (item :: whole)

/-- A list is made of any number of others. -/
def Merges (ordered : Bool) : List (List ι) → List ι → Prop
  | [], whole => whole = []
  | part :: parts, whole => ∃ rest, Merges ordered parts rest ∧ Interleaves ordered part rest whole

namespace Interleaves

theorem second (items : List ι) : Interleaves ordered [] items items := by
  induction items with
  | nil => exact .nil
  | cons item rest ih => exact .right (fun _ => rfl) ih

theorem append (first second : List ι) : Interleaves ordered first second (first ++ second) := by
  induction first with
  | nil => exact .second second
  | cons item rest ih => exact .left ih

theorem eq_append {first second whole : List ι} (made : Interleaves true first second whole) :
    whole = first ++ second := by
  induction made with
  | nil => rfl
  | left _ ih => rw [ih, List.cons_append]
  | right late _ ih =>
      obtain rfl := late rfl
      rw [ih, List.nil_append, List.nil_append]

theorem eq_second {second whole : List ι} (made : Interleaves ordered [] second whole) :
    whole = second := by
  generalize nothing : ([] : List ι) = first at made
  induction made with
  | nil => rfl
  | left => contradiction
  | right _ _ ih => rw [ih nothing]

theorem perm {first second whole : List ι} (made : Interleaves ordered first second whole) :
    whole.Perm (first ++ second) := by
  induction made with
  | nil => exact .nil
  | left _ ih => exact ih.cons _
  | right _ _ ih => exact (ih.cons _).trans List.perm_middle.symm

theorem map {κ : Type} (change : ι → κ) {first second whole : List ι}
    (made : Interleaves ordered first second whole) :
    Interleaves ordered (first.map change) (second.map change) (whole.map change) := by
  induction made with
  | nil => exact .nil
  | left _ ih => exact .left ih
  | right late _ ih => exact .right (fun strict => by rw [late strict, List.map_nil]) ih

/-- What comes first in the whole may be put before either of the two. -/
theorem opened_first (opening : Option ι) {first second whole : List ι}
    (made : Interleaves ordered first second whole) :
    Interleaves ordered (opening.toList ++ first) second (opening.toList ++ whole) := by
  cases opening with
  | none => exact made
  | some item => exact .left made

theorem opened_second (opening : Option ι) {first second whole : List ι}
    (made : Interleaves false first second whole) :
    Interleaves false first (opening.toList ++ second) (opening.toList ++ whole) := by
  cases opening with
  | none => exact made
  | some item => exact .right (fun strict => nomatch strict) made

end Interleaves

theorem Joins.interleaves {begun : Prop} {first second whole : List ι}
    (made : Joins ordered begun first second whole) : Interleaves ordered first second whole := by
  cases made with
  | begun _ rest => exact rest
  | opens rest => exact .left rest

theorem Joins.append {begun : Prop} (first second : List ι) (opens : ¬ begun → first ≠ []) :
    Joins ordered begun first second (first ++ second) := by
  by_cases known : begun
  · exact .begun known (.append first second)
  · obtain ⟨item, rest, rfl⟩ := List.exists_cons_of_ne_nil (opens known)
    exact .opens (.append rest second)

namespace Merges

theorem flatten (parts : List (List ι)) : Merges ordered parts parts.flatten := by
  induction parts with
  | nil => rfl
  | cons part parts ih => exact ⟨parts.flatten, ih, .append part _⟩

theorem eq_flatten {parts : List (List ι)} {whole : List ι} (made : Merges true parts whole) :
    whole = parts.flatten := by
  induction parts generalizing whole with
  | nil => exact made
  | cons part parts ih =>
      obtain ⟨rest, later, joined⟩ := made
      rw [joined.eq_append, ih later, List.flatten_cons]

theorem perm {parts : List (List ι)} {whole : List ι} (made : Merges ordered parts whole) :
    whole.Perm parts.flatten := by
  induction parts generalizing whole with
  | nil => exact .of_eq made
  | cons part parts ih =>
      obtain ⟨rest, later, joined⟩ := made
      exact joined.perm.trans ((ih later).append_left part)

theorem map {κ : Type} (change : ι → κ) {parts : List (List ι)} {whole : List ι}
    (made : Merges ordered parts whole) :
    Merges ordered (parts.map (List.map change)) (whole.map change) := by
  induction parts generalizing whole with
  | nil =>
      obtain rfl : whole = [] := made
      rfl
  | cons part parts ih =>
      obtain ⟨rest, later, joined⟩ := made
      exact ⟨rest.map change, ih later, joined.map change⟩

end Merges

end Interleaving

namespace Job

variable {α β : Type} {ordered : Bool} {answers : Answers}

mutual

/-- The events of a job that gives a value, in an order in which they can come about. -/
def Gives (ordered : Bool) (answers : Answers) {α : Type} : Job α → List Event → α → Prop
  | .over outcome, events, value => outcome = .ok value ∧ events = []
  | .fetch pipeline next, events, value => ∃ answer rest, answers pipeline answer ∧
      Gives ordered answers (next answer) rest value ∧ events = .fetched pipeline :: rest
  | .claim pipeline next, events, value =>
      (∃ answer rest, answers pipeline answer ∧
        Gives ordered answers (next (some answer)) rest value ∧
        events = .claimed pipeline true :: rest) ∨
      ∃ rest, Gives ordered answers (next none) rest value ∧
        events = .claimed pipeline false :: rest
  | .wait pipeline next, events, value => ∃ answer, answers pipeline answer ∧
      Gives ordered answers (next answer) events value
  | .both first second next, events, value => ∃ one two own others whole rest,
      Gives ordered answers first own one ∧ Gives ordered answers second others two ∧
      Joins ordered first.Begun own others whole ∧
      Gives ordered answers (next one two) rest value ∧ events = whole ++ rest
  | .each parts next, events, value => ∃ values traces whole rest,
      AllGive ordered answers parts traces values ∧ Merges ordered traces whole ∧
      Gives ordered answers (next values) rest value ∧ events = whole ++ rest

def AllGive (ordered : Bool) (answers : Answers) :
    List (Job Group) → List (List Event) → List Group → Prop
  | [], traces, values => traces = [] ∧ values = []
  | part :: parts, traces, values => ∃ trace others value rest,
      Gives ordered answers part trace value ∧ AllGive ordered answers parts others rest ∧
      traces = trace :: others ∧ values = value :: rest

end

theorem gives_pure {value result : α} {events : List Event}
    (given : Gives ordered answers (pure value) events result) : result = value ∧ events = [] := by
  obtain ⟨same, none⟩ := given
  exact ⟨(Except.ok.inj same).symm, none⟩

theorem gives_bind (after : α → Job β) (result : β) : ∀ (job : Job α) (events : List Event),
    Gives ordered answers (job >>= after) events result →
    ∃ value own rest, Gives ordered answers job own value ∧
      Gives ordered answers (after value) rest result ∧ events = own ++ rest
  | .over (.ok value), events, given => ⟨value, [], events, ⟨rfl, rfl⟩, given, rfl⟩
  | .over (.error fault), events, given => nomatch given.1
  | .fetch pipeline next, events, given => by
      obtain ⟨answer, rest, known, later, rfl⟩ := given
      obtain ⟨value, own, others, first, second, rfl⟩ := gives_bind after result _ _ later
      exact ⟨value, _, others, ⟨answer, own, known, first, rfl⟩, second, rfl⟩
  | .claim pipeline next, events, given => by
      rcases given with ⟨answer, rest, known, later, rfl⟩ | ⟨rest, later, rfl⟩
      · obtain ⟨value, own, others, first, second, rfl⟩ := gives_bind after result _ _ later
        exact ⟨value, _, others, .inl ⟨answer, own, known, first, rfl⟩, second, rfl⟩
      · obtain ⟨value, own, others, first, second, rfl⟩ := gives_bind after result _ _ later
        exact ⟨value, _, others, .inr ⟨own, first, rfl⟩, second, rfl⟩
  | .wait pipeline next, events, given => by
      obtain ⟨answer, known, later⟩ := given
      obtain ⟨value, own, others, first, second, rfl⟩ := gives_bind after result _ _ later
      exact ⟨value, own, others, ⟨answer, known, first⟩, second, rfl⟩
  | .both first second next, events, given => by
      obtain ⟨one, two, own, others, whole, rest, left, right, joined, later, rfl⟩ := given
      obtain ⟨value, middle, last, ended, further, rfl⟩ := gives_bind after result _ _ later
      exact ⟨value, whole ++ middle, last,
        ⟨one, two, own, others, whole, middle, left, right, joined, ended, rfl⟩, further,
        (List.append_assoc _ _ _).symm⟩
  | .each parts next, events, given => by
      obtain ⟨values, traces, whole, rest, all, merged, later, rfl⟩ := given
      obtain ⟨value, middle, last, ended, further, rfl⟩ := gives_bind after result _ _ later
      exact ⟨value, whole ++ middle, last,
        ⟨values, traces, whole, middle, all, merged, ended, rfl⟩, further,
        (List.append_assoc _ _ _).symm⟩

theorem gives_map (change : α → β) (result : β) (job : Job α) (events : List Event)
    (given : Gives ordered answers (change <$> job) events result) :
    ∃ value, Gives ordered answers job events value ∧ result = change value := by
  obtain ⟨value, own, rest, first, last, rfl⟩ := gives_bind _ result job events given
  obtain ⟨rfl, rfl⟩ := gives_pure last
  exact ⟨value, by rwa [List.append_nil], rfl⟩

/-- A job that has not begun does so with its first event. -/
theorem gives_opens {job : Job α} {events : List Event} {value : α} (fresh : ¬ job.Begun)
    (given : Gives ordered answers job events value) : events ≠ [] := by
  cases job with
  | fetch pipeline next =>
      obtain ⟨_, _, _, _, rfl⟩ := given
      exact List.cons_ne_nil _ _
  | claim pipeline next =>
      rcases given with ⟨_, _, _, _, rfl⟩ | ⟨_, _, rfl⟩
      · exact List.cons_ne_nil _ _
      · exact List.cons_ne_nil _ _
  | _ => exact absurd trivial fresh

section Running

theorem allGive_over (values : List Group) :
    AllGive ordered answers (values.map fun value => .over (.ok value)) (values.map fun _ => [])
      values := by
  induction values with
  | nil => exact ⟨rfl, rfl⟩
  | cons value rest ih => exact ⟨[], _, value, rest, ⟨rfl, rfl⟩, ih, rfl, rfl⟩

theorem merges_nothing (values : List Group) :
    Merges ordered (values.map fun _ => ([] : List Event)) [] := by
  induction values with
  | nil => rfl
  | cons value rest ih => exact ⟨[], ih, .nil⟩

/-- If one of the parts goes on, its event comes first of all. -/
theorem allGive_set (parts : List (Job Group)) (place : Nat) (part later : Job Group)
    (opening : Option Event) (found : parts[place]? = some part)
    (back : ∀ rest value, Gives false answers later rest value →
      Gives false answers part (opening.toList ++ rest) value)
    (traces : List (List Event)) (values : List Group) (whole : List Event)
    (all : AllGive false answers (parts.set place later) traces values)
    (merged : Merges false traces whole) :
    ∃ others, AllGive false answers parts others values ∧
      Merges false others (opening.toList ++ whole) := by
  induction parts generalizing place traces values whole with
  | nil => simp at found
  | cons head rest ih =>
      cases place with
      | zero =>
          obtain rfl : head = part := by simpa using found
          obtain ⟨trace, others, value, values, given, all, rfl, rfl⟩ := all
          obtain ⟨between, merged, joined⟩ := merged
          exact ⟨_, ⟨_, others, value, values, back trace value given, all, rfl, rfl⟩, between, merged,
            joined.opened_first opening⟩
      | succ place =>
          obtain ⟨trace, others, value, values, given, all, rfl, rfl⟩ := all
          obtain ⟨between, merged, joined⟩ := merged
          obtain ⟨others, all, merged⟩ := ih place (by simpa using found) others values between all
            merged
          exact ⟨_, ⟨trace, others, value, values, given, all, rfl, rfl⟩, _, merged,
            joined.opened_second opening⟩

/-- What a step does to the session is the first event of a job that gives what the job after it
gives. -/
theorem Step.gives {job later : Job α} {before after : Session}
    (step : Step answers job before later after) :
    ∃ opening : Option Event, opening.toList.foldlM Session.after? before = some after ∧
      (¬ job.Begun → opening ≠ none) ∧
      ∀ rest value, Gives false answers later rest value →
        Gives false answers job (opening.toList ++ rest) value := by
  induction step with
  | sent pipeline next session =>
      refine ⟨some (.fetched pipeline), rfl, fun _ => nofun, ?_⟩
      rintro rest value ⟨answer, known, given⟩
      exact ⟨answer, rest, known, given, rfl⟩
  | granted pipeline next session limiter free =>
      refine ⟨some (.claimed pipeline true), by simp [Session.after?, free], fun _ => nofun, ?_⟩
      rintro rest value ⟨answer, known, given⟩
      exact .inl ⟨answer, rest, known, given, rfl⟩
  | refused pipeline next session full =>
      refine ⟨some (.claimed pipeline false), by simp [Session.after?, full], fun _ => nofun, ?_⟩
      intro rest value given
      exact .inr ⟨rest, given, rfl⟩
  | answered pipeline next session answer known =>
      exact ⟨none, rfl, fun fresh => absurd trivial fresh, fun rest value given =>
        ⟨answer, known, given⟩⟩
  | first first later second next before after _ ih =>
      obtain ⟨opening, changed, opens, back⟩ := ih
      refine ⟨opening, changed, fun fresh => absurd trivial fresh, ?_⟩
      rintro _ value ⟨one, two, own, others, whole, rest, left, right, joined, given, rfl⟩
      refine ⟨one, two, _, others, opening.toList ++ whole, rest, back own one left, right, ?_, given,
        (List.append_assoc _ _ _).symm⟩
      cases opening with
      | none => exact .begun (by_contra fun fresh => opens fresh rfl) joined.interleaves
      | some event => exact .opens joined.interleaves
  | second first second later next before after begun _ ih =>
      obtain ⟨opening, changed, _, back⟩ := ih
      refine ⟨opening, changed, fun fresh => absurd trivial fresh, ?_⟩
      rintro _ value ⟨one, two, own, others, whole, rest, left, right, joined, given, rfl⟩
      exact ⟨one, two, own, _, opening.toList ++ whole, rest, left, back others two right,
        .begun begun (joined.interleaves.opened_second opening), given, (List.append_assoc _ _ _).symm⟩
  | bothOver value other next session =>
      exact ⟨none, rfl, fun fresh => absurd trivial fresh, fun rest result given =>
        ⟨value, other, [], [], [], rest, ⟨rfl, rfl⟩, ⟨rfl, rfl⟩, .begun trivial .nil, given, rfl⟩⟩
  | firstFailed | secondFailed | partFailed =>
      exact ⟨none, rfl, fun fresh => absurd trivial fresh, fun rest value given => nomatch given.1⟩
  | part parts place part later next before after found _ ih =>
      obtain ⟨opening, changed, _, back⟩ := ih
      refine ⟨opening, changed, fun fresh => absurd trivial fresh, ?_⟩
      rintro _ value ⟨values, traces, whole, rest, all, merged, given, rfl⟩
      obtain ⟨others, all, merged⟩ := allGive_set parts place part later opening found back traces
        values whole all merged
      exact ⟨values, others, _, rest, all, merged, given, (List.append_assoc _ _ _).symm⟩
  | allOver values next session =>
      exact ⟨none, rfl, fun fresh => absurd trivial fresh, fun rest result given =>
        ⟨values, _, [], rest, allGive_over values, merges_nothing values, given, rfl⟩⟩

/-- A run to a value makes the events of a job that gives it. -/
theorem Runs.gives {job : Job α} {before after : Session} {value : α}
    (runs : Runs answers job before (.over (.ok value)) after) :
    ∃ events : List Event, events.foldlM Session.after? before = some after ∧
      Gives false answers job events value := by
  generalize ended : Job.over (.ok value) = last at runs
  induction runs with
  | here job session =>
      subst ended
      exact ⟨[], rfl, rfl, rfl⟩
  | step first _ ih =>
      obtain ⟨events, later, given⟩ := ih ended
      obtain ⟨opening, changed, _, back⟩ := first.gives
      refine ⟨opening.toList ++ events, ?_, back events value given⟩
      rw [List.foldlM_append, changed]
      exact later

end Running

section Order

mutual

/-- The same calls could have been made one after the other. -/
theorem gives_sorted : ∀ {α : Type} (job : Job α) (events : List Event) (value : α),
    Gives ordered answers job events value →
    ∃ sorted, Gives true answers job sorted value ∧ events.Perm sorted
  | _, .over outcome, events, value, given => ⟨events, given, .refl events⟩
  | _, .fetch pipeline next, events, value, given => by
      obtain ⟨answer, rest, known, later, rfl⟩ := given
      obtain ⟨sorted, again, same⟩ := gives_sorted (next answer) rest value later
      exact ⟨_, ⟨answer, sorted, known, again, rfl⟩, same.cons _⟩
  | _, .claim pipeline next, events, value, given => by
      rcases given with ⟨answer, rest, known, later, rfl⟩ | ⟨rest, later, rfl⟩
      · obtain ⟨sorted, again, same⟩ := gives_sorted (next (some answer)) rest value later
        exact ⟨_, .inl ⟨answer, sorted, known, again, rfl⟩, same.cons _⟩
      · obtain ⟨sorted, again, same⟩ := gives_sorted (next none) rest value later
        exact ⟨_, .inr ⟨sorted, again, rfl⟩, same.cons _⟩
  | _, .wait pipeline next, events, value, given => by
      obtain ⟨answer, known, later⟩ := given
      obtain ⟨sorted, again, same⟩ := gives_sorted (next answer) events value later
      exact ⟨sorted, ⟨answer, known, again⟩, same⟩
  | _, .both first second next, events, value, given => by
      obtain ⟨one, two, own, others, whole, rest, left, right, joined, later, rfl⟩ := given
      obtain ⟨own', left', sameOwn⟩ := gives_sorted first own one left
      obtain ⟨others', right', sameOthers⟩ := gives_sorted second others two right
      obtain ⟨rest', later', sameRest⟩ := gives_sorted (next one two) rest value later
      refine ⟨(own' ++ others') ++ rest', ⟨one, two, own', others', _, rest', left', right',
        .append own' others' fun fresh => gives_opens fresh left', later', rfl⟩, ?_⟩
      exact (joined.interleaves.perm.trans (sameOwn.append sameOthers)).append sameRest
  | _, .each parts next, events, value, given => by
      obtain ⟨values, traces, whole, rest, all, merged, later, rfl⟩ := given
      obtain ⟨traces', all', sameTraces⟩ := allGive_sorted parts traces values all
      obtain ⟨rest', later', sameRest⟩ := gives_sorted (next values) rest value later
      refine ⟨traces'.flatten ++ rest',
        ⟨values, traces', _, rest', all', .flatten traces', later', rfl⟩, ?_⟩
      exact (merged.perm.trans sameTraces).append sameRest

theorem allGive_sorted : ∀ (parts : List (Job Group)) (traces : List (List Event))
    (values : List Group), AllGive ordered answers parts traces values →
    ∃ sorted, AllGive true answers parts sorted values ∧ traces.flatten.Perm sorted.flatten
  | [], traces, values, all => ⟨traces, all, .refl _⟩
  | part :: parts, traces, values, all => by
      obtain ⟨trace, others, value, rest, given, all, rfl, rfl⟩ := all
      obtain ⟨trace', given', same⟩ := gives_sorted part trace value given
      obtain ⟨others', all', sameOthers⟩ := allGive_sorted parts others rest all
      exact ⟨trace' :: others', ⟨trace', others', value, rest, given', all', rfl, rfl⟩,
        same.append sameOthers⟩

end

variable (store : Store)

open Load (run run_bind_ok)

mutual

/-- A job that is done in order makes the events of a job that gives its value, part by part. -/
theorem inOrder_gives : ∀ {α : Type} (job : Job α) (before after : Session) (value : α),
    run (job.inOrder store) before = (.ok value, after) →
    ∃ events : List Event, events.foldlM Session.after? before = some after ∧
      Gives true store.answers job events value
  | _, .over outcome, before, after, value, ran => by
      obtain ⟨same, rfl⟩ := Prod.mk.inj ran
      exact ⟨[], rfl, same, rfl⟩
  | _, .fetch pipeline next, before, after, value, ran => by
      obtain ⟨rest, later, given⟩ := inOrder_gives (next (store before.sent pipeline))
        (before.send pipeline) after value ran
      exact ⟨.fetched pipeline :: rest, later, _, rest, ⟨_, rfl⟩, given, rfl⟩
  | _, .claim pipeline next, before, after, value, ran => by
      rw [run_claim] at ran
      cases slot : before.limiter.acquire? with
      | none =>
          rw [slot] at ran
          obtain ⟨rest, later, given⟩ := inOrder_gives (next none) before after value ran
          exact ⟨.claimed pipeline false :: rest, by simpa [Session.after?, slot] using later,
            .inr ⟨rest, given, rfl⟩⟩
      | some limiter =>
          rw [slot] at ran
          obtain ⟨rest, later, given⟩ := inOrder_gives (next (some (store before.sent pipeline)))
            { before.send pipeline with limiter := limiter } after value ran
          exact ⟨.claimed pipeline true :: rest, by simpa [Session.after?, slot] using later,
            .inl ⟨_, rest, ⟨_, rfl⟩, given, rfl⟩⟩
  | _, .wait pipeline next, before, after, value, ran => by
      obtain ⟨events, later, given⟩ := inOrder_gives (next (store before.sent pipeline)) before after
        value ran
      exact ⟨events, later, _, ⟨_, rfl⟩, given⟩
  | _, .both first second next, before, after, value, ran => by
      obtain ⟨one, middle, left, ran⟩ := (run_bind_ok _ _ _ _ _).mp ran
      obtain ⟨two, last, right, ran⟩ := (run_bind_ok _ _ _ _ _).mp ran
      obtain ⟨own, changed, leftGives⟩ := inOrder_gives first before middle one left
      obtain ⟨others, changedToo, rightGives⟩ := inOrder_gives second middle last two right
      obtain ⟨rest, later, given⟩ := inOrder_gives (next one two) last after value ran
      refine ⟨(own ++ others) ++ rest, ?_, one, two, own, others, _, rest, leftGives, rightGives,
        .append own others fun fresh => gives_opens fresh leftGives, given, rfl⟩
      simp [List.foldlM_append, changed, changedToo, later]
  | _, .each parts next, before, after, value, ran => by
      obtain ⟨values, middle, all, ran⟩ := (run_bind_ok _ _ _ _ _).mp ran
      obtain ⟨traces, changed, allGives⟩ := allInOrder_give parts before middle values all
      obtain ⟨rest, later, given⟩ := inOrder_gives (next values) middle after value ran
      refine ⟨traces.flatten ++ rest, ?_, values, traces, _, rest, allGives, .flatten traces, given,
        rfl⟩
      simp [List.foldlM_append, changed, later]

theorem allInOrder_give : ∀ (parts : List (Job Group)) (before after : Session)
    (values : List Group), run (allInOrder store parts) before = (.ok values, after) →
    ∃ traces : List (List Event), traces.flatten.foldlM Session.after? before = some after ∧
      AllGive true store.answers parts traces values
  | [], before, after, values, ran => by
      obtain ⟨rfl, rfl⟩ := (Load.run_pure_ok _ _ _ _).mp ran
      exact ⟨[], rfl, rfl, rfl⟩
  | part :: parts, before, after, values, ran => by
      obtain ⟨value, middle, first, ran⟩ := (run_bind_ok _ _ _ _ _).mp ran
      obtain ⟨rest, last, others, ran⟩ := (run_bind_ok _ _ _ _ _).mp ran
      obtain ⟨rfl, rfl⟩ := (Load.run_pure_ok _ _ _ _).mp ran
      obtain ⟨trace, changed, given⟩ := inOrder_gives part before middle value first
      obtain ⟨traces, changedToo, all⟩ := allInOrder_give parts middle _ rest others
      exact ⟨trace :: traces, by simp [List.foldlM_append, changed, changedToo],
        trace, traces, value, rest, given, all, rfl, rfl⟩

end

end Order

end Job

end DataGrid
