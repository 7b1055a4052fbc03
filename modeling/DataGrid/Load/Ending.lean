import DataGrid.Load.Running
/-!
Every run of a job ends. A step of a job is one of its parts, or one that leaves something that comes
after its parts.
-/
namespace DataGrid.Job

variable {answers : Answers}

/-- A job that another becomes by one step. -/
def Less (answers : Answers) {α : Type} (later job : Job α) : Prop :=
  ∃ before after, Step answers job before later after

theorem acc_over {α : Type} (outcome : Except LoadError α) : Acc (Less answers) (.over outcome) :=
  .intro _ fun _ ⟨_, _, step⟩ => nomatch step

theorem acc_wait {α : Type} (pipeline : Pipeline) {next : StoreResult (List Document) → Job α}
    (later : ∀ answer, Acc (Less answers) (next answer)) :
    Acc (Less answers) (.wait pipeline next) := by
  refine .intro _ fun job step => ?_
  obtain ⟨before, after, step⟩ := step
  cases step with
  | answered _ _ _ answer => exact later answer

theorem acc_both {α β γ : Type} {first : Job α} {second : Job β} (next : α → β → Job γ)
    (left : Acc (Less answers) first) (right : Acc (Less answers) second)
    (later : ∀ value other, Acc (Less answers) (next value other)) :
    Acc (Less answers) (.both first second next) := by
  -- whichever of the two goes on becomes smaller, and the other stays as it is
  induction left generalizing second with
  | intro first _ ihFirst =>
      induction right with
      | intro second known ihSecond =>
          refine .intro _ fun job step => ?_
          obtain ⟨before, after, step⟩ := step
          cases step with
          | first _ smaller _ _ _ _ step => exact ihFirst smaller ⟨before, after, step⟩ (.intro _ known)
          | second _ _ smaller _ _ _ _ step => exact ihSecond smaller ⟨before, after, step⟩
          | bothOver value other => exact later value other
          | firstFailed => exact acc_over _
          | secondFailed => exact acc_over _

/-- Parts of which one has made a step. -/
def PartLess (answers : Answers) (later parts : List (Job Group)) : Prop :=
  ∃ place part smaller, parts[place]? = some part ∧ Less answers smaller part ∧
    later = parts.set place smaller

theorem acc_parts_cons {part : Job Group} {parts : List (Job Group)} (first : Acc (Less answers) part)
    (rest : Acc (PartLess answers) parts) : Acc (PartLess answers) (part :: parts) := by
  induction first generalizing parts with
  | intro part _ ihPart =>
      induction rest with
      | intro parts known ihParts =>
          refine .intro _ fun later step => ?_
          obtain ⟨place, part', smaller, found, less, rfl⟩ := step
          cases place with
          | zero =>
              obtain rfl : part = part' := by simpa using found
              exact ihPart smaller less (.intro _ known)
          | succ place => exact ihParts _ ⟨place, part', smaller, by simpa using found, less, rfl⟩

theorem acc_each {α : Type} {parts : List (Job Group)} (next : List Group → Job α)
    (all : Acc (PartLess answers) parts) (later : ∀ values, Acc (Less answers) (next values)) :
    Acc (Less answers) (.each parts next) := by
  induction all with
  | intro parts _ ih =>
      refine .intro _ fun job step => ?_
      obtain ⟨before, after, step⟩ := step
      cases step with
      | part _ place part smaller _ _ _ found step =>
          exact ih _ ⟨place, part, smaller, found, ⟨before, after, step⟩, rfl⟩
      | allOver values => exact later values
      | partFailed => exact acc_over _

mutual

/-- No job can go on for ever. -/
theorem acc : ∀ {α : Type} (job : Job α), Acc (Less answers) job
  | _, .over outcome => acc_over outcome
  | _, .fetch pipeline next => by
      refine .intro _ fun job step => ?_
      obtain ⟨before, after, step⟩ := step
      cases step
      exact acc_wait pipeline fun answer => acc (next answer)
  | _, .claim pipeline next => by
      refine .intro _ fun job step => ?_
      obtain ⟨before, after, step⟩ := step
      cases step with
      | refused => exact acc (next none)
      | granted => exact acc_wait pipeline fun answer => acc (next (some answer))
  | _, .wait pipeline next => acc_wait pipeline fun answer => acc (next answer)
  | _, .both first second next =>
      acc_both next (acc first) (acc second) fun value other => acc (next value other)
  | _, .each parts next => acc_each next (acc_all parts) fun values => acc (next values)

theorem acc_all : ∀ parts : List (Job Group), Acc (PartLess answers) parts
  | [] => .intro _ fun _ ⟨_, _, _, found, _, _⟩ => nomatch found
  | part :: rest => acc_parts_cons (acc part) (acc_all rest)

end

theorem ends (answers : Answers) {α : Type} : WellFounded (Relation.TransGen (@Less answers α)) :=
  ⟨fun job => (acc job).transGen⟩

end DataGrid.Job
