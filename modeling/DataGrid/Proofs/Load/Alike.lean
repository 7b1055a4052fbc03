import DataGrid.Proofs.Load.Counts
/-!
Two calls side by side. What a call does depends on the pipelines sent before it through the slots
that are left for summaries alone, as long as its store answers every pipeline by itself. So two
calls that send alike pipelines, step by step, end alike: in the same error, or with values that are
related as those of their steps are.
-/
namespace DataGrid

namespace Result

variable {ε α β γ δ : Type}

/-- Two outcomes that are the same failure, or related values. -/
inductive Alike (related : α → β → Prop) : Except ε α → Except ε β → Prop
  | ok {value : α} {other : β} (known : related value other) : Alike related (.ok value) (.ok other)
  | error (fault : ε) : Alike related (.error fault) (.error fault)

theorem alike_refl (outcome : Except ε α) : Alike Eq outcome outcome := by
  cases outcome with
  | ok value => exact .ok rfl
  | error fault => exact .error fault

variable {related : α → β → Prop} {further : γ → δ → Prop}

theorem alike_after (first : Except ε α) {next : α → Except ε γ} {after : α → Except ε δ}
    (later : ∀ value, first = .ok value → Alike further (next value) (after value)) :
    Alike further (first >>= next) (first >>= after) := by
  cases first with
  | ok value => exact later value rfl
  | error fault => exact .error fault

theorem alike_imp {first : Except ε α} {second : Except ε β} {weaker : α → β → Prop}
    (alike : Alike related first second)
    (implies : ∀ value other, related value other → weaker value other) :
    Alike weaker first second := by
  cases alike with
  | ok known => exact .ok (implies _ _ known)
  | error fault => exact .error fault

theorem alike_mapError {κ : Type} (change : ε → κ) {first : Except ε α} {second : Except ε β}
    (alike : Alike related first second) :
    Alike related (first.mapError change) (second.mapError change) := by
  cases alike with
  | ok known => exact .ok known
  | error fault => exact .error _

theorem alike_ok {first : Except ε α} {second : Except ε β} (alike : Alike related first second)
    (value : α) (succeeded : first = .ok value) : ∃ other, second = .ok other ∧ related value other := by
  cases alike with
  | ok known =>
      obtain rfl := Except.ok.inj succeeded
      exact ⟨_, rfl, known⟩
  | error fault => contradiction

theorem alike_succeeds {first : Except ε α} {second : Except ε β}
    (alike : Alike related first second) :
    (∃ value, first = .ok value) ↔ ∃ other, second = .ok other := by
  cases alike with
  | ok known => exact iff_of_true ⟨_, rfl⟩ ⟨_, rfl⟩
  | error fault => simp

theorem alike_image (change : β → α) {first : Except ε α} {second : Except ε β}
    (alike : Alike (fun value other => value = change other) first second) :
    first = second.map change := by
  cases alike with
  | ok known => rw [known]; rfl
  | error fault => rfl

end Result

namespace Load

variable {α β γ δ : Type}

/-- Two steps that end alike in sessions with the same slots, and leave the same slots behind. -/
def Alike (related : α → β → Prop) (first : Load α) (second : Load β) : Prop :=
  ∀ before other : Session, before.limiter = other.limiter →
    Result.Alike related (run first before).1 (run second other).1 ∧
      (run first before).2.limiter = (run second other).2.limiter

variable {related : α → β → Prop} {further : γ → δ → Prop}

theorem alike_pure {value : α} {other : β} (known : related value other) :
    Alike related (pure value : Load α) (pure other) :=
  fun _ _ same => ⟨.ok known, same⟩

theorem alike_throw (fault : LoadError) :
    Alike related (throw fault : Load α) (throw fault) :=
  fun _ _ same => ⟨.error fault, same⟩

theorem alike_imp {first : Load α} {second : Load β} {weaker : α → β → Prop}
    (alike : Alike related first second)
    (implies : ∀ value other, related value other → weaker value other) :
    Alike weaker first second := by
  intro before other same
  obtain ⟨outcomes, slots⟩ := alike before other same
  exact ⟨Result.alike_imp outcomes implies, slots⟩

theorem alike_bind {first : Load α} {second : Load β} {next : α → Load γ} {after : β → Load δ}
    (start : Alike related first second)
    (later : ∀ value other, related value other → Alike further (next value) (after other)) :
    Alike further (first >>= next) (second >>= after) := by
  intro before other same
  obtain ⟨outcomes, slots⟩ := start before other same
  rw [run_bind, run_bind]
  cases left : run first before with
  | mk outcome middle =>
      cases right : run second other with
      | mk outcome' middle' =>
          rw [left, right] at outcomes slots
          -- the sessions may differ by now, but not in their slots
          cases outcomes with
          | ok known => exact later _ _ known middle middle' slots
          | error fault => exact ⟨.error fault, slots⟩

theorem alike_map {first : Load α} {second : Load β} (change : α → γ) (other : β → δ)
    (start : Alike related first second)
    (kept : ∀ value image, related value image → further (change value) (other image)) :
    Alike further (change <$> first) (other <$> second) :=
  alike_bind start fun value image known => alike_pure (kept value image known)

theorem alike_mapM (step : α → Load γ) (other : β → Load δ) {items : List α} {images : List β}
    (each : List.Forall₂ (fun item image => Alike further (step item) (other image)) items images) :
    Alike (List.Forall₂ further) (items.mapM step) (images.mapM other) := by
  induction each with
  | nil => exact alike_pure List.Forall₂.nil
  | cons first _ ih =>
      rw [List.mapM_cons, List.mapM_cons]
      refine alike_bind first fun value image known => ?_
      exact alike_bind ih fun values images others => alike_pure (List.Forall₂.cons known others)

theorem alike_limited {first second : Load α} (inner : Alike Eq first second) :
    Alike Eq (limited first) (limited second) := by
  intro before other same
  rw [run_limited, run_limited, same]
  cases other.limiter.acquire? with
  | none => exact ⟨.ok rfl, same⟩
  | some limiter =>
      exact alike_map some some inner (fun _ _ known => congrArg some known) _ _ rfl

theorem alike_outcome {first : Except LoadError Group} {second : Except LoadError Group}
    {related : Group → Group → Prop} (outcomes : Result.Alike related first second) :
    Alike related (give first) (give second) :=
  fun _ _ same => ⟨outcomes, same⟩

section Sent

variable (patterns : PatternCompiler) (collection : Collection)

theorem alike_send {related : List Document → List Document → Prop} {pipeline other : Pipeline}
    (answers : Result.Alike related (collection.run patterns pipeline)
      (collection.run patterns other)) :
    Alike related (send (collection.store patterns) pipeline)
      (send (collection.store patterns) other) := by
  intro before after same
  rw [run_send, run_send]
  exact ⟨Result.alike_mapError LoadError.store answers, same⟩

theorem send_again (pipeline : Pipeline) :
    Alike Eq (send (collection.store patterns) pipeline)
      (send (collection.store patterns) pipeline) :=
  alike_send patterns collection (Result.alike_refl _)

theorem count_alike (pipeline : Pipeline) (field : String) :
    Alike Eq (count (collection.store patterns) pipeline field)
      (count (collection.store patterns) pipeline field) := by
  rw [count_eq]
  refine alike_bind (send_again patterns collection pipeline) ?_
  rintro docs _ rfl
  cases counted? field docs with
  | none => exact alike_throw _
  | some number => exact alike_pure rfl

theorem asked_alike (wanted : Bool) (pipeline : Pipeline) (field : String) :
    Alike Eq (asked (collection.store patterns) wanted pipeline field)
      (asked (collection.store patterns) wanted pipeline field) := by
  cases wanted with
  | false => exact alike_pure rfl
  | true =>
      exact alike_map some some (count_alike patterns collection pipeline field)
        fun _ _ known => congrArg some known

variable (recipe : Recipe)

theorem summarize_alike (scope : Pipeline) (summaries : List Summary) :
    Alike Eq (summarize (collection.store patterns) recipe scope summaries)
      (summarize (collection.store patterns) recipe scope summaries) := by
  rw [summarize_def]
  refine alike_bind (alike_limited (send_again patterns collection _)) ?_
  rintro found _ rfl
  exact alike_pure rfl

variable (request : Request)

theorem loadGroupCount_alike : Alike Eq
    (loadGroupCount (collection.store patterns) recipe request)
    (loadGroupCount (collection.store patterns) recipe request) := by
  cases compiled : recipe.groupCountStages? with
  | none =>
      rw [loadGroupCount_def, compiled]
      exact alike_pure rfl
  | some pipeline =>
      rw [loadGroupCount_eq recipe request _ pipeline compiled]
      exact asked_alike patterns collection _ pipeline _

theorem loadTotalCount_alike : Alike Eq
    (loadTotalCount (collection.store patterns) recipe request)
    (loadTotalCount (collection.store patterns) recipe request) := by
  rw [loadTotalCount_eq]
  exact asked_alike patterns collection _ _ _

theorem loadTotalSummary_alike (totalCount : Option Nat) : Alike Eq
    (loadTotalSummary (collection.store patterns) recipe request totalCount)
    (loadTotalSummary (collection.store patterns) recipe request totalCount) := by
  rw [loadTotalSummary_def]
  split
  · exact summarize_alike patterns collection recipe [] request.totalSummary
  · exact alike_pure rfl

end Sent

end Load

end DataGrid
