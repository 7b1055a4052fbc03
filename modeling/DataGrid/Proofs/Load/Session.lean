import DataGrid.Load.Basic
import DataGrid.Proofs.Store.Result
/-!
Steps of a call as functions of a session. What a step of a call does is split along its parts: the
session that it leaves behind, the invariants of the session that it keeps, the values that it can
return in some session, and whether it returns one in every session.
-/
namespace DataGrid.Load

variable {α β : Type}

theorem run_bind (step : Load α) (next : α → Load β) (session : Session) :
    run (step >>= next) session =
      match run step session with
      | (.ok value, later) => run (next value) later
      | (.error fault, later) => (.error fault, later) := by
  unfold run
  simp only [bind, ExceptT.bind, ExceptT.run, ExceptT.mk, StateT.bind, StateT.run]
  cases step session with
  | mk outcome later => cases outcome <;> rfl

theorem run_map (change : α → β) (step : Load α) (session : Session) :
    run (change <$> step) session = ((run step session).1.map change, (run step session).2) := by
  have bound : change <$> step = step >>= fun value => pure (change value) := rfl
  rw [bound, run_bind]
  cases run step session with
  | mk outcome later => cases outcome <;> rfl

theorem run_send (store : Store) (pipeline : Pipeline) (session : Session) :
    run (send store pipeline) session =
      ((store session.sent pipeline).mapError .store,
        { session with sent := session.sent ++ [pipeline] }) := by
  change (_, _) = _
  cases store session.sent pipeline <;> rfl

theorem run_limited (step : Load α) (session : Session) :
    run (limited step) session =
      match session.limiter.acquire? with
      | some limiter => run (some <$> step) { session with limiter := limiter }
      | none => (.ok none, session) := by
  change (match session.limiter.acquire? with
    | some limiter => (some <$> step) { session with limiter := limiter }
    | none => (.ok none, session)) = _
  cases session.limiter.acquire? <;> rfl

section Ended

/-- A step after which an invariant of the session still holds if it succeeds, and a condition on the
session and the error if it does not. -/
def Ends (kept : Session → Prop) (failed : LoadError → Session → Prop) (step : Load α) : Prop :=
  ∀ session, kept session →
    match run step session with
    | (.ok _, later) => kept later
    | (.error fault, later) => failed fault later

variable {kept : Session → Prop} {failed : LoadError → Session → Prop}

theorem ends_pure (value : α) : Ends kept failed (pure value) := fun _ before => before

theorem ends_throw (fault : LoadError) (left : ∀ session, kept session → failed fault session) :
    Ends kept failed (throw fault : Load α) := left

theorem ends_bind (step : Load α) (next : α → Load β) (first : Ends kept failed step)
    (later : ∀ value, Ends kept failed (next value)) : Ends kept failed (step >>= next) := by
  intro session before
  have middle := first session before
  rw [run_bind]
  cases ran : run step session with
  | mk outcome after =>
      rw [ran] at middle
      cases outcome with
      | error fault => exact middle
      | ok value => exact later value after middle

theorem ends_map (change : α → β) (step : Load α) (first : Ends kept failed step) :
    Ends kept failed (change <$> step) :=
  ends_bind step (fun value => pure (change value)) first fun value => ends_pure (change value)

theorem ends_mapM (step : α → Load β) (items : List α)
    (each : ∀ item ∈ items, Ends kept failed (step item)) : Ends kept failed (items.mapM step) := by
  induction items with
  | nil =>
      rw [List.mapM_nil]
      exact ends_pure []
  | cons item rest ih =>
      rw [List.mapM_cons]
      apply ends_bind _ _ (each item (by simp))
      intro value
      apply ends_bind _ _ (ih fun other member => each other (List.mem_cons_of_mem item member))
      intro values
      exact ends_pure (value :: values)

theorem ends_limited (step : Load α) (inner : Ends kept failed step)
    (free : ∀ session limiter, kept session → kept { session with limiter := limiter }) :
    Ends kept failed (limited step) := by
  intro session before
  rw [run_limited]
  cases session.limiter.acquire? with
  | none => exact before
  | some limiter => exact ends_map some step inner _ (free session limiter before)

/-- A step after which an invariant of the session still holds, whatever the step returns. -/
def Keeps (inv : Session → Prop) (step : Load α) : Prop :=
  ∀ session, inv session → inv (run step session).2

theorem keeps_iff (inv : Session → Prop) (step : Load α) :
    Keeps inv step ↔ Ends inv (fun _ => inv) step := by
  refine forall_congr' fun session => imp_congr_right fun _ => ?_
  cases run step session with
  | mk outcome after => cases outcome <;> rfl

end Ended

section Succeeded

variable (step : Load α) (before after : Session)

theorem run_bind_ok (next : α → Load β) (result : β) :
    run (step >>= next) before = (.ok result, after) ↔
      ∃ value middle, run step before = (.ok value, middle) ∧
        run (next value) middle = (.ok result, after) := by
  rw [run_bind]
  cases run step before with
  | mk outcome middle => cases outcome <;> simp

theorem run_map_ok (change : α → β) (result : β) :
    run (change <$> step) before = (.ok result, after) ↔
      ∃ value, run step before = (.ok value, after) ∧ change value = result := by
  rw [run_map]
  cases run step before with
  | mk outcome middle => cases outcome <;> simp [Except.map, and_comm]

theorem run_pure_ok (value result : α) :
    run (pure value) before = (.ok result, after) ↔ result = value ∧ after = before := by
  change ((.ok value, before) : Except LoadError α × Session) = _ ↔ _
  simp [eq_comm]

theorem run_mapM_cons_ok (each : α → Load β) (item : α) (rest : List α) (results : List β) :
    run ((item :: rest).mapM each) before = (.ok results, after) ↔
      ∃ value values middle, run (each item) before = (.ok value, middle) ∧
        run (rest.mapM each) middle = (.ok values, after) ∧ results = value :: values := by
  rw [List.mapM_cons, run_bind_ok]
  constructor
  · rintro ⟨value, middle, first, later⟩
    obtain ⟨values, last, others, made⟩ := (run_bind_ok _ _ _ _ _).mp later
    obtain ⟨rfl, rfl⟩ := (run_pure_ok _ _ _ _).mp made
    exact ⟨value, values, middle, first, others, rfl⟩
  · rintro ⟨value, values, middle, first, others, rfl⟩
    refine ⟨value, middle, first, (run_bind_ok _ _ _ _ _).mpr ⟨values, after, others, ?_⟩⟩
    exact (run_pure_ok _ _ _ _).mpr ⟨rfl, rfl⟩

theorem run_send_ok (store : Store) (pipeline : Pipeline) (docs : List Document) :
    run (send store pipeline) before = (.ok docs, after) ↔
      store before.sent pipeline = .ok docs ∧
        after = { before with sent := before.sent ++ [pipeline] } := by
  rw [run_send]
  cases store before.sent pipeline <;> simp [Except.mapError, eq_comm]

end Succeeded

section Returned

/-- A value that a step returns in some session. -/
def Returns (step : Load α) (value : α) : Prop :=
  ∃ before after, run step before = (.ok value, after)

/-- A step that returns a value in every session. -/
def Succeeds (step : Load α) : Prop :=
  ∀ before, ∃ value after, run step before = (.ok value, after)

theorem returns_pure (value result : α) (returned : Returns (pure value : Load α) result) :
    result = value := by
  obtain ⟨before, after, ran⟩ := returned
  exact ((run_pure_ok before after value result).mp ran).1

theorem returns_bind (step : Load α) (next : α → Load β) (result : β)
    (returned : Returns (step >>= next) result) :
    ∃ value, Returns step value ∧ Returns (next value) result := by
  obtain ⟨before, after, ran⟩ := returned
  obtain ⟨value, middle, first, later⟩ := (run_bind_ok _ _ _ _ _).mp ran
  exact ⟨value, ⟨before, middle, first⟩, ⟨middle, after, later⟩⟩

theorem returns_map (change : α → β) (step : Load α) (result : β)
    (returned : Returns (change <$> step) result) :
    ∃ value, Returns step value ∧ change value = result := by
  obtain ⟨before, after, ran⟩ := returned
  obtain ⟨value, first, same⟩ := (run_map_ok _ _ _ _ _).mp ran
  exact ⟨value, ⟨before, after, first⟩, same⟩

/-- A step is followed only by what it can return. -/
theorem ends_bind_returned {kept : Session → Prop} {failed : LoadError → Session → Prop}
    (step : Load α) (next : α → Load β) (first : Ends kept failed step)
    (later : ∀ value, Returns step value → Ends kept failed (next value)) :
    Ends kept failed (step >>= next) := by
  intro session before
  have middle := first session before
  rw [run_bind]
  cases ran : run step session with
  | mk outcome after =>
      rw [ran] at middle
      cases outcome with
      | error fault => exact middle
      | ok value => exact later value ⟨session, after, ran⟩ after middle

theorem returns_mapM (step : α → Load β) (items : List α) (results : List β)
    (returned : Returns (items.mapM step) results) :
    List.Forall₂ (fun item result => Returns (step item) result) items results := by
  induction items generalizing results with
  | nil =>
      rw [List.mapM_nil] at returned
      rw [returns_pure [] results returned]
      exact List.Forall₂.nil
  | cons item rest ih =>
      obtain ⟨before, after, ran⟩ := returned
      obtain ⟨value, values, middle, first, others, rfl⟩ := (run_mapM_cons_ok _ _ _ _ _ _).mp ran
      exact List.Forall₂.cons ⟨before, middle, first⟩ (ih values ⟨middle, after, others⟩)

theorem succeeds_pure (value : α) : Succeeds (pure value : Load α) :=
  fun before => ⟨value, before, rfl⟩

theorem succeeds_bind (step : Load α) (next : α → Load β) (first : Succeeds step)
    (later : ∀ value, Returns step value → Succeeds (next value)) : Succeeds (step >>= next) := by
  intro before
  obtain ⟨value, middle, ran⟩ := first before
  obtain ⟨result, after, rest⟩ := later value ⟨before, middle, ran⟩ middle
  exact ⟨result, after, by rw [run_bind, ran]; exact rest⟩

theorem succeeds_map (change : α → β) (step : Load α) (first : Succeeds step) :
    Succeeds (change <$> step) := by
  intro before
  obtain ⟨value, after, ran⟩ := first before
  exact ⟨change value, after, by rw [run_map, ran]; rfl⟩

theorem succeeds_limited (step : Load α) (inner : Succeeds step) : Succeeds (limited step) := by
  intro before
  rw [run_limited]
  cases before.limiter.acquire? with
  | none => exact ⟨none, before, rfl⟩
  | some limiter => exact succeeds_map some step inner _

theorem succeeds_mapM (step : α → Load β) (items : List α)
    (each : ∀ item ∈ items, Succeeds (step item)) : Succeeds (items.mapM step) := by
  induction items with
  | nil =>
      rw [List.mapM_nil]
      exact succeeds_pure []
  | cons item rest ih =>
      rw [List.mapM_cons]
      refine succeeds_bind _ _ (each item (by simp)) fun value _ => ?_
      refine succeeds_bind _ _
        (ih fun other member => each other (List.mem_cons_of_mem item member)) fun values _ => ?_
      exact succeeds_pure (value :: values)

end Returned

section Yielded

/-- A step that returns the same value in every session and leaves its limiter as it was. -/
def Yields (step : Load α) (value : α) : Prop :=
  ∀ before, ∃ after, run step before = (.ok value, after) ∧ after.limiter = before.limiter

theorem yields_ran (step : Load α) (value result : α) (yields : Yields step value)
    (before after : Session) (ran : run step before = (.ok result, after)) :
    result = value ∧ after.limiter = before.limiter := by
  obtain ⟨later, again, same⟩ := yields before
  obtain ⟨outcome, rfl⟩ := Prod.mk.inj (ran.symm.trans again)
  exact ⟨Except.ok.inj outcome, same⟩

theorem yields_pure (value : α) : Yields (pure value : Load α) value :=
  fun before => ⟨before, rfl, rfl⟩

theorem yields_bind (step : Load α) (next : α → Load β) (value : α) (result : β)
    (first : Yields step value) (later : Yields (next value) result) :
    Yields (step >>= next) result := by
  intro before
  obtain ⟨middle, ran, kept⟩ := first before
  obtain ⟨after, rest, keptToo⟩ := later middle
  refine ⟨after, ?_, keptToo.trans kept⟩
  rw [run_bind, ran]
  exact rest

theorem yields_map (change : α → β) (step : Load α) (value : α) (first : Yields step value) :
    Yields (change <$> step) (change value) :=
  yields_bind step (fun value => pure (change value)) value _ first (yields_pure (change value))

theorem yields_mapM (step : α → Load β) (items : List α) (results : List β)
    (each : List.Forall₂ (fun item result => Yields (step item) result) items results) :
    Yields (items.mapM step) results := by
  induction each with
  | nil =>
      rw [List.mapM_nil]
      exact yields_pure []
  | @cons item result rest results first _ ih =>
      rw [List.mapM_cons]
      refine yields_bind _ _ result _ first ?_
      exact yields_bind _ _ results _ ih (yields_pure (result :: results))

end Yielded

end DataGrid.Load
