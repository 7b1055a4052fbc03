import DataGrid.Store.Error
import Mathlib.Data.List.Forall2
import Mathlib.Data.List.Perm.Basic
/-!
Computations that may fail: when a step and what follows it succeed, and what a computation over
every element of a list yields, element by element and after the elements are put in another order.
-/
namespace DataGrid.Result

variable {ε α β : Type}

theorem exists_left {γ δ : Type} {related : γ → δ → Prop} {items : List γ} {results : List δ}
    (each : List.Forall₂ related items results) (result : δ) (member : result ∈ results) :
    ∃ item ∈ items, related item result := by
  induction each with
  | nil => simp at member
  | @cons item _ _ _ first _ ih =>
      rcases List.mem_cons.mp member with rfl | later
      · exact ⟨item, by simp, first⟩
      · obtain ⟨other, inItems, known⟩ := ih later
        exact ⟨other, List.mem_cons_of_mem item inItems, known⟩

theorem exists_right {γ δ : Type} {related : γ → δ → Prop} {items : List γ} {results : List δ}
    (each : List.Forall₂ related items results) (item : γ) (member : item ∈ items) :
    ∃ result ∈ results, related item result := by
  obtain ⟨result, inResults, known⟩ := exists_left each.flip item member
  exact ⟨result, inResults, known⟩

theorem forall₂_imp_mem {γ δ : Type} {first second : γ → δ → Prop} {items : List γ}
    {results : List δ} (each : List.Forall₂ first items results)
    (imp : ∀ item ∈ items, ∀ result ∈ results, first item result → second item result) :
    List.Forall₂ second items results := by
  induction each with
  | nil => exact List.Forall₂.nil
  | cons one _ ih =>
      refine List.Forall₂.cons (imp _ (by simp) _ (by simp) one) (ih ?_)
      intro item inItems result inResults
      exact imp item (List.mem_cons_of_mem _ inItems) result (List.mem_cons_of_mem _ inResults)

theorem map_of_forall₂ {γ δ : Type} {value : γ → δ} {items : List γ} {results : List δ}
    (each : List.Forall₂ (fun item result => value item = result) items results) :
    items.map value = results := by
  rwa [← List.forall₂_map_left_iff, List.forall₂_eq_eq_eq] at each

theorem forall₂_comp {γ δ κ : Type} {first : γ → δ → Prop} {second : δ → κ → Prop}
    {whole : γ → κ → Prop} {items : List γ} {middle : List δ} {results : List κ}
    (left : List.Forall₂ first items middle) (right : List.Forall₂ second middle results)
    (compose : ∀ item between result, first item between → second between result →
      whole item result) : List.Forall₂ whole items results := by
  induction left generalizing results with
  | nil =>
      rw [List.forall₂_nil_left_iff.mp right]
      exact List.Forall₂.nil
  | cons one _ ih =>
      obtain ⟨result, rest, other, more, rfl⟩ := List.forall₂_cons_left_iff.mp right
      exact List.Forall₂.cons (compose _ _ _ one other) (ih more)

theorem forall₂_split {γ δ κ : Type} {first : γ → δ → Prop} {second : δ → κ → Prop}
    {whole : γ → κ → Prop} {items : List γ} {results : List κ}
    (each : List.Forall₂ whole items results)
    (split : ∀ item result, whole item result → ∃ between, first item between ∧
      second between result) :
    ∃ middle, List.Forall₂ first items middle ∧ List.Forall₂ second middle results := by
  induction each with
  | nil => exact ⟨[], List.Forall₂.nil, List.Forall₂.nil⟩
  | cons one _ ih =>
      obtain ⟨middle, left, right⟩ := ih
      obtain ⟨between, before, after⟩ := split _ _ one
      exact ⟨between :: middle, left.cons before, right.cons after⟩

theorem bind_ok (first : Except ε α) (next : α → Except ε β) (result : β) :
    (first >>= next) = .ok result ↔ ∃ value, first = .ok value ∧ next value = .ok result := by
  cases first with
  | error fault => simp [bind, Except.bind]
  | ok value => simp [bind, Except.bind]

theorem bind_error (first : Except ε α) (next : α → Except ε β) (fault : ε) :
    (first >>= next) = .error fault ↔
      first = .error fault ∨ ∃ value, first = .ok value ∧ next value = .error fault := by
  cases first with
  | error other => simp [bind, Except.bind]
  | ok value => simp [bind, Except.bind]

theorem failed_iff (outcome : Except ε α) :
    (∃ fault, outcome = .error fault) ↔ ¬ ∃ value, outcome = .ok value := by
  cases outcome <;> simp

theorem map_ok (first : Except ε α) (next : α → β) (result : β) :
    (next <$> first) = .ok result ↔ ∃ value, first = .ok value ∧ next value = result := by
  cases first with
  | error fault => simp [Functor.map, Except.map]
  | ok value => simp [Functor.map, Except.map]

theorem toOption_map_ok (outcome : Except ε α) (change : α → β) (shown : β) :
    outcome.toOption.map change = some shown ↔ ∃ value, outcome = .ok value ∧ change value = shown := by
  cases outcome with
  | error fault => simp [Except.toOption]
  | ok value => simp [Except.toOption]

theorem mapM_ok (f : α → Except ε β) (items : List α) (results : List β) :
    items.mapM f = .ok results ↔
      List.Forall₂ (fun item result => f item = .ok result) items results := by
  induction items generalizing results with
  | nil =>
      rw [List.mapM_nil, List.forall₂_nil_left_iff]
      exact ⟨fun same => (Except.ok.inj same).symm, fun same => by rw [same]; rfl⟩
  | cons item rest ih =>
      rw [List.mapM_cons, bind_ok]
      constructor
      · rintro ⟨value, first, later⟩
        obtain ⟨values, others, same⟩ := (bind_ok _ _ _).mp later
        rw [← Except.ok.inj same]
        exact List.Forall₂.cons first ((ih values).mp others)
      · intro each
        obtain ⟨value, values, first, others, rfl⟩ := List.forall₂_cons_left_iff.mp each
        exact ⟨value, first, (bind_ok _ _ _).mpr ⟨values, (ih values).mpr others, rfl⟩⟩

theorem mapM_error (f : α → Except ε β) (items : List α) (fault : ε)
    (failed : items.mapM f = .error fault) : ∃ item ∈ items, f item = .error fault := by
  induction items with
  | nil =>
      rw [List.mapM_nil] at failed
      contradiction
  | cons item rest ih =>
      rw [List.mapM_cons] at failed
      rcases (bind_error _ _ _).mp failed with first | ⟨value, _, later⟩
      · exact ⟨item, by simp, first⟩
      · rcases (bind_error _ _ _).mp later with others | ⟨values, _, made⟩
        · obtain ⟨other, member, found⟩ := ih others
          exact ⟨other, List.mem_cons_of_mem item member, found⟩
        · contradiction

theorem mapM_total (f : α → Except ε β) (items : List α)
    (each : ∀ item ∈ items, ∃ result, f item = .ok result) : ∃ results, items.mapM f = .ok results := by
  induction items with
  | nil => exact ⟨[], rfl⟩
  | cons item rest ih =>
      obtain ⟨value, first⟩ := each item (by simp)
      obtain ⟨values, others⟩ := ih fun other member => each other (List.mem_cons_of_mem item member)
      refine ⟨value :: values, (mapM_ok f _ _).mpr ?_⟩
      exact List.Forall₂.cons first ((mapM_ok f _ _).mp others)

theorem mapM_map (f : α → Except ε β) (value : α → β) (items : List α)
    (each : ∀ item ∈ items, f item = .ok (value item)) : items.mapM f = .ok (items.map value) :=
  (mapM_ok f items _).mpr (List.forall₂_map_right_iff.mpr (List.forall₂_same.mpr each))

theorem mapM_perm (f : α → Except ε β) (items others : List α) (results : List β)
    (order : items.Perm others) (mapped : items.mapM f = .ok results) :
    ∃ reordered, others.mapM f = .ok reordered ∧ results.Perm reordered := by
  have each := (mapM_ok f items results).mp mapped
  obtain ⟨reordered, related, same⟩ :=
    List.perm_comp_forall₂ order.symm each
  exact ⟨reordered, (mapM_ok f others reordered).mpr related, same.symm⟩

end DataGrid.Result
