import DataGrid.Pipeline.Run
import DataGrid.Proofs.Store.Result
/-!
Runs of pipelines. A pipeline put together from two parts runs one after the other. Stages that look
at one document at a time, which compute fields or match, yield the same documents in another order
when their input is in another order.
-/
namespace DataGrid

open Result

theorem keepWhere_ok (test : Document → StoreResult Bool) (docs kept : List Document) :
    keepWhere test docs = .ok kept ↔
      (∀ doc ∈ docs, ∃ verdict, test doc = .ok verdict) ∧
        kept = docs.filter fun doc => decide (test doc = .ok true) := by
  induction docs generalizing kept with
  | nil =>
      constructor
      · intro ran
        exact ⟨by simp, (Except.ok.inj ran).symm⟩
      · rintro ⟨_, rfl⟩
        rfl
  | cons doc rest ih =>
      constructor
      · intro ran
        obtain ⟨verdict, first, later⟩ := (bind_ok _ _ _).mp ran
        obtain ⟨others, tail, same⟩ := (bind_ok _ _ _).mp later
        obtain ⟨decided, rfl⟩ := (ih others).mp tail
        refine ⟨?_, ?_⟩
        · intro other member
          rcases List.mem_cons.mp member with rfl | later
          · exact ⟨verdict, first⟩
          · exact decided other later
        · rw [← Except.ok.inj same]
          cases verdict <;> simp [first]
      · rintro ⟨decided, rfl⟩
        obtain ⟨verdict, first⟩ := decided doc (by simp)
        have tail := (ih _).mpr
          ⟨fun other member => decided other (List.mem_cons_of_mem doc member), rfl⟩
        refine (bind_ok _ _ _).mpr ⟨verdict, first, (bind_ok _ _ _).mpr ⟨_, tail, ?_⟩⟩
        cases verdict <;> simp [first] <;> rfl

namespace Pipeline

variable (patterns : PatternCompiler)

theorem run_append (first second : Pipeline) (docs : List Document) :
    run patterns (first ++ second) docs = run patterns first docs >>= run patterns second := by
  induction first generalizing docs with
  | nil => rfl
  | cons stage rest ih =>
      simp only [List.cons_append, run]
      cases stage.apply patterns docs with
      | error fault => rfl
      | ok middle => exact ih middle

theorem run_append_ok (first second : Pipeline) (docs out : List Document) :
    run patterns (first ++ second) docs = .ok out ↔
      ∃ middle, run patterns first docs = .ok middle ∧ run patterns second middle = .ok out := by
  rw [run_append, bind_ok]

theorem run_single (stage : Stage) (docs : List Document) :
    run patterns [stage] docs = stage.apply patterns docs := by
  simp only [run]
  cases stage.apply patterns docs <;> rfl

/-- Stages that decide or change every document by itself. -/
def Rowwise (pipeline : Pipeline) : Prop :=
  ∀ stage ∈ pipeline, (∃ predicate, stage = .matching predicate) ∨ ∃ fields, stage = .addFields fields

theorem rowwise_append (first second : Pipeline) (left : Rowwise first) (right : Rowwise second) :
    Rowwise (first ++ second) := by
  intro stage member
  rcases List.mem_append.mp member with inFirst | inSecond
  · exact left stage inFirst
  · exact right stage inSecond

theorem rowwise_perm (pipeline : Pipeline) (rowwise : Rowwise pipeline)
    (docs others out : List Document) (order : docs.Perm others)
    (ran : run patterns pipeline docs = .ok out) :
    ∃ reordered, run patterns pipeline others = .ok reordered ∧ out.Perm reordered := by
  -- each stage hands a rearrangement of the documents on to the next
  induction pipeline generalizing docs others with
  | nil =>
      rw [← Except.ok.inj ran]
      exact ⟨others, rfl, order⟩
  | cons stage rest ih =>
      obtain ⟨middle, first, later⟩ := (bind_ok _ _ _).mp ran
      have step : ∃ reordered, stage.apply patterns others = .ok reordered ∧ middle.Perm reordered := by
        rcases rowwise stage (by simp) with ⟨predicate, rfl⟩ | ⟨fields, rfl⟩
        · obtain ⟨decided, rfl⟩ := (keepWhere_ok _ _ _).mp first
          refine ⟨_, (keepWhere_ok _ _ _).mpr ⟨?_, rfl⟩, order.filter _⟩
          exact fun doc member => decided doc (order.mem_iff.mpr member)
        · exact mapM_perm _ docs others middle order first
      obtain ⟨reordered, applied, same⟩ := step
      obtain ⟨final, finished, related⟩ :=
        ih (fun other member => rowwise other (List.mem_cons_of_mem stage member)) middle reordered
          same later
      exact ⟨final, (bind_ok _ _ _).mpr ⟨reordered, applied, finished⟩, related⟩

theorem run_addFields (parts : List (String × Value))
    (docs out : List Document) :
    run patterns (parts.map fun part => .addFields [part]) docs = .ok out ↔
      List.Forall₂ (fun doc extended =>
        parts.foldlM (fun doc part => Projection.addFields doc doc [part]) doc = .ok extended)
          docs out := by
  induction parts generalizing docs with
  | nil =>
      constructor
      · intro ran
        rw [← Except.ok.inj ran]
        exact List.forall₂_same.mpr fun doc _ => rfl
      · intro each
        have same : docs = out := List.forall₂_eq_eq_eq ▸ each.imp fun _ _ => Except.ok.inj
        rw [same]
        rfl
  | cons part parts ih =>
      rw [List.map_cons, run, bind_ok]
      constructor
      · rintro ⟨middle, first, later⟩
        have mapped := (mapM_ok _ _ _).mp first
        -- row by row, the first field and then the others
        refine forall₂_comp mapped ((ih middle).mp later) ?_
        intro doc between extended one more
        rw [List.foldlM_cons]
        exact (bind_ok _ _ _).mpr ⟨between, one, more⟩
      · intro each
        obtain ⟨middle, mapped, later⟩ := forall₂_split each fun doc extended all => by
          rw [List.foldlM_cons] at all
          exact (bind_ok _ _ _).mp all
        exact ⟨middle, (mapM_ok _ _ _).mpr mapped, (ih middle).mpr later⟩

end Pipeline

end DataGrid
