import DataGrid.Collection
import DataGrid.Proofs.Pipeline.Grouping
import DataGrid.Proofs.Pipeline.Run
import DataGrid.Proofs.Pipeline.Sorting
/-!
What stages leave. Over documents a run over values does what the run over documents does: every stage
leaves documents again, so that the question at the end of the run always has the same answer. And no
stage leaves more documents than it was given.
-/
namespace DataGrid

open Result

namespace Untyped

theorem mapM_documents (change : Value → StoreResult Value) (same : Document → StoreResult Document)
    (each : ∀ doc, change (.object doc) = .object <$> same doc) (docs : List Document) :
    (docs.map .object).mapM change = (List.map .object) <$> docs.mapM same := by
  induction docs with
  | nil => rfl
  | cons doc rest ih =>
      rw [List.map_cons, List.mapM_cons, List.mapM_cons, each, ih]
      cases same doc with
      | error fault => rfl
      | ok changed => cases rest.mapM same <;> rfl

theorem keepWhere_documents (test : Value → StoreResult Bool) (docs : List Document) :
    keepWhere test (docs.map .object) =
      (List.map .object) <$> keepWhere (fun doc => test (.object doc)) docs := by
  induction docs with
  | nil => rfl
  | cons doc rest ih =>
      rw [List.map_cons, keepWhere, keepWhere, ih]
      cases test (.object doc) with
      | error fault => rfl
      | ok kept =>
          cases keepWhere (fun doc => test (.object doc)) rest with
          | error fault => rfl
          | ok others => cases kept <;> rfl

theorem place_documents (keys : Sorting.Keys) (doc : Document) (docs : List Document) :
    place keys (.object doc) (docs.map .object) = (Sorting.place keys doc docs).map .object := by
  induction docs with
  | nil => rfl
  | cons other rest ih =>
      rw [List.map_cons, place, Sorting.place, ih, apply_ite (List.map Value.object)]
      rfl

theorem sort_documents (keys : Sorting.Keys) (docs : List Document) :
    (docs.map .object).foldr (place keys) [] = (Sorting.sort keys docs).map .object := by
  induction docs with
  | nil => rfl
  | cons doc rest ih =>
      rw [List.map_cons, List.foldr_cons, ih, place_documents]
      rfl

theorem includeEntries_fold (doc out spec : Document) :
    Projection.includeEntries doc out spec =
      spec.foldlM (fun out entry => includeEntry (.object doc) out entry.1 entry.2) out := by
  induction spec generalizing out with
  | nil => rfl
  | cons entry rest ih =>
      rw [Projection.includeEntries, List.foldlM_cons]
      exact bind_congr fun later => ih later

theorem project_document (spec doc : Document) :
    project spec (.object doc) = .object <$> Projection.project spec doc := by
  rw [project, Projection.project]
  split
  · rfl
  · rw [includeEntries_fold]
    rfl

theorem addFields_fold (doc out fields : Document) :
    Projection.addFields doc out fields =
      fields.foldlM (fun out entry => do
        pure (Document.setPath out entry.1 (← Expression.evaluate (.object doc) entry.2))) out := by
  induction fields generalizing out with
  | nil => rfl
  | cons entry rest ih =>
      rw [Projection.addFields, List.foldlM_cons]
      cases Expression.evaluate (.object doc) entry.2 with
      | error fault => rfl
      | ok value => exact ih _

theorem addFields_document (fields doc : Document) :
    addFields fields (.object doc) = .object <$> Projection.addFields doc doc fields := by
  rw [addFields, addFields_fold]
  rfl

theorem group_documents (spec : Document) (docs : List Document) :
    group spec (docs.map .object) = (List.map .object) <$> Grouping.group spec docs := by
  -- a class is made of entries, which see the row as a value in both runs
  have entries (id : Value) (columns : List Grouping.Column) :
      (docs.map .object).mapM (entry id columns) = docs.mapM (Grouping.entry id columns) := by
    rw [List.mapM_map]
    rfl
  unfold group Grouping.group
  cases Document.get? spec "_id" with
  | none => rfl
  | some id =>
      simp only [entries, map_bind]
      refine bind_congr fun columns => bind_congr fun found => ?_
      cases found with
      | nil => rfl
      | cons first rest =>
          simp only [map_bind, map_pure, List.map_map]
          rfl

theorem apply_documents (patterns : PatternCompiler) (stage : Stage) (docs : List Document) :
    apply patterns stage (docs.map .object) = (List.map .object) <$> stage.apply patterns docs := by
  cases stage with
  | matching predicate => exact keepWhere_documents _ docs
  | sort spec =>
      rw [apply, Stage.apply]
      cases Sorting.keys spec with
      | error fault => rfl
      | ok keys => exact congrArg Except.ok (sort_documents keys docs)
  | skip number => exact congrArg Except.ok List.map_drop.symm
  | limit number => exact congrArg Except.ok List.map_take.symm
  | project spec => exact mapM_documents _ _ (project_document spec) docs
  | addFields fields => exact mapM_documents _ _ (addFields_document fields) docs
  | group spec => exact group_documents spec docs
  | count name => cases docs <;> simp [apply, Stage.apply]; rfl

/-- A run over documents leaves documents, the same as the run that knows them for documents. -/
theorem run_documents (patterns : PatternCompiler) (pipeline : Pipeline) (docs : List Document) :
    run patterns pipeline (docs.map .object) =
      (List.map .object) <$> Pipeline.run patterns pipeline docs := by
  induction pipeline generalizing docs with
  | nil => rfl
  | cons stage rest ih =>
      rw [run, List.foldlM_cons, apply_documents, Pipeline.run]
      cases stage.apply patterns docs with
      | error fault => rfl
      | ok left => exact ih left

theorem documents_map (docs : List Document) : documents (docs.map .object) = .ok docs := by
  induction docs with
  | nil => rfl
  | cons doc rest ih =>
      rw [List.map_cons, documents, ih]
      rfl

example : documents [.object [], .int 3, .null] = .error (.nonDocument (.int 3)) := rfl

end Untyped

theorem Collection.runValues_eq (patterns : PatternCompiler) (collection : Collection)
    (pipeline : Pipeline) :
    collection.runValues patterns pipeline = (collection.run patterns pipeline).mapError .stage := by
  rw [runValues, Untyped.run_documents, run]
  cases Pipeline.run patterns pipeline collection.documents with
  | error fault => rfl
  | ok left => exact Untyped.documents_map left

/-! How many documents a stage leaves. -/

/-- One document for each class, and no more classes than documents. -/
theorem Grouping.length_group (spec : Document) (docs left : List Document)
    (grouped : group spec docs = .ok left) : left.length ≤ docs.length := by
  unfold group at grouped
  split at grouped
  · contradiction
  · obtain ⟨columns, _, later⟩ := (bind_ok _ _ _).mp grouped
    obtain ⟨entries, read, last⟩ := (bind_ok _ _ _).mp later
    have same := ((mapM_ok _ _ _).mp read).length_eq
    cases entries with
    | nil =>
        rw [← Except.ok.inj last]
        exact Nat.zero_le _
    | cons entry rest =>
        obtain ⟨accumulators, _, made⟩ := (bind_ok _ _ _).mp last
        obtain ⟨keys, classes, listed⟩ := buckets_classes (entry :: rest)
        have fewer := classes.length_le
        rw [← Except.ok.inj made, listed, List.length_map, List.length_map, same]
        exact fewer

theorem Stage.length_apply (patterns : PatternCompiler) (stage : Stage)
    (docs left : List Document) (ran : stage.apply patterns docs = .ok left) :
    left.length ≤ docs.length := by
  cases stage with
  | matching predicate =>
      obtain ⟨_, rfl⟩ := (keepWhere_ok _ docs left).mp ran
      exact List.length_filter_le _ docs
  | sort spec =>
      obtain ⟨keys, _, sorted⟩ := (bind_ok _ _ _).mp ran
      rw [← Except.ok.inj sorted]
      exact (Sorting.sort_perm keys docs).length_eq.le
  | skip number =>
      rw [← Except.ok.inj ran]
      exact (List.drop_sublist _ docs).length_le
  | limit number =>
      rw [← Except.ok.inj ran]
      exact (List.take_sublist _ docs).length_le
  | project spec => exact ((mapM_ok _ _ _).mp ran).length_eq.ge
  | addFields fields => exact ((mapM_ok _ _ _).mp ran).length_eq.ge
  | group spec => exact Grouping.length_group spec docs left ran
  | count name =>
      rw [← Except.ok.inj ran]
      cases docs <;> simp

theorem Pipeline.length_run (patterns : PatternCompiler) (pipeline : Pipeline)
    (docs left : List Document) (ran : run patterns pipeline docs = .ok left) :
    left.length ≤ docs.length := by
  induction pipeline generalizing docs with
  | nil => rw [Except.ok.inj ran]
  | cons stage rest ih =>
      obtain ⟨middle, first, later⟩ := (bind_ok _ _ _).mp ran
      exact (ih middle later).trans (stage.length_apply patterns docs middle first)

end DataGrid
