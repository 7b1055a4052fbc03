import DataGrid.Pipeline.Projection
import DataGrid.Proofs.Store.Expression
import DataGrid.Proofs.Store.Result
import DataGrid.Proofs.Value.Removing
/-!
Entries of projections. Of a projection that includes, one by one: `_id` is decided before the
entries are met, a field that is on is copied, and an expression is computed over the document. A
projection whose fields are all off takes them away one after the other, so that nothing is left at
their paths and all that is apart from these stays.
-/
namespace DataGrid.Projection

open Result

theorem isFlag_zero : isFlag false (.int 0) = true := by decide +kernel

theorem isFlag_one : isFlag true (.int 1) = true := by decide +kernel

theorem isFlag_one_off : isFlag false (.int 1) = false := by decide +kernel

variable (doc out : Document)

theorem includeEntry_id : includeEntry doc out "_id" (.int 0) = .ok out := by
  rw [includeEntry, if_pos ⟨rfl, by rw [isFlag_zero, Bool.true_or]⟩]
  rfl

theorem includeEntry_on (field : String) (value : Value) (other : field ≠ "_id")
    (plain : '.' ∉ field.toList) (stored : doc.get? field = some value) :
    includeEntry doc out field (.int 1) = .ok (out.put field value) := by
  have found : (Value.object doc).get? field = some value := by
    rw [Value.get?_of_plain doc field plain, stored]
  rw [includeEntry, if_neg (fun both => other both.1), isFlag_one_off, isFlag_one, found,
    if_neg (by decide), if_pos rfl]
  exact congrArg Except.ok (Document.setPath_of_plain out field value plain)

theorem includeEntry_expression (field : String) (expression value : Value) (other : field ≠ "_id")
    (plain : '.' ∉ field.toList) (off : isFlag false expression = false)
    (on : isFlag true expression = false)
    (computed : Expression.evaluate (.object doc) expression = .ok value) :
    includeEntry doc out field expression = .ok (out.put field value) := by
  rw [includeEntry, if_neg (fun both => other both.1), off, on, if_neg (by decide),
    if_neg (by decide), computed]
  exact congrArg Except.ok (Document.setPath_of_plain out field value plain)

theorem includeEntries_append (first second : Document) :
    includeEntries doc out (first ++ second) =
      includeEntries doc out first >>= fun middle => includeEntries doc middle second := by
  induction first generalizing out with
  | nil => rfl
  | cons entry rest ih =>
      obtain ⟨field, value⟩ := entry
      simp only [List.cons_append, includeEntries]
      cases includeEntry doc out field value with
      | error fault => rfl
      | ok next => exact ih next

theorem includeEntries_single (field : String) (value : Value) :
    includeEntries doc out [(field, value)] = includeEntry doc out field value := by
  simp only [includeEntries]
  cases includeEntry doc out field value <;> rfl

/-- A projection whose fields are all off never fails, and leaves a document without the paths that are
off. -/
theorem project_excludes (spec : Document) (whole : (Value.object doc).isWellFormed = true)
    (exclusion : isExclusion spec = true) :
    ∃ left, project spec doc = .ok left ∧
      Document.Without (Document.keys (spec.filter fun entry => isFlag false entry.2)) doc left := by
  refine ⟨exclude spec doc, by rw [project, if_pos exclusion]; rfl, ?_⟩
  have without := Document.without_removePaths doc
    (Document.keys (spec.filter fun entry => isFlag false entry.2)) whole
  rwa [Document.keys, List.foldl_map] at without

theorem removePaths_plain (fields : Document) (plain : ∀ field ∈ fields, '.' ∉ field.1.toList) :
    fields.foldl (fun out field => Document.removePath out field.1) out =
      fields.keys.foldl Document.remove out := by
  induction fields generalizing out with
  | nil => rfl
  | cons field fields ih =>
      rw [List.foldl_cons, Document.removePath_of_plain _ _ (plain field (by simp))]
      exact ih _ fun other member => plain other (List.mem_cons_of_mem field member)

theorem exclude_off (spec : Document) (zero : ∀ field ∈ spec, field.2 = .int 0)
    (plain : ∀ field ∈ spec, '.' ∉ field.1.toList) :
    project spec doc = .ok (spec.keys.foldl Document.remove doc) := by
  have off : ∀ field ∈ spec, isFlag false field.2 = true := by
    intro field member
    rw [zero field member, isFlag_zero]
  have exclusion : isExclusion spec = true := by
    refine List.all_eq_true.mpr fun field member => ?_
    rw [off field member, Bool.or_true]
  rw [project, if_pos exclusion, exclude, List.filter_eq_self.mpr off, removePaths_plain doc spec plain]
  rfl

/-- Fields and what their expressions yield over one document. -/
def Yields (fields computed : Document) : Prop :=
  List.Forall₂ (fun field known => known.1 = field.1 ∧
    Expression.evaluate (.object doc) field.2 = .ok known.2) fields computed

theorem keys_yields {doc fields computed : Document} (yields : Yields doc fields computed) :
    computed.keys = fields.keys := by
  unfold Yields at yields
  induction yields with
  | nil => rfl
  | cons one _ ih => exact congrArg₂ List.cons one.1 ih

theorem addFields_ok (fields result : Document) (plain : ∀ field ∈ fields, '.' ∉ field.1.toList)
    (ran : addFields doc out fields = .ok result) :
    ∃ computed, result = out.putAll computed ∧ Yields doc fields computed := by
  induction fields generalizing out with
  | nil => exact ⟨[], (Except.ok.inj ran).symm, List.Forall₂.nil⟩
  | cons field fields ih =>
      obtain ⟨name, expression⟩ := field
      obtain ⟨value, evaluated, later⟩ := (bind_ok _ _ _).mp ran
      rw [Document.setPath_of_plain out name value (plain (name, expression) (by simp))] at later
      obtain ⟨computed, same, each⟩ :=
        ih _ (fun other member => plain other (List.mem_cons_of_mem _ member)) later
      exact ⟨(name, value) :: computed, same, List.Forall₂.cons ⟨rfl, evaluated⟩ each⟩

theorem addFields_total (fields : Document)
    (each : ∀ field ∈ fields, ∃ value, Expression.evaluate (.object doc) field.2 = .ok value) :
    ∃ result, addFields doc out fields = .ok result := by
  induction fields generalizing out with
  | nil => exact ⟨out, rfl⟩
  | cons field fields ih =>
      obtain ⟨name, expression⟩ := field
      obtain ⟨value, evaluated⟩ := each (name, expression) (by simp)
      obtain ⟨result, later⟩ := ih (Document.setPath out name value)
        fun other member => each other (List.mem_cons_of_mem _ member)
      exact ⟨result, (bind_ok _ _ _).mpr ⟨value, evaluated, later⟩⟩

end DataGrid.Projection
