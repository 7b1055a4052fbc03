import DataGrid.Proofs.Value.Document
/-!
Values in which no object has a key twice. The fields of a document are then told by their names
alone, and they stay so when a field is put or removed.
-/
namespace DataGrid

namespace Value

mutual

/-- Whether no object has a key twice, however deep it lies. -/
def isWellFormed : Value → Bool
  | .object fields => decide (Document.keys fields).Nodup && areFieldsWellFormed fields
  | .array items => areWellFormed items
  | _ => true

def areWellFormed : List Value → Bool
  | [] => true
  | item :: rest => isWellFormed item && areWellFormed rest

def areFieldsWellFormed : List (String × Value) → Bool
  | [] => true
  | (_, value) :: rest => isWellFormed value && areFieldsWellFormed rest

end

theorem items_wellFormed (items : List Value) (whole : areWellFormed items = true) (item : Value)
    (member : item ∈ items) : item.isWellFormed = true := by
  induction items with
  | nil => simp at member
  | cons first rest ih =>
      rw [areWellFormed, Bool.and_eq_true] at whole
      rcases List.mem_cons.mp member with rfl | later
      · exact whole.1
      · exact ih whole.2 later

theorem fieldsWellFormed_iff (fields : Document) : areFieldsWellFormed fields = true ↔
    ∀ field ∈ fields, field.2.isWellFormed = true := by
  induction fields with
  | nil => simp [areFieldsWellFormed]
  | cons field fields ih => rw [areFieldsWellFormed, Bool.and_eq_true, ih, List.forall_mem_cons]

theorem wellFormed_object (fields : Document) : (object fields).isWellFormed = true ↔
    fields.keys.Nodup ∧ ∀ field ∈ fields, field.2.isWellFormed = true := by
  rw [isWellFormed, Bool.and_eq_true, decide_eq_true_iff, fieldsWellFormed_iff]

theorem wellFormed_keys (fields : Document) (whole : (object fields).isWellFormed = true) :
    fields.keys.Nodup := ((wellFormed_object fields).mp whole).1

theorem wellFormed_get? (fields : Document) (whole : (object fields).isWellFormed = true)
    (name : String) (value : Value) (found : fields.get? name = some value) :
    value.isWellFormed = true :=
  ((wellFormed_object fields).mp whole).2 _ (Document.mem_of_get? fields name value found)

end Value

namespace Document

variable (doc : Document) (key : String) (whole : (Value.object doc).isWellFormed = true)
include whole

theorem wellFormed_put (value : Value) (given : value.isWellFormed = true) :
    (Value.object (put doc key value)).isWellFormed = true := by
  obtain ⟨unique, fields⟩ := (Value.wellFormed_object doc).mp whole
  refine (Value.wellFormed_object _).mpr ⟨nodup_keys_put doc key value unique, ?_⟩
  intro field member
  rcases mem_put doc key value field member with old | rfl
  · exact fields field old
  · exact given

theorem wellFormed_remove : (Value.object (remove doc key)).isWellFormed = true := by
  obtain ⟨unique, fields⟩ := (Value.wellFormed_object doc).mp whole
  refine (Value.wellFormed_object _).mpr ⟨nodup_keys_remove doc key unique, ?_⟩
  intro field member
  have left := (remove_perm doc key unique).mem_iff.mp member
  exact fields field (List.mem_filter.mp left).1

end Document

end DataGrid
