import DataGrid.Group.Key
import DataGrid.Proofs.Pipeline.Grouping
import DataGrid.Proofs.Pipeline.Run
import DataGrid.Proofs.Pipeline.Unit
import DataGrid.Proofs.Store.Predicate
/-!
Keys of group levels. The stages of a level put the key behind the fields of a row; what they put
there depends on the row through one reference alone. Names of computed fields are reserved and have
no dots. A match on the key then keeps the rows whose key is equal to the given one, unless that key
is spelled like an object of operators.
-/
namespace DataGrid

open Result

namespace GroupKey

variable (key : GroupKey)

theorem fieldOf_plain (level : Nat) : '.' ∉ (fieldOf level).toList := by
  have number : '.' ∉ (toString level).toList := by
    intro member
    have digit : '.'.isDigit = true :=
      Nat.isDigit_of_mem_toDigits (n := level) (b := 10) (by decide) (by decide) (by simpa using member)
    contradiction
  simp only [fieldOf, String.toList_append, List.mem_append, not_or]
  exact ⟨by decide, number⟩

theorem field_plain : '.' ∉ key.field.toList := fieldOf_plain key.level

theorem quarterField_plain : '.' ∉ key.quarterField.toList := by
  simp only [quarterField, String.toList_append, List.mem_append, not_or]
  exact ⟨key.field_plain, by decide⟩

theorem field_reserved : Path.Reserved key.field := by
  rw [Path.Reserved, field, fieldOf, String.toList_append]
  exact (by decide : "___".toList <+: "___group_key_".toList).trans (List.prefix_append _ _)

theorem quarterField_reserved : Path.Reserved key.quarterField := by
  have start := key.field_reserved
  rw [Path.Reserved] at start ⊢
  rw [quarterField, String.toList_append]
  exact start.trans (List.prefix_append _ _)

/-- The fields of a level, added to a row one after the other. -/
def extend (doc : Document) : StoreResult Document :=
  key.computed.foldlM (fun out part => Projection.addFields out out [part]) doc

/-- The key that the stages of a level compute for a row. -/
def valueOf (doc : Document) : StoreResult Value :=
  (key.extend doc).map fun extended => (extended.get? key.field).getD .null

/-- The key that an extended row carries. -/
def carried (extended : Document) : Value := Expression.reference extended key.field

theorem run_stages (patterns : PatternCompiler) (docs out : List Document) :
    Pipeline.run patterns key.stages docs = .ok out ↔ docs.mapM key.extend = .ok out := by
  rw [mapM_ok]
  exact Pipeline.run_addFields patterns key.computed docs out

/-- The fields of a level, by the value that its selector refers to. -/
def fields (stored : Value) : StoreResult Document :=
  match key.rule with
  | .raw => .ok [(key.field, stored)]
  | .bucket width =>
      (Term.quotientOf stored (.int width)).map fun bucket => [(key.field, bucket)]
  | .part unit =>
      (Term.localOf key.offset stored).bind fun time =>
        if unit = .quarter then
          (DateUnit.monthPlusTwoOf time).bind fun month =>
            (DateUnit.quarterOf month).map fun quarter =>
              [(key.quarterField, month), (key.field, quarter)]
        else (unit.ofLocal time).map fun part => [(key.field, part)]

theorem extend_eq (doc : Document) :
    key.extend doc = (key.fields (Expression.reference doc key.selector)).map doc.putAll := by
  have selected := Expression.evaluate_field doc key.selector
  unfold extend computed fields
  cases key.rule with
  | raw =>
      simp only [List.foldlM_cons, List.foldlM_nil, DateUnit.addField doc _ _ key.field_plain, selected]
      rfl
  | bucket width =>
      have quotient := Term.evaluate_quotient _ _ (.int width) _ _ selected rfl
      simp only [List.foldlM_cons, List.foldlM_nil, DateUnit.addField doc _ _ key.field_plain, quotient]
      cases Term.quotientOf _ (.int width) <;> rfl
  | part unit =>
      exact unit.extend_eq key.field key.quarterField key.field_plain key.quarterField_plain
        key.quarterField_reserved doc key.selector key.offset

/-- What the stages of a level add to a row depends on the row through its reference alone. -/
theorem extend_ok (doc out : Document) :
    key.extend doc = .ok out ↔
      ∃ fields, key.fields (Expression.reference doc key.selector) = .ok fields ∧
        doc.putAll fields = out := by
  rw [extend_eq]
  exact map_ok _ _ _

theorem fields_shape (stored : Value) (fields : Document)
    (computed : key.fields stored = .ok fields) :
    fields.keys = key.names ∧ ∃ front value, fields = front ++ [(key.field, value)] := by
  unfold GroupKey.fields at computed
  unfold names GroupKey.computed
  cases rule : key.rule with
  | raw =>
      rw [rule] at computed
      rw [← Except.ok.inj computed]
      exact ⟨rfl, [], stored, rfl⟩
  | bucket width =>
      rw [rule] at computed
      obtain ⟨value, _, rfl⟩ := (map_ok _ _ _).mp computed
      exact ⟨rfl, [], value, rfl⟩
  | part unit =>
      rw [rule] at computed
      obtain ⟨time, _, known⟩ := (bind_ok _ _ _).mp computed
      exact unit.fields_shape key.field key.quarterField _ time fields known

theorem names_reserved : ∀ name ∈ key.names, Path.Reserved name := by
  have single : ∀ name ∈ [key.field], Path.Reserved name := by
    intro name member
    rw [List.mem_singleton.mp member]
    exact key.field_reserved
  unfold names computed
  split
  · exact single
  · exact single
  · dsimp only
    split
    · exact single
    · intro name member
      rcases List.mem_cons.mp member with rfl | later
      · exact key.quarterField_reserved
      · exact single name later

theorem carried_eq (doc : Document) : key.carried doc = (doc.get? key.field).getD .null :=
  Expression.reference_of_plain doc key.field key.field_plain
    (Expression.part_of_reserved key.field key.field_reserved)

theorem valueOf_ok (doc out : Document) (extended : key.extend doc = .ok out) :
    key.valueOf doc = .ok (key.carried out) := by
  rw [valueOf, extended, carried_eq]
  rfl

theorem extend_total (docs : List Document)
    (valued : ∀ doc ∈ docs, ∃ value, key.valueOf doc = .ok value) :
    ∃ extended, docs.mapM key.extend = .ok extended := by
  refine mapM_total key.extend docs fun doc member => ?_
  obtain ⟨value, known⟩ := valued doc member
  obtain ⟨out, one, _⟩ := (map_ok _ _ _).mp known
  exact ⟨out, one⟩

/-- The keys that extended rows carry are keys of rows. -/
theorem valueOf_classes (docs extended : List Document) (values : List Value)
    (computed : docs.mapM key.extend = .ok extended)
    (classes : Grouping.Classes key.carried extended values) (value : Value)
    (member : value ∈ values) : ∃ doc ∈ docs, key.valueOf doc = .ok value := by
  obtain ⟨out, inside, rfl⟩ := classes.nonempty value member
  obtain ⟨doc, inDocs, one⟩ := exists_left ((mapM_ok _ _ _).mp computed) out inside
  exact ⟨doc, inDocs, key.valueOf_ok doc out one⟩

theorem valueOf_raw (raw : key.rule = .raw) (doc : Document) :
    key.valueOf doc = .ok (Expression.reference doc key.selector) := by
  rw [valueOf, extend_eq, GroupKey.fields, raw]
  exact congrArg (fun stored => Except.ok (stored.getD .null))
    (Document.get?_putAll_last doc [] key.field _)

theorem valueOf_part (unit : DateUnit) (part : key.rule = .part unit) (doc : Document) :
    key.valueOf doc =
      (Term.localOf key.offset (Expression.reference doc key.selector)).bind unit.ofLocal := by
  unfold valueOf extend computed
  rw [part]
  exact unit.value_extend key.field key.quarterField key.field_plain key.quarterField_plain
    key.quarterField_reserved doc key.selector key.offset

theorem valueOf_same (row doc out : Document)
    (same : Expression.reference doc key.selector = Expression.reference row key.selector)
    (extended : key.extend doc = .ok out) : key.valueOf row = .ok (key.carried out) := by
  obtain ⟨fields, computed, rfl⟩ := (key.extend_ok doc out).mp extended
  rw [same] at computed
  obtain ⟨_, front, value, last⟩ := key.fields_shape _ fields computed
  subst last
  have alone := (key.extend_ok row _).mpr ⟨_, computed, rfl⟩
  rw [valueOf_ok key row _ alone, carried_eq, carried_eq, Document.get?_putAll_last,
    Document.get?_putAll_last]

/-- A row keeps what is stored in it, and its key is added behind. -/
theorem behind_extend {names : List String} {row doc out : Document}
    (reserved : ∀ name ∈ names, Path.Reserved name) (plain : row.Plain)
    (listed : ∀ name ∈ key.names, name ∈ names) (behind : Document.Behind names row doc)
    (same : Expression.reference doc key.selector = Expression.reference row key.selector)
    (extended : key.extend doc = .ok out) :
    Document.Behind names row out ∧ key.valueOf row = .ok (key.carried out) := by
  refine ⟨?_, key.valueOf_same row doc out same extended⟩
  obtain ⟨fields, computed, rfl⟩ := (key.extend_ok doc out).mp extended
  obtain ⟨added, _⟩ := key.fields_shape _ fields computed
  exact Document.behind_putAll (Document.absent_of_plain reserved plain) behind fields
    fun name member => listed name (added ▸ member)

theorem keyMatch_apply (patterns : PatternCompiler) (docs : List Document) (value : Value)
    (plain : Predicate.isOperators value = false) :
    (key.keyMatch value).apply patterns docs = .ok (Grouping.members key.carried docs value) := by
  have decided : ∀ doc : Document, Predicate.holds patterns (.object doc) [(key.field, value)] =
      .ok (value.equal (key.carried doc)) := by
    intro doc
    rw [Predicate.holds_field _ _ _ _
        (Predicate.startsWithDollar_of_reserved key.field key.field_reserved),
      Predicate.fieldHolds_value _ _ _ plain, Value.get?_of_plain doc key.field key.field_plain,
      ← carried_eq, Value.equal_comm]
  refine (keepWhere_ok _ _ _).mpr ⟨fun doc _ => ⟨_, decided doc⟩, ?_⟩
  apply List.filter_congr
  intro doc _
  rw [decided doc]
  cases value.equal (key.carried doc) <;> rfl

end GroupKey

end DataGrid
