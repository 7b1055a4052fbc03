import DataGrid.Proofs.Filter.Filtering
import DataGrid.Proofs.Pipeline.Grouping
/-!
The filter that asks for one value of one field. Its stages compute what the field stands for behind
every row, and keep the rows for which it is equal to the operand, in their order. They fail where the
field has no value in some row, and nowhere else.
-/
namespace DataGrid

open Result

namespace Filter

/-- A field of a filter, an equality and a value. -/
def equality (field : String) (operand : Value) : Value :=
  .array [.string field, .string Comparison.eq.name, operand]

theorem read_equality (field : String) (operand : Value) :
    read? (equality field operand) = some (.compare field .eq operand) := by
  have elements : ∀ inner, ofElements? [.string field, .string "=", operand] inner =
      some (.compare field .eq operand) := by
    intro inner
    have comparison : Connective.ofName? "=" = none := by decide
    have named : Comparison.ofName? "=" = some .eq := by decide
    unfold ofElements?
    -- three elements are no array in an array and no negation
    split
    · rename_i single
      simp at single
    · rename_i pair
      simp at pair
    · simp [Chain.isIncomplete, Value.isArray, ofOdd?, comparison, named]
  rw [equality, read?]
  exact elements _

end Filter

namespace Filtering

section Field

variable (offset : Int) (field : String)

/-- The condition that a field is equal to a value. -/
def equals (operand : Value) : Condition := Condition.onField field (.single "$eq" operand)

theorem ofFilter_equality (operand : Value) (ignoreCase : Bool) :
    ofFilter (some (Filter.equality field operand)) offset ignoreCase =
      ofCondition offset (equals field operand) := by
  rw [ofFilter, Option.bind_some, Condition.ofValue?, Filter.read_equality]
  rfl

/-- The fields that are computed for one field of a filter, one stage for each. -/
def computed : List (String × Value) :=
  match DatePart.ofName? field with
  | some part =>
      part.unit.computed part.computedName part.quarterName (Term.localTime part.base offset)
  | Option.none => []

/-- A row with these fields. -/
def extend (row : Document) : StoreResult Document :=
  (computed offset field).foldlM (fun out part => Projection.addFields out out [part]) row

/-- What a match finds in an extended row. -/
def carried (extended : Document) : Value :=
  ((Value.object extended).get? (DatePart.matchName field)).getD .null

/-- What a field of a filter stands for in a row. -/
def valueOf (row : Document) : StoreResult Value :=
  (extend offset field row).map (carried field)

/-- What it stands for, in rows where it stands for anything. -/
def subjectOf (row : Document) : Value := (valueOf offset field row).toOption.getD .null

theorem valueOf_stored (stored : DatePart.ofName? field = Option.none) (row : Document) :
    valueOf offset field row = .ok (((Value.object row).get? field).getD .null) := by
  unfold valueOf extend computed carried DatePart.matchName
  rw [stored]
  rfl

theorem valueOf_part (part : DatePart) (named : DatePart.ofName? field = some part) (row : Document) :
    valueOf offset field row =
      (Term.localOf offset (Expression.reference row part.base)).bind part.unit.ofLocal := by
  have proper := DatePart.proper_of_name field part named
  have looked : carried field = fun extended => (extended.get? part.computedName).getD .null := by
    funext extended
    rw [carried, matchName_eq field part named,
      Value.get?_of_plain _ _ (part.computedName_plain proper)]
  rw [valueOf, extend, computed, named, looked]
  exact part.unit.value_extend _ _ (part.computedName_plain proper) (part.quarterName_plain proper)
    part.quarterName_reserved row part.base offset

theorem ofFields_single :
    (DateParts.ofFields offset [field]).stages =
        (computed offset field).map (fun part => .addFields [part]) ∧
      (DateParts.ofFields offset [field]).names = (computed offset field).map Prod.fst := by
  cases named : DatePart.ofName? field with
  | none => simp [DateParts.ofFields, computed, named, DateParts.stages, DateParts.none]
  | some part =>
      have alone : DateParts.ofFields offset [field] = DateParts.add offset .none part := by
        simp [DateParts.ofFields, named]
      have apart := part.quarterName_ne part (DatePart.proper_of_name field part named)
      rw [alone]
      cases single : part.unit.extract? (Term.localTime part.base offset) with
      | some expression =>
          rw [DateParts.add_single part expression single]
          simp [computed, named, DateUnit.computed, single, DateParts.stages, DateParts.none,
            Document.put, DateParts.track]
      | none =>
          rw [DateParts.add_quarter part (DateUnit.extract_none _ _ single)]
          simp [computed, named, DateUnit.computed, single, DateParts.stages, DateParts.none,
            Document.put, DateParts.track, apart.symm]

end Field

section Stages

variable (patterns : PatternCompiler) (offset : Int) (field : String) (operand : Value)
  (rows : List Document)

theorem equals_holds (doc : Document)
    (searched : Text.startsWithDollar (DatePart.matchName field) = false) :
    Predicate.holds patterns (.object doc) (equals field operand).predicate =
      .ok (operand.equal (carried field doc)) := by
  rw [equals, Condition.onField, Predicate.holds_field _ _ _ _ searched,
    Predicate.fieldHolds_single _ _ _ _ (by decide), Value.equal_comm]
  rfl

/-- One field is computed for its condition as it is computed alone. -/
theorem extend_equals (row doc : Document) :
    (DateParts.ofFields offset (equals field operand).fields).extend row = .ok doc ↔
      extend offset field row = .ok doc := by
  -- no pattern is compiled by these stages
  have alone := DateParts.run_stages (fun _ _ => .error "") (DateParts.ofFields offset [field])
    [row] [doc]
  rw [(ofFields_single offset field).1, Pipeline.run_addFields] at alone
  simp only [List.forall₂_cons, List.Forall₂.nil, and_true] at alone
  exact alone.symm

theorem verdict_equals (searched : Text.startsWithDollar (DatePart.matchName field) = false)
    (row : Document) (said : Bool) :
    verdict patterns offset (equals field operand) row = .ok said ↔
      ∃ value, valueOf offset field row = .ok value ∧ operand.equal value = said := by
  constructor
  · intro known
    obtain ⟨doc, extended, held⟩ := (bind_ok _ _ _).mp known
    rw [extend_equals] at extended
    rw [equals_holds patterns field operand doc searched] at held
    exact ⟨carried field doc, (map_ok _ _ _).mpr ⟨doc, extended, rfl⟩, Except.ok.inj held⟩
  · rintro ⟨value, known, rfl⟩
    obtain ⟨doc, extended, rfl⟩ := (map_ok _ _ _).mp known
    rw [← extend_equals offset field operand] at extended
    exact (bind_ok _ _ _).mpr ⟨doc, extended, equals_holds patterns field operand doc searched⟩

theorem run_equals (searched : Text.startsWithDollar (DatePart.matchName field) = false)
    (plain : ∀ row ∈ rows, Document.Plain row)
    (valued : ∀ row ∈ rows, ∃ value, valueOf offset field row = .ok value) :
    Pipeline.run patterns (ofCondition offset (equals field operand)).stages rows =
      .ok (Grouping.members (subjectOf offset field) rows operand) := by
  have decided (row : Document) (member : row ∈ rows) :
      verdict patterns offset (equals field operand) row =
        .ok (operand.equal (subjectOf offset field row)) := by
    obtain ⟨value, known⟩ := valued row member
    refine (verdict_equals patterns offset field operand searched row _).mpr ⟨value, known, ?_⟩
    rw [subjectOf, known]
    rfl
  refine (run_condition (equals field operand) patterns offset rows _ plain).mpr
    ⟨fun row member => ⟨_, decided row member⟩, List.filter_congr fun row member => ?_⟩
  rw [decided row member]
  cases operand.equal (subjectOf offset field row) <;> rfl

theorem valued_of_run (kept : List Document)
    (ran : Pipeline.run patterns (ofCondition offset (equals field operand)).stages rows = .ok kept) :
    ∀ row ∈ rows, ∃ value, valueOf offset field row = .ok value := by
  obtain ⟨extended, computed, _⟩ := (Pipeline.run_append_ok _ _ _ _ _).mp ran
  have each := (DateParts.run_stages _ _ _ _).mp computed
  intro row member
  obtain ⟨doc, _, one⟩ := exists_right each row member
  rw [extend_equals] at one
  exact ⟨_, (map_ok _ _ _).mpr ⟨doc, one, rfl⟩⟩

end Stages

end Filtering

end DataGrid
