import DataGrid.Proofs.Filter.Equality
import DataGrid.Proofs.Filter.Spelling
/-!
Filters that compare one stored field. A field without dots names no part of a date, so nothing is
computed for it, and its comparison keeps the rows that it holds of. Comparisons of order ask how the
stored value and the operand are ordered, as long as both are of one bracket.
-/
namespace DataGrid

open Result

namespace Comparison

/-- What the comparisons of order ask of the order of a value and the operand. -/
def asks? : Comparison → Option (Ordering → Bool)
  | .eq => some (· == .eq)
  | .ne => some (· != .eq)
  | .gt => some (· == .gt)
  | .gte => some (· != .lt)
  | .lt => some (· == .lt)
  | .lte => some (· != .gt)
  | .startsWith | .endsWith | .contains | .notContains | .equalsId => none

variable (comparison : Comparison) (asks : Ordering → Bool) (known : comparison.asks? = some asks)
include known

theorem test_of_asks (operand : Value) (ignoreCase : Bool) :
    ∃ test, Condition.test? comparison operand ignoreCase = some test := by
  cases comparison with
  | eq | ne | gt | gte | lt | lte => exact ⟨_, rfl⟩
  | startsWith | endsWith | contains | notContains | equalsId => simp [asks?] at known

theorem fieldHolds_asks (patterns : PatternCompiler) (operand value test : Value)
    (ignoreCase : Bool) (compiled : Condition.test? comparison operand ignoreCase = some test)
    (bracket : value.sameBracket operand = true) :
    Predicate.fieldHolds patterns (some value) test = .ok (asks (value.compare operand)) := by
  cases comparison with
  | eq | ne =>
      rw [← Option.some.inj known, ← Option.some.inj compiled,
        Predicate.fieldHolds_single _ _ _ _ (by decide)]
      rfl
  | gt | gte | lt | lte =>
      rw [← Option.some.inj known, ← Option.some.inj compiled,
        Predicate.fieldHolds_single _ _ _ _ (by decide)]
      simp [Predicate.testHolds, FieldTest.ofName?, Predicate.inOrder, bracket]
      rfl
  | startsWith | endsWith | contains | notContains | equalsId => simp [asks?] at known

end Comparison

theorem DatePart.ofName_dotless (field : String) (dotless : '.' ∉ field.toList) :
    ofName? field = none := by
  rw [ofName?, Path.splitFirst_of_plain field dotless]
  rfl

namespace Filtering

variable (patterns : PatternCompiler) (offset : Int) (field : String)
  (dotless : '.' ∉ field.toList) (undollared : Text.startsWithDollar field = false)
  (rows : List Document)
include dotless undollared

theorem run_onField (test : Value) (holds : Document → Bool)
    (decided : ∀ row ∈ rows, Predicate.fieldHolds patterns (row.get? field) test =
      .ok (holds row)) :
    Pipeline.run patterns (ofCondition offset (Condition.onField field test)).stages rows =
      .ok (rows.filter holds) := by
  have undated := DatePart.ofName_dotless field dotless
  have parts := ofFields_single offset field
  simp only [computed, undated, List.map_nil] at parts
  have alone : (ofCondition offset (Condition.onField field test)).stages =
      [.matching [(field, test)]] := by
    simp only [ofCondition, Condition.onField, Condition.stage, parts, DateParts.removal,
      DatePart.matchName, undated]
    rfl
  have held (row : Document) (member : row ∈ rows) :
      Predicate.holds patterns (.object row) [(field, test)] = .ok (holds row) := by
    rw [Predicate.holds_field _ _ _ _ undollared, Value.get?_of_plain row field dotless]
    exact decided row member
  rw [alone, Pipeline.run_single]
  refine (keepWhere_ok _ _ _).mpr ⟨fun row member => ⟨_, held row member⟩, ?_⟩
  refine List.filter_congr fun row member => ?_
  rw [held row member]
  cases holds row <;> rfl

theorem run_comparison (comparison : Comparison) (asks : Ordering → Bool)
    (known : comparison.asks? = some asks) (operand : Value) (ignoreCase : Bool)
    (valueAt : Document → Value)
    (stored : ∀ row ∈ rows, row.get? field = some (valueAt row))
    (bracket : ∀ row ∈ rows, (valueAt row).sameBracket operand = true) :
    Pipeline.run patterns (ofFilter (some (.array [.string field, .string comparison.name, operand]))
        offset ignoreCase).stages rows =
      .ok (rows.filter fun row => asks ((valueAt row).compare operand)) := by
  obtain ⟨test, compiled⟩ := comparison.test_of_asks asks known operand ignoreCase
  have read := Filter.read?_compare field comparison.name comparison operand rfl
  have condition : ofFilter (some (.array [.string field, .string comparison.name, operand])) offset
      ignoreCase = ofCondition offset (Condition.onField field test) := by
    simp only [ofFilter, Option.bind_some, Condition.ofValue?, read, Condition.ofFilter?, compiled,
      Option.map_some, Option.getD_some]
  rw [condition]
  refine run_onField patterns offset field dotless undollared rows test _ fun row member => ?_
  rw [stored row member]
  exact comparison.fieldHolds_asks asks known patterns operand _ test ignoreCase compiled
    (bracket row member)

end Filtering

end DataGrid
