import DataGrid.Proofs.Double.Whole
import DataGrid.Proofs.Filter.Comparing
import DataGrid.Proofs.Load.Labels
/-!
Whole numbers as they are filtered and grouped. A filter and a group level alike compare values, and
a comparison knows a number by its double. So rows are told apart by their numbers, unless two numbers
share a double, as neighbours do from 2⁵³ on.
-/
namespace DataGrid

open Result

open Double (Separates)

namespace Comparison

theorem asks_equal (number operand : Int) :
    (Ord.compare number operand == .eq) = decide (number = operand) := by
  rw [Bool.eq_iff_iff, beq_iff_eq, decide_eq_true_iff]
  exact Std.compare_eq_iff_eq

theorem asks_greater (number operand : Int) :
    (Ord.compare number operand == .gt) = decide (operand < number) := by
  rw [Bool.eq_iff_iff, beq_iff_eq, decide_eq_true_iff]
  exact Std.compare_eq_gt

end Comparison

namespace Value

variable {number other : Int} (apart : Separates number other)
include apart

theorem compare_int : compare (.int number) (.int other) = Ord.compare number other := by
  rw [compare, Double.compare_ofInt apart]

theorem equal_int : equal (.int number) (.int other) = decide (number = other) := by
  rw [equal, compare_int apart]
  exact Comparison.asks_equal number other

end Value

namespace LoadResult

section Stored

variable (patterns : PatternCompiler) (collection : Collection) (request : Request)
  (level : GroupLevel) (options : Options) (opens : request.Opens level)
  (dotless : '.' ∉ level.selector.toList)
  (undollared : Text.startsWithDollar level.selector = false) (rows : List Document)
  (before : collection.run patterns options.before = .ok rows)
  (few : request.groupCount = true → rows.length < 2 ^ 64)
  (small : request.needsTotalCount = true → rows.length < 2 ^ 64) (number : Document → Int)
  (stored : ∀ row ∈ rows, row.get? level.selector = some (.int (number row)))
include opens dotless undollared before small stored

/-- A comparison of order with a number that is told apart from those of the rows. -/
theorem compared_lists (comparison : Comparison) (asks : Ordering → Bool)
    (known : comparison.asks? = some asks) (operand : Int)
    (apart : ∀ row ∈ rows, Separates (number row) operand) (keys : Sorting.Keys)
    (sorts : ∀ patterns docs,
      Pipeline.run patterns (SortKey.stages request.sort) docs = .ok (Sorting.sort keys docs)) :
    Lists (collection.store patterns)
      (request.narrowed [.string level.selector, .string comparison.name, .int operand]) options
      ((Sorting.sort keys rows).filter fun row => asks (Ord.compare (number row) operand)) := by
  have filters := Filtering.run_comparison patterns options.offset level.selector dotless undollared
    rows comparison asks known (.int operand) options.ignoreCase (fun row => .int (number row)) stored
    fun _ _ => rfl
  obtain ⟨flat, loaded, shown⟩ := narrowed_loads patterns collection opens options keys sorts _ rows _
    before (fun counted => (List.length_filter_le _ _).trans_lt (small counted)) filters
  refine ⟨flat, loaded, ?_⟩
  rw [shown, Sorting.filter_sort]
  congr 3
  refine List.filter_congr fun row member => ?_
  rw [Value.compare_int (apart row member)]

include few in
theorem numbered_groups (raw : level.interval = none)
    (apart : ∀ row ∈ rows, ∀ other ∈ rows, Separates (number row) (number other)) :
    ∃ sorted,
      collection.run patterns (options.before ++ SortKey.stages request.sort) = .ok sorted ∧
      sorted.Perm rows ∧
      Groups (collection.store patterns) request options .int number sorted := by
  have rule : (level.keyAt options 0).rule = .raw := by
    rw [GroupLevel.keyAt, raw]
    rfl
  have alone : (level.keyAt options 0).names = [(level.keyAt options 0).field] := by
    rw [GroupKey.names, GroupKey.computed, rule]
    rfl
  have part : ¬ Expression.IsWhole level.selector := by
    rintro (same | same) <;> rw [same] at undollared <;> contradiction
  refine opened_labels patterns collection opens options alone .int number rows before few small
    (fun row member => ?_) (fun row member other inRows equal => ?_) fun _ _ => rfl
  · rw [GroupKey.valueOf_raw _ rule]
    have found := Expression.reference_of_plain row level.selector dotless part
    rw [stored row member] at found
    exact congrArg Except.ok found
  · rw [Value.equal_int (apart row member other inRows)] at equal
    exact of_decide_eq_true equal

end Stored

/-- Over rows that hold whole numbers in a field, an equality lists the rows with its number, a
comparison by size the rows with a greater one, and a level without interval has one group for each
number, as long as no two of the numbers that are compared share a double. -/
theorem ofRequest_numbers (patterns : PatternCompiler) (collection : Collection) (request : Request)
    (level : GroupLevel) (options : Options) (opens : request.Opens level)
    (raw : level.interval = none) (dotless : '.' ∉ level.selector.toList)
    (undollared : Text.startsWithDollar level.selector = false) (rows : List Document)
    (before : collection.run patterns options.before = .ok rows)
    (few : request.groupCount = true → rows.length < 2 ^ 64)
    (small : request.needsTotalCount = true → rows.length < 2 ^ 64) (number : Document → Int)
    (stored : ∀ row ∈ rows, row.get? level.selector = some (.int (number row))) :
    ∃ sorted,
      collection.run patterns (options.before ++ SortKey.stages request.sort) = .ok sorted ∧
      sorted.Perm rows ∧
      (∀ operand, (∀ row ∈ rows, Separates (number row) operand) →
        Lists (collection.store patterns)
          (request.narrowed [.string level.selector, .string "=", .int operand]) options
          (sorted.filter fun row => number row = operand) ∧
        Lists (collection.store patterns)
          (request.narrowed [.string level.selector, .string ">", .int operand]) options
          (sorted.filter fun row => operand < number row)) ∧
      ((∀ row ∈ rows, ∀ other ∈ rows, Separates (number row) (number other)) →
        Groups (collection.store patterns) request options .int number sorted) := by
  obtain ⟨keys, sorts⟩ := SortKey.stages_sort request.sort
  have sorted : collection.run patterns (options.before ++ SortKey.stages request.sort) =
      .ok (Sorting.sort keys rows) :=
    (Pipeline.run_append_ok _ _ _ _ _).mpr ⟨rows, before, sorts patterns rows⟩
  refine ⟨_, sorted, Sorting.sort_perm keys rows, fun operand apart => ?_, fun apart => ?_⟩
  · have compared (comparison : Comparison) (asks : Ordering → Bool)
        (known : comparison.asks? = some asks) :=
      compared_lists patterns collection request level options opens dotless undollared rows before
        small number stored comparison asks known operand apart keys sorts
    have equal : (fun row => Ord.compare (number row) operand == .eq) =
        fun row => decide (number row = operand) :=
      funext fun row => Comparison.asks_equal (number row) operand
    have greater : (fun row => Ord.compare (number row) operand == .gt) =
        fun row => decide (operand < number row) :=
      funext fun row => Comparison.asks_greater (number row) operand
    exact ⟨equal ▸ compared .eq _ rfl, greater ▸ compared .gt _ rfl⟩
  · obtain ⟨again, ran, _, grouped⟩ := numbered_groups patterns collection request level options opens
      dotless undollared rows before few small number stored raw apart
    obtain rfl := Except.ok.inj (sorted.symm.trans ran)
    exact grouped

/-- The number under a field of a row; zero where there is none. -/
def numberAt (field : String) (row : Document) : Int :=
  match row.get? field with
  | some (.int number) => number
  | _ => 0

/-- Counters on both sides of 2⁵³. -/
def counters : Collection :=
  .ofDocuments
    [[("hits", .int 9007199254740991), ("at", .int 2)],
      [("at", .int 1), ("hits", .int 18446744073709551615)],
      [("hits", .int (-9223372036854775808))],
      [("at", .int 0), ("hits", .int 9007199254740991)]]

def byHits : GroupLevel := { selector := "hits", expanded := true }

def hitsInOrder : Request := { sort := [⟨"at", false⟩], group := [byHits], totalCount := true }

theorem ofRequest_numbers_counters :
    ∃ sorted,
      counters.run Pattern.compile (SortKey.stages hitsInOrder.sort) = .ok sorted ∧
      Lists (counters.store Pattern.compile)
        (hitsInOrder.narrowed [.string "hits", .string "=", .int 9007199254740991]) {}
        (sorted.filter fun row => numberAt "hits" row = 9007199254740991) ∧
      Lists (counters.store Pattern.compile)
        (hitsInOrder.narrowed [.string "hits", .string ">", .int 9007199254740991]) {}
        (sorted.filter fun row => 9007199254740991 < numberAt "hits" row) ∧
      Groups (counters.store Pattern.compile) hitsInOrder {} .int (numberAt "hits") sorted := by
  have stored : ∀ row ∈ counters.documents,
      row.get? "hits" = some (.int (numberAt "hits" row)) := by decide
  obtain ⟨sorted, ran, _, compared, grouped⟩ := ofRequest_numbers Pattern.compile counters hitsInOrder
    byHits {} ⟨rfl, rfl, rfl, rfl, ⟨rfl, rfl⟩, rfl⟩ rfl (by decide) (by decide) counters.documents rfl
    (fun _ => by decide) (fun _ => by decide) (numberAt "hits") stored
  obtain ⟨equal, greater⟩ := compared 9007199254740991 (by decide +kernel)
  exact ⟨sorted, ran, equal, greater, grouped (by decide +kernel)⟩

/-- Two numbers that share a double. -/
def neighbours : Collection :=
  .ofDocuments [[("id", .int 9007199254740992)], [("id", .int 9007199254740993)]]

def byId : Request := { group := [{ selector := "id", expanded := true }] }

/-- Neighbours above 2⁵³ are taken for each other: an equality finds both, a comparison by size
neither, and both are put into one group. -/
theorem ofRequest_numbers_fails :
    (∀ row ∈ neighbours.documents, row.get? "id" = some (.int (numberAt "id" row))) ∧
      ¬ Lists (neighbours.store Pattern.compile)
        (byId.narrowed [.string "id", .string "=", .int 9007199254740993]) {}
        (neighbours.documents.filter fun row => numberAt "id" row = 9007199254740993) ∧
      ¬ Lists (neighbours.store Pattern.compile)
        (byId.narrowed [.string "id", .string ">", .int 9007199254740992]) {}
        (neighbours.documents.filter fun row => 9007199254740992 < numberAt "id" row) ∧
      ¬ Groups (neighbours.store Pattern.compile) byId {} .int (numberAt "id")
        neighbours.documents := by
  have listed (request : Request) (found docs : List Document)
      (loaded : (ofRequest (neighbours.store Pattern.compile) request {}).1.toOption.map rows? =
        some (some found)) (differs : found ≠ docs.map (RowCleaner.shown true)) :
      ¬ Lists (neighbours.store Pattern.compile) request {} docs := by
    rintro ⟨result, same, shown⟩
    obtain ⟨again, other, rows⟩ := (toOption_map_ok _ _ _).mp loaded
    obtain rfl := Except.ok.inj (same.symm.trans other)
    exact differs (Option.some.inj (rows.symm.trans shown))
  refine ⟨by decide, ?_, ?_, ?_⟩
  · exact listed _ neighbours.documents _ (by decide +kernel) (by decide)
  · exact listed _ [] _ (by decide +kernel) (by decide)
  · exact not_groups_merged _ byId _ _ _ _ (by decide +kernel) [("id", .int 9007199254740992)]
      [("id", .int 9007199254740993)] (by decide) (by decide) (by decide)

end LoadResult

end DataGrid
