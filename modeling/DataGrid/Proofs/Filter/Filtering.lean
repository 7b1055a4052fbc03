import DataGrid.Collection
import DataGrid.Pattern.Reader
import DataGrid.Proofs.Filter.Condition
import DataGrid.Proofs.Filter.DateParts
/-!
Filtering of documents. The stages of a filter compute the date parts that it refers to, keep the
documents whose predicate holds and take the parts away again, so that what is left are the documents
that satisfy the filter, as they were and in their order.
-/
namespace DataGrid

open Result

namespace DateParts

theorem exclude_names (names : List String) (row doc : Document)
    (dotless : ∀ name ∈ names, '.' ∉ name.toList) (absent : ∀ name ∈ names, name ∉ Document.keys row)
    (behind : Document.Behind names row doc) :
    Projection.project (Document.ofFields (names.map fun name => (name, .int 0))) doc = .ok row := by
  have entries : ∀ entry ∈ Document.ofFields (names.map fun name => (name, Value.int 0)),
      entry.1 ∈ names ∧ entry.2 = .int 0 := by
    intro entry member
    rcases Document.mem_putAll [] _ entry member with none | listed
    · simp at none
    · obtain ⟨name, inNames, rfl⟩ := List.mem_map.mp listed
      exact ⟨inNames, rfl⟩
  have listed : ∀ name, name ∈ names →
      name ∈ Document.keys (Document.ofFields (names.map fun name => (name, Value.int 0))) := by
    intro name member
    refine (Document.mem_keys_putAll [] _ name).mpr (Or.inr ?_)
    exact List.mem_map.mpr ⟨(name, .int 0), List.mem_map.mpr ⟨name, member, rfl⟩, rfl⟩
  -- all that matters of the projection is which names it has and that they are off
  generalize Document.ofFields (names.map fun name => (name, Value.int 0)) = spec at entries listed
  have named : ∀ name ∈ Document.keys spec, name ∈ names := by
    intro name member
    obtain ⟨entry, inSpec, rfl⟩ := List.mem_map.mp member
    exact (entries entry inSpec).1
  obtain ⟨computed, rfl, unique, inNames⟩ := behind
  rw [Projection.exclude_off _ spec (fun entry member => (entries entry member).2)
    fun entry member => dotless _ (entries entry member).1]
  exact congrArg Except.ok (Document.behind_removeAll
    (fun name member => absent name (named name member))
    ⟨computed, rfl, unique, fun name member => listed name (inNames name member)⟩)

theorem run_removal (patterns : PatternCompiler) (names : List String) (rows docs : List Document)
    (dotless : ∀ name ∈ names, '.' ∉ name.toList)
    (each : List.Forall₂ (fun row doc => (∀ name ∈ names, name ∉ Document.keys row) ∧
      Document.Behind names row doc) rows docs) :
    Pipeline.run patterns (removal names) docs = .ok rows := by
  unfold removal
  split
  · rename_i empty
    rw [List.isEmpty_iff.mp empty] at each
    have same : List.Forall₂ (fun row doc => row = doc) rows docs := by
      refine each.imp fun row doc both => ?_
      exact (Document.behind_removeAll both.1 both.2).symm
    rw [List.forall₂_eq_eq_eq] at same
    rw [same]
    rfl
  · rw [Pipeline.run_single]
    refine (mapM_ok _ _ _).mpr (each.flip.imp fun doc row both => ?_)
    exact exclude_names names row doc dotless both.1 both.2

end DateParts

namespace Filtering

theorem matchName_eq (field : String) (part : DatePart) (found : DatePart.ofName? field = some part) :
    DatePart.matchName field = part.computedName := by
  rw [DatePart.matchName, found]
  rfl

theorem alikeIn_self (actual : Option Value) : Value.AlikeIn actual actual := by
  cases actual with
  | none => exact Option.Rel.none
  | some value => exact Option.Rel.some (Or.inl rfl)

variable (reading : Reading) (filter : Filter) (condition : Condition)

/-- The date parts that a condition refers to. -/
def listed (condition : Condition) : List DatePart := condition.fields.filterMap DatePart.ofName?

theorem listed_proper : ∀ part ∈ listed condition, part.Proper :=
  DateParts.proper_fields condition.fields

theorem computes_listed (offset : Int) : DateParts.Computes offset (listed condition)
    (DateParts.ofFields offset condition.fields) :=
  DateParts.computes_fields offset condition.fields

theorem absent_names (offset : Int) (row : Document) (plain : row.Plain) :
    ∀ name ∈ (DateParts.ofFields offset condition.fields).names, name ∉ Document.keys row :=
  Document.absent_of_plain (DateParts.names_reserved (computes_listed condition offset)) plain

section Extended

variable (offset : Int) (row doc : Document) (plain : row.Plain)
  (extended : (DateParts.ofFields offset condition.fields).extend row = .ok doc)
include plain extended

theorem extend_behind_row : Document.Behind (DateParts.ofFields offset condition.fields).names row doc :=
  DateParts.extend_behind (computes_listed condition offset) (listed_proper condition) row
    (absent_names condition offset row plain) doc extended

omit plain in
theorem get?_part (field : String) (member : field ∈ condition.fields) (part : DatePart)
    (found : DatePart.ofName? field = some part) :
    ∃ value, (Value.object doc).get? (DatePart.matchName field) = some value ∧
      (Term.localOf offset (Expression.reference row part.base)).bind part.unit.ofLocal =
        .ok value := by
  have proper := listed_proper condition
  have inListed : part ∈ listed condition := List.mem_filterMap.mpr ⟨field, member, found⟩
  obtain ⟨value, holds, known⟩ := DateParts.extend_units (computes_listed condition offset) proper row
    doc extended part inListed
  refine ⟨value, ?_, known⟩
  rw [matchName_eq field part found,
    Value.get?_of_plain doc _ (part.computedName_plain (proper part inListed)), holds]

theorem get?_stored (field : String) (stored : ¬ Path.Reserved field)
    (undated : DatePart.ofName? field = Option.none) :
    (Value.object doc).get? (DatePart.matchName field) = (Value.object row).get? field := by
  rw [DatePart.matchName, undated]
  exact Value.get?_behind _ row doc field (DateParts.names_reserved (computes_listed condition offset))
    (extend_behind_row condition offset row doc plain extended) stored

end Extended

/-- An extended row holds under the names of a match what the fields of the filter stand for. -/
theorem sees_extended (whole : reading.base = Expression.reference)
    (bounds : -(2 ^ 31) ≤ reading.offset ∧ reading.offset < 2 ^ 31)
    (stored : ∀ field ∈ condition.fields, ¬ Path.Reserved field) (row doc : Document)
    (plain : row.Plain)
    (extended : (DateParts.ofFields reading.offset condition.fields).extend row = .ok doc) :
    Filter.Sees reading row doc condition.fields := by
  intro field member
  rw [Reading.subject]
  cases found : DatePart.ofName? field with
  | some part =>
      obtain ⟨value, holds, known⟩ :=
        get?_part condition reading.offset row doc extended field member part found
      rw [holds, whole]
      exact Option.Rel.some (DateUnit.ofLocal_localOf _ _ _ _ bounds known)
  | none =>
      rw [get?_stored condition reading.offset row doc plain extended field (stored field member) found]
      exact alikeIn_self _

/-- What a condition says of a row, of which it sees the parts that it refers to. -/
def verdict (patterns : PatternCompiler) (offset : Int) (condition : Condition) (row : Document) :
    StoreResult Bool := do
  let extended ← (DateParts.ofFields offset condition.fields).extend row
  Predicate.holds patterns (.object extended) condition.predicate

section Stages

variable (patterns : PatternCompiler) (offset : Int)

theorem verdict_extended (row doc : Document)
    (extended : (DateParts.ofFields offset condition.fields).extend row = .ok doc) :
    verdict patterns offset condition row =
      Predicate.holds patterns (.object doc) condition.predicate := by
  rw [verdict, extended]
  rfl

/-- The rows whose extensions are kept are left behind, as they were. -/
theorem run_removal_kept (rows extended : List Document) (plain : ∀ row ∈ rows, Document.Plain row)
    (each : List.Forall₂ (fun row doc =>
      (DateParts.ofFields offset condition.fields).extend row = .ok doc) rows extended) :
    Pipeline.run patterns (DateParts.removal (DateParts.ofFields offset condition.fields).names)
        (extended.filter fun doc =>
          decide (Predicate.holds patterns (.object doc) condition.predicate = .ok true)) =
      .ok (rows.filter fun row => decide (verdict patterns offset condition row = .ok true)) := by
  have computes := computes_listed condition offset
  have related := forall₂_imp_mem each fun row inRows doc _ one =>
    And.intro (And.intro (absent_names condition offset row (plain row inRows))
      (extend_behind_row condition offset row doc (plain row inRows) one))
      (verdict_extended condition patterns offset row doc one)
  refine DateParts.run_removal patterns _ _ _ (DateParts.names_plain computes (listed_proper condition))
    ((List.rel_filter (fun row doc both => ?_) related).imp fun row doc both => both.1)
  simp only [both.2]

/-- The stages of a condition have a verdict on every document and keep those that it holds of, as
they were. -/
theorem run_condition (docs kept : List Document) (plain : ∀ doc ∈ docs, Document.Plain doc) :
    Pipeline.run patterns (ofCondition offset condition).stages docs = .ok kept ↔
      (∀ doc ∈ docs, ∃ said, verdict patterns offset condition doc = .ok said) ∧
        kept = docs.filter fun doc => decide (verdict patterns offset condition doc = .ok true) := by
  constructor
  · intro ran
    obtain ⟨extended, computed, later⟩ := (Pipeline.run_append_ok _ _ _ _ _).mp ran
    obtain ⟨matched, first, last⟩ := (bind_ok _ _ _).mp later
    obtain ⟨decided, rfl⟩ := (keepWhere_ok _ _ _).mp first
    -- the three stages: what they compute, what is matched, what is taken away
    have each := (DateParts.run_stages _ _ _ _).mp computed
    refine ⟨fun row member => ?_, Except.ok.inj (last.symm.trans
      (run_removal_kept condition patterns offset docs extended plain each))⟩
    obtain ⟨doc, inExtended, one⟩ := exists_right each row member
    rw [verdict_extended condition patterns offset row doc one]
    exact decided doc inExtended
  · rintro ⟨decided, rfl⟩
    obtain ⟨extended, computed⟩ := mapM_total (DateParts.ofFields offset condition.fields).extend docs
      fun row member => by
        obtain ⟨_, known⟩ := decided row member
        obtain ⟨doc, one, _⟩ := (bind_ok _ _ _).mp known
        exact ⟨doc, one⟩
    have each := (mapM_ok _ _ _).mp computed
    refine (Pipeline.run_append_ok _ _ _ _ _).mpr ⟨extended, (DateParts.run_stages _ _ _ _).mpr each,
      (bind_ok _ _ _).mpr ⟨_, (keepWhere_ok _ _ _).mpr ⟨fun doc member => ?_, rfl⟩,
        run_removal_kept condition patterns offset docs extended plain each⟩⟩
    obtain ⟨row, inDocs, one⟩ := exists_left each doc member
    rw [← verdict_extended condition patterns offset row doc one]
    exact decided row inDocs

end Stages

theorem ofCondition_keeps
    (compiled : Condition.ofFilter? reading.ignoreCase filter = some condition)
    (whole : reading.base = Expression.reference)
    (bounds : -(2 ^ 31) ≤ reading.offset ∧ reading.offset < 2 ^ 31) (docs kept : List Document)
    (plain : ∀ doc ∈ docs, Document.Plain doc)
    (stored : ∀ field ∈ condition.fields, ¬ Path.Reserved field)
    (ran : Pipeline.run reading.patterns (ofCondition reading.offset condition).stages docs =
      .ok kept) :
    kept = docs.filter (filter.means reading) := by
  obtain ⟨decided, rfl⟩ := (run_condition condition _ _ _ _ plain).mp ran
  refine List.filter_congr fun row member => ?_
  obtain ⟨said, known⟩ := decided row member
  obtain ⟨doc, extended, held⟩ := (bind_ok _ _ _).mp known
  have sees := sees_extended reading condition whole bounds stored row doc (plain row member) extended
  rw [known, Filter.verdict_means reading row doc filter condition said compiled sees held]
  simp

/-- Filtering keeps the documents that satisfy the filter, as they were. The date field of a date part
may refer to the document as a whole, as any reference may. -/
theorem ofFilter_keeps (patterns : PatternCompiler) (value : Value) (filter : Filter)
    (read : Filter.read? value = some filter) (compiles : filter.compiles = true) (offset : Int)
    (bounds : -(2 ^ 31) ≤ offset ∧ offset < 2 ^ 31) (ignoreCase : Bool) (docs kept : List Document)
    (plain : ∀ doc ∈ docs, Document.Plain doc)
    (stored : ∀ field ∈ filter.fields, ¬ Path.Reserved field)
    (ran : Pipeline.run patterns (ofFilter (some value) offset ignoreCase).stages docs = .ok kept) :
    kept = docs.filter (filter.means ⟨patterns, ignoreCase, offset, Expression.reference⟩) := by
  obtain ⟨condition, compiled⟩ := Option.isSome_iff_exists.mp
    ((Filter.isSome_ofFilter ignoreCase filter).trans compiles)
  have known : ofFilter (some value) offset ignoreCase = ofCondition offset condition := by
    rw [ofFilter, Option.bind_some, Condition.ofValue?, read, Option.bind_some, compiled]
    rfl
  rw [known] at ran
  exact ofCondition_keeps ⟨patterns, ignoreCase, offset, Expression.reference⟩ filter condition compiled
    rfl bounds docs kept plain
    (fun field member => stored field (Filter.fields_subset ignoreCase filter condition compiled field
      member)) ran

/-- Orders with the days on which they were placed, if they were. -/
def orders : List Document :=
  [[("status", .string "open"), ("placed", .date 1488326400000)],
    [("placed", .single "$date" (.string "2017-11-05T12:00:00Z")), ("status", .string "open")],
    [("placed", .date 1485907200000), ("status", .string "closed")],
    [("status", .string "new"), ("placed", .null)]]

/-- Orders of the first quarter that are open, and those that were not placed. The last operand
compares with no object id and is left out. -/
def firstQuarter : Value :=
  .array
    [.array
        [.array [.string "placed.Quarter", .string "=", .int 1], .string "and",
          .array [.string "!", .array [.string "status", .string "startswith", .string "cl"]]],
      .string "or", .array [.string "placed.year", .string "=", .null],
      .string "or", .array [.string "status", .string "equalsObjectId", .string "open"]]

theorem ofFilter_keeps_orders :
    ∃ filter kept, Filter.read? firstQuarter = some filter ∧
      Pipeline.run Pattern.compile (ofFilter (some firstQuarter) 0 false).stages orders = .ok kept ∧
      kept = orders.filter (filter.means ⟨Pattern.compile, false, 0, Expression.reference⟩) ∧
      kept.length = 2 := by
  have answer : (Pipeline.run Pattern.compile (ofFilter (some firstQuarter) 0 false).stages
      orders).toOption.map List.length = some 2 := by
    decide +kernel
  cases ran : Pipeline.run Pattern.compile (ofFilter (some firstQuarter) 0 false).stages orders with
  | error fault =>
      rw [ran] at answer
      exact absurd answer.symm (Option.some_ne_none _)
  | ok kept =>
      rw [ran] at answer
      have keeps := ofFilter_keeps Pattern.compile firstQuarter _ rfl (by decide) 0 (by decide) false
        orders kept (by decide) (by decide) ran
      exact ⟨_, kept, rfl, rfl, keeps, Option.some.inj answer⟩

/-- The value that is stored under the name of a date field. -/
def storedAt (doc : Document) (base : String) : Value := (doc.get? base).getD .null

/-- Whether filtering keeps the documents that satisfy a filter whose date fields are always stored
values. -/
def KeepsStored (patterns : PatternCompiler) (value : Value) (offset : Int) (ignoreCase : Bool)
    (docs : List Document) : Prop :=
  ∀ filter kept, Filter.read? value = some filter → filter.compiles = true →
    -(2 ^ 31) ≤ offset ∧ offset < 2 ^ 31 → (∀ doc ∈ docs, Document.Plain doc) →
    (∀ field ∈ filter.fields, ¬ Path.Reserved field) →
    Pipeline.run patterns (ofFilter (some value) offset ignoreCase).stages docs = .ok kept →
    kept = docs.filter (filter.means ⟨patterns, ignoreCase, offset, storedAt⟩)

/-- A row that is spelled like a date. -/
def epochRow : Document := [("$date", .int 0)]

def epochYear : Value := .array [.string "$CURRENT.year", .string "=", .int 1970]

/-- The name of the whole document stands for a date field too, which is not a stored one. -/
theorem keepsStored_fails : ¬ KeepsStored Pattern.compile epochYear 0 true [epochRow] := by
  intro keeps
  have answer : (Pipeline.run Pattern.compile (ofFilter (some epochYear) 0 true).stages
      [epochRow]).toOption.map List.length = some 1 := by
    decide +kernel
  cases ran : Pipeline.run Pattern.compile (ofFilter (some epochYear) 0 true).stages [epochRow] with
  | error fault =>
      rw [ran] at answer
      exact absurd answer.symm (Option.some_ne_none _)
  | ok kept =>
      rw [ran] at answer
      have none := keeps (.compare "$CURRENT.year" .eq (.int 1970)) kept rfl rfl (by decide) (by decide)
        (by decide) ran
      have excluded : [epochRow].filter (Filter.means ⟨Pattern.compile, true, 0, storedAt⟩ ·
          (.compare "$CURRENT.year" .eq (.int 1970))) = [] := by
        decide +kernel
      rw [excluded] at none
      rw [none] at answer
      contradiction

end Filtering

end DataGrid
