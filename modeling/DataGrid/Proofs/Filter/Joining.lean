import DataGrid.Proofs.Filter.Filtering
/-!
Conditions joined by a connective. What a condition says of a document depends on the fields that it
refers to, so it says the same where the date parts of other conditions have been computed beside its
own. A joined condition decides every row that its parts decide, and as they do.
-/
namespace DataGrid

open Result

namespace Connective

/-- The verdict of a connective on the verdicts of its operands. -/
def settle : Connective → List Bool → Bool
  | .and, verdicts => verdicts.all id
  | .or, verdicts => verdicts.any id

end Connective

namespace Predicate

variable (patterns : PatternCompiler)

theorem holds_entry (doc other : Value) (name : String) (condition : Document)
    (same : doc.get? name = other.get? name) :
    holds patterns doc [(name, .object condition)] =
      holds patterns other [(name, .object condition)] := by
  unfold holds
  split
  · rfl
  · rfl
  · rfl
  · rw [same]
    rfl

variable (doc : Value) (connective : Connective) (conditions : List Condition)

theorem itemsHold_settle (said : Condition → Bool)
    (each : ∀ condition ∈ conditions, holds patterns doc condition.predicate = .ok (said condition)) :
    itemsHold patterns doc connective (conditions.map fun condition => .object condition.predicate) =
      .ok (connective.settle (conditions.map said)) := by
  induction conditions with
  | nil => cases connective <;> rfl
  | cons condition rest ih =>
      have first := each condition (by simp)
      have later := ih fun other member => each other (List.mem_cons_of_mem condition member)
      rw [List.map_cons, List.map_cons]
      cases connective with
      | and =>
          refine (bind_ok _ _ _).mpr ⟨_, first, ?_⟩
          cases said condition with
          | true => exact later
          | false => rfl
      | or =>
          refine (bind_ok _ _ _).mpr ⟨_, first, ?_⟩
          cases said condition with
          | true => rfl
          | false => exact later

theorem itemsHold_same (other : Value)
    (each : ∀ condition ∈ conditions,
      holds patterns doc condition.predicate = holds patterns other condition.predicate) :
    itemsHold patterns doc connective (conditions.map fun condition => .object condition.predicate) =
      itemsHold patterns other connective
        (conditions.map fun condition => .object condition.predicate) := by
  induction conditions with
  | nil => cases connective <;> rfl
  | cons condition rest ih =>
      have first := each condition (by simp)
      have later := ih fun next member => each next (List.mem_cons_of_mem condition member)
      rw [List.map_cons]
      cases connective with
      | and =>
          change allItemsHold _ _ _ = allItemsHold _ _ _ at later ⊢
          rw [allItemsHold, first, later, ← allItemsHold]
      | or =>
          change anyItemHolds _ _ _ = anyItemHolds _ _ _ at later ⊢
          rw [anyItemHolds, first, later, ← anyItemHolds]

theorem holds_joined :
    holds patterns doc [(Condition.operator connective,
        .array (conditions.map fun condition => .object condition.predicate))] =
      itemsHold patterns doc connective
        (conditions.map fun condition => .object condition.predicate) := by
  have logical := holds_logical patterns doc connective (conditions.map Condition.predicate)
  rwa [List.map_map] at logical

end Predicate

namespace Condition

variable (patterns : PatternCompiler)

/-- Documents in which a match finds the same values for these fields. -/
def Agree (fields : List String) (doc other : Value) : Prop :=
  ∀ field ∈ fields, doc.get? (DatePart.matchName field) = other.get? (DatePart.matchName field)

/-- A condition whose predicate depends on the fields of the condition only. -/
def Local (condition : Condition) : Prop :=
  ∀ doc other, Agree condition.fields doc other →
    Predicate.holds patterns doc condition.predicate =
      Predicate.holds patterns other condition.predicate

theorem local_onField (field : String) (operators : Document) :
    Local patterns (onField field (.object operators)) := fun doc other agree =>
  Predicate.holds_entry patterns doc other _ operators (agree field (List.mem_singleton_self field))

theorem local_joined (connective : Connective) (conditions : List Condition) (joined : Condition)
    (each : ∀ condition ∈ conditions, Local patterns condition)
    (known : joined? connective conditions = some joined) : Local patterns joined := by
  unfold joined? at known
  split at known
  · contradiction
  · rw [← Option.some.inj known]
    intro doc other agree
    rw [Predicate.holds_joined, Predicate.holds_joined]
    refine Predicate.itemsHold_same patterns doc connective conditions other fun condition member => ?_
    exact each condition member doc other fun field inside =>
      agree field (List.mem_flatMap.mpr ⟨condition, member, inside⟩)

variable (ignoreCase : Bool)

mutual

/-- What filters are compiled to looks at the fields that it lists. -/
theorem local_ofFilter : ∀ (filter : Filter) (condition : Condition),
    ofFilter? ignoreCase filter = some condition → Local patterns condition
  | .truth field, condition, compiled => by
      rw [ofFilter?] at compiled
      rw [← Option.some.inj compiled]
      exact local_onField patterns field _
  | .not inner, condition, compiled => by
      rw [ofFilter?] at compiled
      obtain ⟨one, known, rfl⟩ := Option.map_eq_some_iff.mp compiled
      intro doc other agree
      rw [Predicate.holds_nor, Predicate.holds_nor, local_ofFilter inner one known doc other agree]
  | .compare field comparison operand, condition, compiled => by
      rw [ofFilter?] at compiled
      obtain ⟨test, known, rfl⟩ := Option.map_eq_some_iff.mp compiled
      obtain ⟨operators, rfl⟩ := test_object comparison operand test _ known
      exact local_onField patterns field operators
  | .chain connective operands, condition, compiled => by
      rw [ofFilter?] at compiled
      exact local_joined patterns connective _ condition (local_ofFilters operands) compiled

theorem local_ofFilters : ∀ (filters : List Filter),
    ∀ condition ∈ ofFilters ignoreCase filters, Local patterns condition
  | [], condition, member => by simp [ofFilters] at member
  | filter :: rest, condition, member => by
      rw [ofFilters] at member
      cases compiled : ofFilter? ignoreCase filter with
      | none =>
          rw [compiled] at member
          exact local_ofFilters rest condition member
      | some first =>
          rw [compiled] at member
          rcases List.mem_cons.mp member with rfl | later
          · exact local_ofFilter filter condition compiled
          · exact local_ofFilters rest condition later

end

end Condition

namespace Filtering

section Within

variable (offset : Int) (condition whole : Condition) (row : Document) (plain : row.Plain)
include plain

/-- Date parts have the same values in every row that they are computed into. -/
theorem agree_within (own doc : Document) (within : condition.fields ⊆ whole.fields)
    (stored : ∀ field ∈ condition.fields, ¬ Path.Reserved field)
    (alone : (DateParts.ofFields offset condition.fields).extend row = .ok own)
    (together : (DateParts.ofFields offset whole.fields).extend row = .ok doc) :
    Condition.Agree condition.fields (.object own) (.object doc) := by
  intro field member
  cases found : DatePart.ofName? field with
  | some part =>
      obtain ⟨value, first, known⟩ :=
        get?_part condition offset row own alone field member part found
      obtain ⟨other, second, again⟩ :=
        get?_part whole offset row doc together field (within member) part found
      rw [first, second, Except.ok.inj (known.symm.trans again)]
  | none =>
      rw [get?_stored condition offset row own plain alone field (stored field member) found,
        get?_stored whole offset row doc plain together field (stored field member) found]

omit plain in
/-- A row can be extended by the parts of several conditions if it can by those of each. -/
theorem extend_joined (covered : ∀ field ∈ whole.fields, ∃ condition : Condition,
      field ∈ condition.fields ∧
        ∃ own, (DateParts.ofFields offset condition.fields).extend row = .ok own) :
    ∃ doc, (DateParts.ofFields offset whole.fields).extend row = .ok doc := by
  refine DateParts.extend_total (computes_listed whole offset) (listed_proper whole) row ?_
  intro part inListed
  obtain ⟨field, member, found⟩ := List.mem_filterMap.mp inListed
  obtain ⟨condition, inside, own, alone⟩ := covered field member
  obtain ⟨value, _, known⟩ := get?_part condition offset row own alone field inside part found
  exact ⟨value, known⟩

end Within

variable (patterns : PatternCompiler) (offset : Int)

/-- What a filter says of a row; one that does not compile holds of every row. -/
def judge (condition : Option Condition) (row : Document) : StoreResult Bool :=
  match condition with
  | some condition => verdict patterns offset condition row
  | Option.none => .ok true

theorem run_ofFilter (value : Option Value) (ignoreCase : Bool) (docs kept : List Document)
    (plain : ∀ doc ∈ docs, Document.Plain doc) :
    Pipeline.run patterns (ofFilter value offset ignoreCase).stages docs = .ok kept ↔
      (∀ doc ∈ docs, ∃ said,
        judge patterns offset (value.bind (Condition.ofValue? ignoreCase)) doc = .ok said) ∧
      kept = docs.filter fun doc => decide
        (judge patterns offset (value.bind (Condition.ofValue? ignoreCase)) doc = .ok true) := by
  unfold ofFilter
  cases value.bind (Condition.ofValue? ignoreCase) with
  | some condition => exact run_condition condition patterns offset docs kept plain
  | none =>
      constructor
      · intro ran
        refine ⟨fun doc _ => ⟨true, rfl⟩, ?_⟩
        simp only [judge, decide_true, List.filter_true]
        exact (Except.ok.inj ran).symm
      · rintro ⟨_, rfl⟩
        simp only [judge, decide_true, List.filter_true]
        rfl

/-- A joined condition decides the rows that its parts decide, and by their verdicts. -/
theorem verdict_joined (connective : Connective) (conditions : List Condition) (joined : Condition)
    (row : Document) (plain : row.Plain)
    (each : ∀ condition ∈ conditions, Condition.Local patterns condition ∧
      (∀ field ∈ condition.fields, ¬ Path.Reserved field) ∧
      ∃ said, verdict patterns offset condition row = .ok said)
    (known : Condition.joined? connective conditions = some joined) :
    verdict patterns offset joined row = .ok (connective.settle (conditions.map fun condition =>
      decide (verdict patterns offset condition row = .ok true))) := by
  unfold Condition.joined? at known
  split at known
  · contradiction
  obtain rfl := Option.some.inj known
  have within (condition : Condition) (member : condition ∈ conditions) :
      condition.fields ⊆ conditions.flatMap Condition.fields := fun field inside =>
    List.mem_flatMap.mpr ⟨condition, member, inside⟩
  -- every operand is asked in one row, which has the parts of all of them
  obtain ⟨doc, together⟩ := extend_joined offset
    ⟨[(Condition.operator connective,
      .array (conditions.map fun condition => .object condition.predicate))],
      conditions.flatMap Condition.fields⟩ row fun field member => by
    obtain ⟨condition, inConditions, inside⟩ := List.mem_flatMap.mp member
    obtain ⟨_, _, said, known⟩ := each condition inConditions
    obtain ⟨own, alone, _⟩ := (bind_ok _ _ _).mp known
    exact ⟨condition, inside, own, alone⟩
  rw [verdict_extended _ patterns offset row doc together, Predicate.holds_joined]
  refine Predicate.itemsHold_settle patterns (.object doc) connective conditions _ ?_
  intro condition member
  obtain ⟨isLocal, stored, said, known⟩ := each condition member
  obtain ⟨own, alone, held⟩ := (bind_ok _ _ _).mp known
  have agree := agree_within offset condition _ row plain own doc (within condition member) stored
    alone together
  rw [← isLocal _ _ agree, held, known]
  cases said <;> rfl

/-- No operand at all is no constraint. -/
theorem judge_joined (connective : Connective) (conditions : List Condition) (row : Document)
    (plain : row.Plain)
    (each : ∀ condition ∈ conditions, Condition.Local patterns condition ∧
      (∀ field ∈ condition.fields, ¬ Path.Reserved field) ∧
      ∃ said, verdict patterns offset condition row = .ok said) :
    judge patterns offset (Condition.joined? connective conditions) row =
      .ok (conditions.isEmpty || connective.settle (conditions.map fun condition =>
        decide (verdict patterns offset condition row = .ok true))) := by
  cases known : Condition.joined? connective conditions with
  | some joined =>
      have filled : conditions.isEmpty = false := by
        cases conditions with
        | nil => contradiction
        | cons => rfl
      rw [filled, Bool.false_or]
      exact verdict_joined patterns offset connective conditions joined row plain each known
  | none =>
      cases conditions with
      | nil => rfl
      | cons => contradiction

end Filtering

end DataGrid
