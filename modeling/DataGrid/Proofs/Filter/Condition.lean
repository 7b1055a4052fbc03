import DataGrid.Proofs.Filter.Meaning
import DataGrid.Proofs.Store.Predicate
/-!
Verdicts of compiled filters. Where the predicate of a filter has a verdict on a document, it is what
the filter says, as long as the fields that it looks at hold what the fields of the filter stand for.
An operator that stops early stops where the rest does not matter any more.
-/
namespace DataGrid

open Result

namespace Value

theorem alike_equal {a b : Value} (alike : Alike a b) (other : Value) :
    a.equal other = b.equal other := by
  rcases alike with rfl | ⟨number, rfl, rfl⟩
  · rfl
  · cases other <;> rfl

/-- Values that comparisons do not tell apart, or no value on both sides. -/
def AlikeIn (actual seen : Option Value) : Prop := Option.Rel Alike actual seen

variable {actual seen : Option Value} (alike : AlikeIn actual seen)
include alike

theorem alike_getD : Alike (actual.getD .null) (seen.getD .null) := by
  cases alike with
  | none => exact Or.inl rfl
  | some both => exact both

theorem alike_inOrder (operand : Value) (test : Ordering → Bool) :
    Predicate.inOrder actual operand test = Predicate.inOrder seen operand test := by
  cases alike with
  | none => rfl
  | some both =>
      rcases both with rfl | ⟨number, rfl, rfl⟩
      · rfl
      · cases operand <;> rfl

end Value

namespace Predicate

variable (patterns : PatternCompiler)

theorem single_operators (name : String) (operand : Value) (known : FieldTest.ofName? name ≠ none) :
    isOperatorObject [(name, operand)] = true := by
  have date : name ≠ "$date" := by
    rintro rfl
    exact known (by decide)
  have oid : name ≠ "$oid" := by
    rintro rfl
    exact known (by decide)
  have dollar : Text.startsWithDollar name = true := by
    unfold FieldTest.ofName? at known
    split at known
    · decide
    · decide
    · decide
    · decide
    · decide
    · decide
    · decide
    · decide
    · contradiction
  simp [isOperatorObject, Expression.not_native name operand date oid, dollar]

theorem fieldHolds_single (actual : Option Value) (name : String) (operand : Value)
    (known : FieldTest.ofName? name ≠ none) :
    fieldHolds patterns actual (.single name operand) =
      testHolds patterns actual (optionsOf [(name, operand)]) name operand := by
  rw [Value.single, fieldHolds, if_pos (single_operators name operand known)]
  simp only [testsHold]
  cases testHolds patterns actual (optionsOf [(name, operand)]) name operand with
  | error fault => rfl
  | ok verdict => cases verdict <;> rfl

theorem fieldHolds_pattern (actual : Option Value) (pattern : String) (ignoreCase : Bool) :
    fieldHolds patterns actual (Condition.patternTest pattern ignoreCase) =
      matchesPattern patterns (actual.getD .null) (.string pattern)
        (if ignoreCase then "i" else "") := by
  have operators : isOperatorObject [("$regex", .string pattern),
      ("$options", .string (if ignoreCase then "i" else ""))] = true := by
    have dollars : Text.startsWithDollar "$regex" = true ∧ Text.startsWithDollar "$options" = true := by
      decide
    simp [isOperatorObject, Value.isNative, Value.dateMillis?, Value.oidHex?, Value.wrapped?, dollars]
  have options : optionsOf [("$regex", .string pattern),
      ("$options", .string (if ignoreCase then "i" else ""))] = if ignoreCase then "i" else "" := rfl
  rw [Condition.patternTest, fieldHolds, if_pos operators, options]
  simp only [testsHold, testHolds, FieldTest.ofName?]
  cases matchesPattern patterns (actual.getD .null) (.string pattern)
      (if ignoreCase then "i" else "") with
  | error fault => rfl
  | ok verdict => cases verdict <;> rfl

/-- A condition that stands under a logical operator, or under an unknown one, has no verdict. -/
theorem holds_dollar (doc : Value) (name : String) (condition : Document) (verdict : Bool)
    (dollar : Text.startsWithDollar name = true) :
    holds patterns doc [(name, .object condition)] ≠ .ok verdict := by
  intro held
  unfold holds at held
  split at held
  · contradiction
  · contradiction
  · contradiction
  · rw [if_pos dollar] at held
    contradiction

theorem holds_onField (doc : Value) (name : String) (condition : Document) (verdict : Bool)
    (held : holds patterns doc [(name, .object condition)] = .ok verdict) :
    fieldHolds patterns (doc.get? name) (.object condition) = .ok verdict := by
  cases plain : Text.startsWithDollar name with
  | true => exact absurd held (holds_dollar patterns doc name condition verdict plain)
  | false => rwa [holds_field patterns doc _ name plain] at held

/-- Whether the operands of a connective hold. -/
def itemsHold (doc : Value) : Connective → List Value → StoreResult Bool
  | .and, items => allItemsHold patterns doc items
  | .or, items => anyItemHolds patterns doc items

/-- The verdict of an operand that settles the connective. -/
def settling : Connective → Bool
  | .and => false
  | .or => true

/-- A connective stops at the first operand that settles it. -/
theorem itemsHold_cons (doc : Value) (connective : Connective) (predicate : Document)
    (items : List Value) (verdict : Bool)
    (held : itemsHold patterns doc connective (.object predicate :: items) = .ok verdict) :
    ∃ one, holds patterns doc predicate = .ok one ∧
      (one = settling connective ∧ verdict = settling connective ∨
        one ≠ settling connective ∧ itemsHold patterns doc connective items = .ok verdict) := by
  cases connective with
  | and =>
      obtain ⟨one, first, later⟩ := (bind_ok _ _ _).mp held
      cases one with
      | false => exact ⟨false, first, Or.inl ⟨rfl, (Except.ok.inj later).symm⟩⟩
      | true => exact ⟨true, first, Or.inr ⟨Bool.noConfusion, later⟩⟩
  | or =>
      obtain ⟨one, first, later⟩ := (bind_ok _ _ _).mp held
      cases one with
      | true => exact ⟨true, first, Or.inl ⟨rfl, (Except.ok.inj later).symm⟩⟩
      | false => exact ⟨false, first, Or.inr ⟨Bool.noConfusion, later⟩⟩

theorem holds_logical (doc : Value) (connective : Connective) (predicates : List Document) :
    holds patterns doc [(Condition.operator connective, .array (predicates.map .object))] =
      itemsHold patterns doc connective (predicates.map .object) := by
  -- all operands are checked before any is tested, and here they are predicates
  have documents : checkOperands (.array (predicates.map .object)) = .ok () := by
    have all : (predicates.map Value.object).find? (fun item => !isDocument item) = none := by
      rw [List.find?_eq_none]
      intro item member
      obtain ⟨predicate, _, rfl⟩ := List.mem_map.mp member
      simp [isDocument]
    rw [checkOperands, all]
    rfl
  cases connective with
  | and =>
      simp only [Condition.operator, holds, documents, allHold, itemsHold]
      cases allItemsHold patterns doc (predicates.map .object) with
      | error fault => rfl
      | ok verdict => cases verdict <;> rfl
  | or =>
      simp only [Condition.operator, holds, documents, anyHolds, itemsHold]
      cases anyItemHolds patterns doc (predicates.map .object) with
      | error fault => rfl
      | ok verdict => cases verdict <;> rfl

theorem holds_nor (doc : Value) (predicate : Document) :
    holds patterns doc [("$nor", .array [.object predicate])] =
      (holds patterns doc predicate).map not := by
  have documents : checkOperands (.array [.object predicate]) = .ok () := rfl
  simp only [holds, documents, anyHolds, anyItemHolds]
  cases holds patterns doc predicate with
  | error fault => rfl
  | ok verdict => cases verdict <;> rfl

end Predicate

theorem Condition.test_object (comparison : Comparison) (operand test : Value) (ignoreCase : Bool)
    (compiled : Condition.test? comparison operand ignoreCase = some test) :
    ∃ operators, test = .object operators := by
  cases comparison with
  | equalsId =>
      obtain ⟨id, _, rfl⟩ := Option.map_eq_some_iff.mp compiled
      exact ⟨_, rfl⟩
  | _ => exact ⟨_, (Option.some.inj compiled).symm⟩

namespace Reading

variable (reading : Reading)

theorem accepts_of_compiles (pattern text : String) (test : String → Bool)
    (compiled : Predicate.compilePattern reading.patterns pattern reading.ignoreCase = .ok test) :
    test text = reading.accepts pattern text := by
  unfold Predicate.compilePattern at compiled
  unfold accepts
  cases known : reading.patterns pattern reading.ignoreCase with
  | ok other =>
      rw [known] at compiled
      rw [Except.ok.inj compiled]
  | error reason =>
      rw [known] at compiled
      contradiction

theorem finds_of_matches (value : Value) (pattern : String) (verdict : Bool)
    (matched : Predicate.matchesPattern reading.patterns value (.string pattern)
      (if reading.ignoreCase then "i" else "") = .ok verdict) :
    verdict = reading.finds pattern value := by
  have options : (if reading.ignoreCase then "i" else "").toList.contains 'i' = reading.ignoreCase := by
    cases reading.ignoreCase <;> decide
  cases value with
  | string text =>
      simp only [Predicate.matchesPattern, options] at matched
      unfold finds
      cases absence : Predicate.absenceOf? pattern with
      | some inner =>
          rw [absence] at matched
          obtain ⟨test, compiled, same⟩ := (bind_ok _ _ _).mp matched
          rw [← Except.ok.inj same, reading.accepts_of_compiles inner text test compiled]
      | none =>
          rw [absence] at matched
          obtain ⟨test, compiled, same⟩ := (bind_ok _ _ _).mp matched
          rw [← Except.ok.inj same, reading.accepts_of_compiles pattern text test compiled]
  | _ => exact (Except.ok.inj matched).symm

theorem finds_absence (pattern : String) (value : Value) :
    reading.finds ("^((?!" ++ pattern ++ ").)*$") value = reading.lacks pattern value := by
  have absence := Predicate.absenceOf?_absence pattern
  rw [Predicate.absence] at absence
  cases value with
  | string text => simp only [finds, absence, lacks]
  | _ => rfl

theorem finds_alike (pattern : String) {a b : Value} (alike : Value.Alike a b) :
    reading.finds pattern a = reading.finds pattern b := by
  rcases alike with rfl | ⟨number, rfl, rfl⟩
  · rfl
  · rfl

section Tests

variable (operand : Value) (actual seen : Option Value) (verdict : Bool)
  (alike : Value.AlikeIn actual seen)
include alike

theorem equal_of_test (name : String) (field : FieldTest) (test : Bool → Bool)
    (known : FieldTest.ofName? name = some field)
    (tested : Predicate.testHolds reading.patterns actual (Predicate.optionsOf [(name, operand)]) name
      operand = .ok (test ((actual.getD .null).equal operand)))
    (held : Predicate.fieldHolds reading.patterns actual (.single name operand) = .ok verdict) :
    verdict = test ((seen.getD .null).equal operand) := by
  rw [Predicate.fieldHolds_single _ _ _ _ (by simp [known]), tested,
    Value.alike_equal (Value.alike_getD alike)] at held
  exact (Except.ok.inj held).symm

theorem inOrder_of_test (name : String) (field : FieldTest) (test : Ordering → Bool)
    (known : FieldTest.ofName? name = some field)
    (tested : Predicate.testHolds reading.patterns actual (Predicate.optionsOf [(name, operand)]) name
      operand = .ok (Predicate.inOrder actual operand test))
    (held : Predicate.fieldHolds reading.patterns actual (.single name operand) = .ok verdict) :
    verdict = Predicate.inOrder seen operand test := by
  rw [Predicate.fieldHolds_single _ _ _ _ (by simp [known]), tested, Value.alike_inOrder alike] at held
  exact (Except.ok.inj held).symm

theorem finds_of_test (pattern : String)
    (held : Predicate.fieldHolds reading.patterns actual
      (Condition.patternTest pattern reading.ignoreCase) = .ok verdict) :
    verdict = reading.finds pattern (seen.getD .null) := by
  rw [Predicate.fieldHolds_pattern] at held
  rw [reading.finds_of_matches _ pattern verdict held,
    reading.finds_alike pattern (Value.alike_getD alike)]

theorem compares_of_test (comparison : Comparison) (test : Value)
    (compiled : Condition.test? comparison operand reading.ignoreCase = some test)
    (held : Predicate.fieldHolds reading.patterns actual test = .ok verdict) :
    verdict = reading.compares comparison operand seen := by
  cases comparison with
  | eq =>
      rw [← Option.some.inj compiled] at held
      exact reading.equal_of_test operand actual seen verdict alike "$eq" .eq id rfl rfl held
  | ne =>
      rw [← Option.some.inj compiled] at held
      exact reading.equal_of_test operand actual seen verdict alike "$ne" .ne not rfl rfl held
  | gt =>
      rw [← Option.some.inj compiled] at held
      exact reading.inOrder_of_test operand actual seen verdict alike "$gt" .gt _ rfl rfl held
  | gte =>
      rw [← Option.some.inj compiled] at held
      exact reading.inOrder_of_test operand actual seen verdict alike "$gte" .gte _ rfl rfl held
  | lt =>
      rw [← Option.some.inj compiled] at held
      exact reading.inOrder_of_test operand actual seen verdict alike "$lt" .lt _ rfl rfl held
  | lte =>
      rw [← Option.some.inj compiled] at held
      exact reading.inOrder_of_test operand actual seen verdict alike "$lte" .lte _ rfl rfl held
  | startsWith =>
      rw [← Option.some.inj compiled] at held
      exact reading.finds_of_test actual seen verdict alike _ held
  | endsWith =>
      rw [← Option.some.inj compiled] at held
      exact reading.finds_of_test actual seen verdict alike _ held
  | contains =>
      rw [← Option.some.inj compiled] at held
      exact reading.finds_of_test actual seen verdict alike _ held
  | notContains =>
      rw [← Option.some.inj compiled] at held
      rw [reading.finds_of_test actual seen verdict alike _ held, reading.finds_absence]
      rfl
  | equalsId =>
      obtain ⟨objectId, known, rfl⟩ := Option.map_eq_some_iff.mp compiled
      rw [reading.equal_of_test objectId actual seen verdict alike "$eq" .eq id rfl rfl held]
      simp only [compares, known, Option.any_some, id]

end Tests

end Reading

namespace Filter

variable (ignoreCase : Bool)

mutual

theorem isSome_ofFilter : ∀ filter : Filter,
    (Condition.ofFilter? ignoreCase filter).isSome = compiles filter
  | .truth field => rfl
  | .not inner => by
      rw [Condition.ofFilter?, Option.isSome_map, isSome_ofFilter inner, compiles]
  | .compare field comparison operand => by
      cases comparison <;> simp [Condition.ofFilter?, Condition.test?, compiles]
  | .chain connective operands => by
      rw [Condition.ofFilter?, compiles, ← isEmpty_ofFilters operands, Condition.joined?]
      cases Condition.ofFilters ignoreCase operands <;> rfl

theorem isEmpty_ofFilters : ∀ filters : List Filter,
    (!(Condition.ofFilters ignoreCase filters).isEmpty) = anyCompiles filters
  | [] => rfl
  | filter :: rest => by
      rw [Condition.ofFilters, anyCompiles, ← isSome_ofFilter filter, ← isEmpty_ofFilters rest]
      cases Condition.ofFilter? ignoreCase filter <;> rfl

end

mutual

theorem fields_subset : ∀ (filter : Filter) (condition : Condition),
    Condition.ofFilter? ignoreCase filter = some condition →
      ∀ field ∈ condition.fields, field ∈ fields filter
  | .truth name, condition, compiled, field, member => by
      rw [Condition.ofFilter?] at compiled
      rw [← Option.some.inj compiled] at member
      exact member
  | .not inner, condition, compiled, field, member => by
      rw [Condition.ofFilter?] at compiled
      obtain ⟨one, known, rfl⟩ := Option.map_eq_some_iff.mp compiled
      exact fields_subset inner one known field member
  | .compare name comparison operand, condition, compiled, field, member => by
      rw [Condition.ofFilter?] at compiled
      obtain ⟨test, known, rfl⟩ := Option.map_eq_some_iff.mp compiled
      exact member
  | .chain connective operands, condition, compiled, field, member => by
      rw [Condition.ofFilter?, Condition.joined?] at compiled
      split at compiled
      · contradiction
      · rw [← Option.some.inj compiled] at member
        exact fieldsOf_subset operands field member

theorem fieldsOf_subset : ∀ (filters : List Filter),
    ∀ field ∈ (Condition.ofFilters ignoreCase filters).flatMap Condition.fields,
      field ∈ fieldsOf filters
  | [], field, member => by simp [Condition.ofFilters] at member
  | filter :: rest, field, member => by
      rw [Condition.ofFilters] at member
      rw [fieldsOf, List.mem_append]
      cases compiled : Condition.ofFilter? ignoreCase filter with
      | none =>
          rw [compiled] at member
          exact Or.inr (fieldsOf_subset rest field member)
      | some condition =>
          rw [compiled] at member
          dsimp only at member
          rw [List.flatMap_cons, List.mem_append] at member
          rcases member with first | later
          · exact Or.inl (fields_subset filter condition compiled field first)
          · exact Or.inr (fieldsOf_subset rest field later)

end

section Verdicts

variable (reading : Reading) (doc out : Document)

/-- The fields that a predicate looks at hold what these fields of a filter stand for. -/
def Sees (fields : List String) : Prop :=
  ∀ field ∈ fields, Value.AlikeIn ((Value.object out).get? (DatePart.matchName field))
    (reading.subject doc field)

/-- Predicates of the operands of a chain that compile. -/
def predicates (filters : List Filter) : List Document :=
  (Condition.ofFilters reading.ignoreCase filters).map Condition.predicate

/-- An operand that does not compile is left out of its chain; any other may settle it. -/
theorem means_chain_cons (connective : Connective) (filter : Filter) (rest : List Filter) :
    means reading doc (.chain connective (filter :: rest)) =
      if compiles filter = true ∧ means reading doc filter = Predicate.settling connective then
        Predicate.settling connective
      else means reading doc (.chain connective rest) := by
  cases connective with
  | and => cases said : compiles filter <;> simp [means, allMean, Predicate.settling, said]
  | or => cases said : compiles filter <;> simp [means, anyMeans, Predicate.settling, said]

mutual

/-- The verdict of a compiled filter is what the filter says. -/
theorem verdict_means : ∀ (filter : Filter) (condition : Condition) (verdict : Bool),
    Condition.ofFilter? reading.ignoreCase filter = some condition →
    Sees reading doc out condition.fields →
    Predicate.holds reading.patterns (.object out) condition.predicate = .ok verdict →
      verdict = means reading doc filter
  | .truth field, condition, verdict, compiled, sees, held => by
      rw [Condition.ofFilter?] at compiled
      obtain rfl := Option.some.inj compiled
      have tested := Predicate.holds_onField reading.patterns _ _ _ _ held
      have alike := sees field (List.mem_singleton_self field)
      rw [reading.compares_of_test _ _ _ verdict alike .eq _ rfl tested, means]
      rfl
  | .not inner, condition, verdict, compiled, sees, held => by
      rw [Condition.ofFilter?] at compiled
      obtain ⟨one, known, rfl⟩ := Option.map_eq_some_iff.mp compiled
      rw [Predicate.holds_nor] at held
      obtain ⟨positive, first, rfl⟩ := (map_ok _ _ _).mp held
      rw [verdict_means inner one positive known sees first, means]
  | .compare field comparison operand, condition, verdict, compiled, sees, held => by
      rw [Condition.ofFilter?] at compiled
      obtain ⟨test, known, rfl⟩ := Option.map_eq_some_iff.mp compiled
      obtain ⟨operators, rfl⟩ := Condition.test_object comparison operand test _ known
      have tested := Predicate.holds_onField reading.patterns _ _ _ _ held
      have alike := sees field (List.mem_singleton_self field)
      rw [reading.compares_of_test _ _ _ verdict alike comparison _ known tested, means]
  | .chain connective operands, condition, verdict, compiled, sees, held => by
      rw [Condition.ofFilter?, Condition.joined?] at compiled
      split at compiled
      · contradiction
      · obtain rfl := Option.some.inj compiled
        -- the operands that do not compile are gone from both sides
        have spelled : (Condition.ofFilters reading.ignoreCase operands).map
            (fun condition => Value.object condition.predicate) =
              (predicates reading operands).map .object := by
          rw [predicates, List.map_map]
          rfl
        dsimp only at held
        rw [spelled, Predicate.holds_logical] at held
        exact verdicts_mean connective operands verdict sees held

theorem verdicts_mean : ∀ (connective : Connective) (filters : List Filter) (verdict : Bool),
    Sees reading doc out ((Condition.ofFilters reading.ignoreCase filters).flatMap Condition.fields) →
    Predicate.itemsHold reading.patterns (.object out) connective
      ((predicates reading filters).map .object) = .ok verdict →
      verdict = means reading doc (.chain connective filters)
  | .and, [], verdict, sees, held => (Except.ok.inj held).symm
  | .or, [], verdict, sees, held => (Except.ok.inj held).symm
  | connective, filter :: rest, verdict, sees, held => by
      rw [means_chain_cons, ← isSome_ofFilter reading.ignoreCase filter]
      unfold predicates at held
      rw [Condition.ofFilters] at held sees
      cases compiled : Condition.ofFilter? reading.ignoreCase filter with
      -- an operand that does not compile has no predicate among those of its chain
      | none =>
          rw [compiled] at held sees
          rw [if_neg (by simp)]
          exact verdicts_mean connective rest verdict sees held
      | some condition =>
          rw [compiled] at held sees
          dsimp only at sees
          rw [List.flatMap_cons] at sees
          obtain ⟨one, first, later⟩ := Predicate.itemsHold_cons _ _ _ _ _ verdict held
          rw [← verdict_means filter condition one compiled
            (fun field member => sees field (List.mem_append_left _ member)) first]
          rcases later with ⟨settled, rfl⟩ | ⟨goesOn, others⟩
          · rw [if_pos ⟨rfl, settled⟩]
          · rw [if_neg fun both => goesOn both.2]
            exact verdicts_mean connective rest verdict
              (fun field member => sees field (List.mem_append_right _ member)) others

end

end Verdicts

end Filter

end DataGrid
