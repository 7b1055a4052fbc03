import DataGrid.Proofs.Store.Expression
import DataGrid.Proofs.Store.Result
import DataGrid.Store.Predicate
/-!
Predicates over one document. A predicate on one field tests the value of that field; a condition
that is not spelled with operators asks for a value equal to itself and always has an answer.
-/
namespace DataGrid.Predicate

open Result

variable (patterns : PatternCompiler)

/-- Conditions that are read as operators, although they may have been meant as values. -/
def isOperators : Value → Bool
  | .object fields => isOperatorObject fields
  | _ => false

theorem startsWithDollar_of_reserved (name : String) (reserved : Path.Reserved name) :
    Text.startsWithDollar name = false := by
  obtain ⟨rest, split⟩ := reserved
  have list : name.toList = '_' :: '_' :: '_' :: rest := split.symm
  simp [Text.startsWithDollar, Text.afterDollar?, list]

theorem holds_field (doc condition : Value) (name : String)
    (plain : Text.startsWithDollar name = false) :
    holds patterns doc [(name, condition)] = fieldHolds patterns (doc.get? name) condition := by
  have notAnd : name ≠ "$and" := by
    rintro rfl
    exact absurd plain (by decide)
  have notOr : name ≠ "$or" := by
    rintro rfl
    exact absurd plain (by decide)
  have notNor : name ≠ "$nor" := by
    rintro rfl
    exact absurd plain (by decide)
  simp only [holds, plain, Bool.false_eq_true, if_false]
  cases fieldHolds patterns (doc.get? name) condition with
  | error fault => rfl
  | ok verdict => cases verdict <;> rfl

theorem fieldHolds_value (actual : Option Value) (condition : Value)
    (value : isOperators condition = false) :
    fieldHolds patterns actual condition = .ok ((actual.getD .null).equal condition) := by
  cases condition with
  | object fields =>
      have asValue : isOperatorObject fields = false := value
      simp only [fieldHolds, asValue, Bool.false_eq_true, if_false]
      rfl
  | _ => rfl

section Absence

/-- Patterns that are spelled like the absence of another one. -/
def IsAbsence (pattern : String) : Prop :=
  absenceStart <+: pattern.toList ∧ absenceEnd <:+ pattern.toList

instance (pattern : String) : Decidable (IsAbsence pattern) :=
  inferInstanceAs (Decidable (_ ∧ _))

/-- The pattern around another one whose absence is meant. -/
def absence (inner : String) : String := "^((?!" ++ inner ++ ").)*$"

theorem absenceOf?_absence (inner : String) : absenceOf? (absence inner) = some inner := by
  rw [absenceOf?, absence, String.toList_append, String.toList_append, List.append_assoc]
  change (Text.dropStart? absenceStart (absenceStart ++ (inner.toList ++ absenceEnd))).bind _ = _
  rw [Text.dropStart?_append, Option.bind_some, Text.dropEnd?_append, Option.map_some,
    String.ofList_toList]

theorem absenceOf?_bare (pattern : String) (bare : ¬ IsAbsence pattern) : absenceOf? pattern = none := by
  rw [absenceOf?, Option.bind_eq_none_iff]
  intro rest opened
  rw [Option.map_eq_none_iff, Option.eq_none_iff_forall_ne_some]
  intro inner closed
  have whole := Text.eq_append_of_dropStart _ _ _ opened
  refine bare ⟨⟨rest, whole.symm⟩, ?_⟩
  rw [whole, Text.eq_append_of_dropEnd _ _ _ closed, ← List.append_assoc]
  exact List.suffix_append _ _

variable (source options : String)

theorem matchesPattern_bare (text : String) (bare : absenceOf? source = none) :
    matchesPattern patterns (.string text) (.string source) options =
      (compilePattern patterns source (options.toList.contains 'i')).map fun test => test text := by
  simp only [matchesPattern, bare]
  cases compilePattern patterns source (options.toList.contains 'i') <;> rfl

theorem matchesPattern_absence (text inner : String) :
    matchesPattern patterns (.string text) (.string (absence inner)) options =
      (compilePattern patterns inner (options.toList.contains 'i')).map fun test => !test text := by
  simp only [matchesPattern, absenceOf?_absence]
  cases compilePattern patterns inner (options.toList.contains 'i') <;> rfl

theorem matchesPattern_textless (value : Value) (textless : value.string? = none) :
    matchesPattern patterns value (.string source) options = .ok false := by
  cases value with
  | string text => contradiction
  | _ => rfl

end Absence

end DataGrid.Predicate
