import DataGrid.Filter.Condition
import DataGrid.Proofs.Pipeline.LocalUnit
import DataGrid.Store.Predicate
/-!
What a filter says of a document. A comparison looks at the value stored under its field, or at the
unit of a local time where the field names one. What cannot be compiled says nothing: it is left out
of its chain, and a chain without any other operand is left out itself.
-/
namespace DataGrid

/-- What the reading of a filter depends on besides the document. -/
structure Reading where
  patterns : PatternCompiler
  ignoreCase : Bool
  /-- UTC less local time, in minutes. -/
  offset : Int
  /-- The value that the date field of a date part stands for. -/
  base : Document → String → Value

namespace Reading

variable (reading : Reading)

/-- Whether a pattern accepts a text. One that is refused accepts none. -/
def accepts (pattern text : String) : Bool :=
  match reading.patterns pattern reading.ignoreCase with
  | .ok test => test text
  | .error _ => false

/-- Whether a text has a match. A pattern of absence has one where its inner pattern has none. -/
def finds (pattern : String) : Value → Bool
  | .string text =>
      match Predicate.absenceOf? pattern with
      | some inner => !reading.accepts inner text
      | none => reading.accepts pattern text
  | _ => false

/-- Whether a text has no match. -/
def lacks (pattern : String) : Value → Bool
  | .string text => !reading.accepts pattern text
  | _ => false

/-- Comparisons of a value, which may be missing. Only a stored value stands before or behind the
operand, and only in its bracket; otherwise a missing value counts as null. -/
def compares (comparison : Comparison) (operand : Value) (actual : Option Value) : Bool :=
  let value := actual.getD .null
  let text := Condition.operandText operand
  match comparison with
  | .eq => value.equal operand
  | .ne => !value.equal operand
  | .gt => Predicate.inOrder actual operand (· == .gt)
  | .gte => Predicate.inOrder actual operand (· != .lt)
  | .lt => Predicate.inOrder actual operand (· == .lt)
  | .lte => Predicate.inOrder actual operand (· != .gt)
  | .startsWith => reading.finds ("^" ++ text) value
  | .endsWith => reading.finds (text ++ "$") value
  | .contains => reading.finds text value
  | .notContains => reading.lacks text value
  | .equalsId => (Condition.objectId? operand).any value.equal

/-- What a field of a filter stands for. -/
def subject (doc : Document) (field : String) : Option Value :=
  match DatePart.ofName? field with
  | some part => some (part.unit.readAt reading.offset (reading.base doc part.base))
  | none => (Value.object doc).get? field

end Reading

namespace Filter

mutual

/-- Whether a filter sets a condition. -/
def compiles : Filter → Bool
  | .truth _ => true
  | .not inner => compiles inner
  | .compare _ .equalsId operand => (Condition.objectId? operand).isSome
  | .compare _ _ _ => true
  | .chain _ operands => anyCompiles operands

def anyCompiles : List Filter → Bool
  | [] => false
  | operand :: rest => compiles operand || anyCompiles rest

end

mutual

/-- The fields of a filter. -/
def fields : Filter → List String
  | .truth field | .compare field _ _ => [field]
  | .not inner => fields inner
  | .chain _ operands => fieldsOf operands

def fieldsOf : List Filter → List String
  | [] => []
  | operand :: rest => fields operand ++ fieldsOf rest

end

mutual

/-- Whether a document satisfies a filter. -/
def means (reading : Reading) (doc : Document) : Filter → Bool
  | .truth field => ((reading.subject doc field).getD .null).equal (.bool true)
  | .not inner => !means reading doc inner
  | .compare field comparison operand =>
      reading.compares comparison operand (reading.subject doc field)
  | .chain .and operands => allMean reading doc operands
  | .chain .or operands => anyMeans reading doc operands

/-- Whether all operands that compile are satisfied. -/
def allMean (reading : Reading) (doc : Document) : List Filter → Bool
  | [] => true
  | operand :: rest =>
      (if compiles operand then means reading doc operand else true) && allMean reading doc rest

/-- Whether one of the operands that compile is satisfied. -/
def anyMeans (reading : Reading) (doc : Document) : List Filter → Bool
  | [] => false
  | operand :: rest =>
      (if compiles operand then means reading doc operand else false) || anyMeans reading doc rest

end

end Filter

end DataGrid
