import DataGrid.Json.Printer
/-!
What a store can refuse, by cause, and the wording of each cause.
-/
namespace DataGrid

/-- Arguments, predicates or stages of the wrong shape. `pattern` carries the wording of the pattern
compiler and `reported` that of a store of another make. -/
inductive ExpressionFault where
  | argumentCount (operator : String) (count : Nat)
  | operand (operator : String) (value : Value)
  | zeroDivisor (operator : String)
  | logicalOperand
  | predicate (item : Value)
  | patternKind
  | pattern (reason : String)
  | sortDirection (field : String)
  | mixedProjection (field : String)
  | accumulator (field : String)
  | missingGroupId
  | nonDocument (value : Value)
  | reported (message : String)
  deriving DecidableEq, Repr

def ExpressionFault.message : ExpressionFault → String
  | .argumentCount operator count =>
      operator ++ " expects 2 arguments, got " ++ toString count
  | .operand operator value => operator ++ " cannot take " ++ Json.compact value
  | .zeroDivisor operator => operator ++ " by zero"
  | .logicalOperand => "logical operator needs an array"
  | .predicate item => "bad predicate " ++ Json.compact item
  | .patternKind => "$regex needs a string"
  | .pattern reason => reason
  | .sortDirection field => "$sort direction for " ++ field ++ " must be 1 or -1"
  | .mixedProjection field => "cannot exclude " ++ field ++ " in an inclusion projection"
  | .accumulator field => "bad accumulator for " ++ field
  | .missingGroupId => "$group needs an _id"
  | .nonDocument value => "stage produced a non-document: " ++ Json.compact value
  | .reported message => message

inductive StoreError where
  | backend (message : String)
  | unsupportedOperator (name : String)
  | invalidExpression (fault : ExpressionFault)
  deriving DecidableEq, Repr

namespace StoreError

def message : StoreError → String
  | .backend message => "Backend error: " ++ message
  | .unsupportedOperator name => "Unsupported operator: " ++ name
  | .invalidExpression fault => "Invalid expression: " ++ fault.message

def notADocument (value : Value) : StoreError :=
  .backend ("not a document: " ++ Json.compact value)

end StoreError

abbrev StoreResult (α : Type) := Except StoreError α

end DataGrid
