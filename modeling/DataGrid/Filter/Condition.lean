import DataGrid.Filter.DatePart
import DataGrid.Filter.Reader
import DataGrid.Value.Native
/-!
Filters compiled to match predicates. What cannot be compiled sets no condition: an operand of that
kind is left out of its chain, and a chain with no operand left is none itself.
-/
namespace DataGrid

/-- A match predicate and the fields it refers to, in order of appearance. -/
structure Condition where
  predicate : Document
  fields : List String
  deriving DecidableEq, Repr

namespace Condition

def stage (condition : Condition) : Stage := .matching condition.predicate

def isHexDigit (c : Char) : Bool :=
  c.isDigit || ('a' ≤ c && c ≤ 'f') || ('A' ≤ c && c ≤ 'F')

/-- An object id from 24 hexadecimal digits, bare or in native form. -/
def objectId? (value : Value) : Option Value := do
  let hex ← match value with
    | .string text => some text
    | value => value.oidHex?
  let digits := hex.toList
  if digits.length = 24 && digits.all isHexDigit then
    some (.single "$oid" (.string (String.ofList (digits.map Char.toLower))))
  else none

def operandText : Value → String
  | .string text => text
  | value => Json.compact value

def patternTest (pattern : String) (ignoreCase : Bool) : Value :=
  .object [("$regex", .string pattern), ("$options", .string (if ignoreCase then "i" else ""))]

def test? (comparison : Comparison) (operand : Value) (ignoreCase : Bool) : Option Value :=
  match comparison with
  | .eq => some (.single "$eq" operand)
  | .ne => some (.single "$ne" operand)
  | .gt => some (.single "$gt" operand)
  | .gte => some (.single "$gte" operand)
  | .lt => some (.single "$lt" operand)
  | .lte => some (.single "$lte" operand)
  | .startsWith => some (patternTest ("^" ++ operandText operand) ignoreCase)
  | .endsWith => some (patternTest (operandText operand ++ "$") ignoreCase)
  | .contains => some (patternTest (operandText operand) ignoreCase)
  -- holds where the operand begins at no place of the text
  | .notContains => some (patternTest ("^((?!" ++ operandText operand ++ ").)*$") ignoreCase)
  | .equalsId => (objectId? operand).map fun id => .single "$eq" id

def onField (field : String) (test : Value) : Condition :=
  ⟨[(DatePart.matchName field, test)], [field]⟩

def operator : Connective → String
  | .and => "$and"
  | .or => "$or"

def joined? (connective : Connective) (conditions : List Condition) : Option Condition :=
  if conditions.isEmpty then none
  else some
    ⟨[(operator connective, .array (conditions.map fun condition => .object condition.predicate))],
      conditions.flatMap Condition.fields⟩

mutual

def ofFilter? (ignoreCase : Bool) : Filter → Option Condition
  | .truth field => some (onField field (.single "$eq" (.bool true)))
  | .not inner => (ofFilter? ignoreCase inner).map fun condition =>
      ⟨[("$nor", .array [.object condition.predicate])], condition.fields⟩
  | .compare field comparison operand =>
      (test? comparison operand ignoreCase).map (onField field)
  | .chain connective operands => joined? connective (ofFilters ignoreCase operands)

def ofFilters (ignoreCase : Bool) : List Filter → List Condition
  | [] => []
  | filter :: rest =>
      match ofFilter? ignoreCase filter with
      | some condition => condition :: ofFilters ignoreCase rest
      | none => ofFilters ignoreCase rest

end

def ofValue? (ignoreCase : Bool) (filter : Value) : Option Condition :=
  (Filter.read? filter).bind (ofFilter? ignoreCase)

end Condition

/-- The stages of a filter and the fields they compute and take away again. -/
structure Filtering where
  stages : Pipeline
  names : List String
  deriving DecidableEq, Repr

namespace Filtering

def none : Filtering := ⟨[], []⟩

def ofCondition (offset : Int) (condition : Condition) : Filtering :=
  let parts := DateParts.ofFields offset condition.fields
  -- parts of dates are computed before the match and removed after it
  ⟨parts.stages ++ condition.stage :: DateParts.removal parts.names, parts.names⟩

/-- A filter that does not compile filters nothing. -/
def ofFilter (filter : Option Value) (offset : Int) (ignoreCase : Bool) : Filtering :=
  ((filter.bind (Condition.ofValue? ignoreCase)).map (ofCondition offset)).getD none

def countStages (filtering : Filtering) : Pipeline := filtering.stages ++ [.count "count"]

end Filtering

end DataGrid
