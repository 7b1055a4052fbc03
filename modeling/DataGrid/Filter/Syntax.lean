import DataGrid.Text.Word
import DataGrid.Value
/-!
Filters of a grid as trees: the truth of a field, negation, a comparison of a field with a value,
and chains under one connective.
-/
namespace DataGrid

inductive Comparison where
  | eq | ne | gt | gte | lt | lte
  | startsWith | endsWith | contains | notContains
  | equalsId
  deriving DecidableEq, Repr

namespace Comparison

def name : Comparison → String
  | .eq => "="
  | .ne => "<>"
  | .gt => ">"
  | .gte => ">="
  | .lt => "<"
  | .lte => "<="
  | .startsWith => "startswith"
  | .endsWith => "endswith"
  | .contains => "contains"
  | .notContains => "notcontains"
  | .equalsId => "equalsObjectId"

def ofName? (word : String) : Option Comparison :=
  -- names are known in any letter case
  match Text.lower word with
  | "=" => some .eq
  | "<>" => some .ne
  | ">" => some .gt
  | ">=" => some .gte
  | "<" => some .lt
  | "<=" => some .lte
  | "startswith" => some .startsWith
  | "endswith" => some .endsWith
  | "contains" => some .contains
  | "notcontains" => some .notContains
  | "equalsobjectid" => some .equalsId
  | _ => none

end Comparison

inductive Connective where
  | and | or
  deriving DecidableEq, Repr

namespace Connective

def name : Connective → String
  | .and => "and"
  | .or => "or"

def ofName? (word : String) : Option Connective :=
  match Text.lower word with
  | "and" => some .and
  | "or" => some .or
  | _ => none

/-- The connective that an element of an array spells. -/
def ofValue? (element : Value) : Option Connective := element.string?.bind ofName?

end Connective

inductive Filter where
  | truth (field : String)
  | not (inner : Filter)
  | compare (field : String) (comparison : Comparison) (operand : Value)
  | chain (connective : Connective) (operands : List Filter)
  deriving Repr

end DataGrid
