import DataGrid.Group.Interval
import DataGrid.Pipeline.Stage
/-!
The key of a group level: the field that it is computed into, the stages that compute it, and the
match that finds the members of one group again.
-/
namespace DataGrid

/-- The level counts from 0 at the top; the offset is UTC less local time, in minutes. -/
structure GroupKey where
  level : Nat
  selector : String
  rule : KeyRule
  offset : Int
  deriving DecidableEq, Repr

namespace GroupKey

def ofInterval (selector : String) (interval : Option Interval) (level : Nat) (offset : Int) :
    GroupKey :=
  ⟨level, selector, (interval.map Interval.rule).getD .raw, offset⟩

def fieldOf (level : Nat) : String := "___group_key_" ++ toString level

def field (key : GroupKey) : String := fieldOf key.level

def quarterField (key : GroupKey) : String := key.field ++ "_mp2"

/-- The fields to add, stage by stage. -/
def computed (key : GroupKey) : List (String × Value) :=
  match key.rule with
  | .raw => [(key.field, Term.field key.selector)]
  | .bucket width => [(key.field, Term.quotient (Term.field key.selector) (.int width))]
  | .part unit =>
      let time := Term.localTime key.selector key.offset
      match unit.extract? time with
      | some expression => [(key.field, expression)]
      | none =>
          [(key.quarterField, DateUnit.monthPlusTwo time),
            (key.field, DateUnit.quarterFrom key.quarterField)]

def stages (key : GroupKey) : Pipeline :=
  key.computed.map fun (name, expression) => .addFields [(name, expression)]

def names (key : GroupKey) : List String := key.computed.map Prod.fst

def keyMatch (key : GroupKey) (value : Value) : Stage := .matching [(key.field, value)]

/-- Keeps the key in `_id` and nothing else, one document for each key. -/
def distinct (key : GroupKey) : Stage := .group [("_id", Term.field key.field)]

end GroupKey

end DataGrid
