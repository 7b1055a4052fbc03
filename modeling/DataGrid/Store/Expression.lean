import DataGrid.Store.Arithmetic
import DataGrid.Text.Word
/-!
Expressions computed over one document. A text after a dollar sign refers to a path, an object whose
only key starts with a dollar sign applies an operator, and every other value is built from its
parts. Native dates and ids are literals although their keys look like operators.
-/
namespace DataGrid

inductive CalendarPart where
  | year | month | dayOfMonth | dayOfWeek | hour | minute | second
  deriving DecidableEq, Repr

namespace CalendarPart

def name : CalendarPart → String
  | .year => "$year"
  | .month => "$month"
  | .dayOfMonth => "$dayOfMonth"
  | .dayOfWeek => "$dayOfWeek"
  | .hour => "$hour"
  | .minute => "$minute"
  | .second => "$second"

def ofMoment (part : CalendarPart) (moment : Calendar.Moment) : Int :=
  match part with
  | .year => moment.date.year
  | .month => moment.date.month
  | .dayOfMonth => moment.date.day
  -- counted from Sunday, which is 1
  | .dayOfWeek => moment.weekday + 1
  | .hour => moment.hour
  | .minute => moment.minute
  | .second => moment.second

def apply (part : CalendarPart) (value : Value) : StoreResult Value :=
  if value.isNull then pure .null
  else
    match value.moment? with
    | some moment => pure (.int (part.ofMoment moment))
    -- no date, or one outside the supported years
    | none => throw (.invalidExpression (.operand part.name value))

end CalendarPart

inductive Operator where
  | literal
  | arithmetic (op : Arithmetic)
  | calendar (part : CalendarPart)
  deriving DecidableEq, Repr

def Operator.ofName? : String → Option Operator
  | "$literal" => some .literal
  | "$add" => some (.arithmetic .add)
  | "$subtract" => some (.arithmetic .subtract)
  | "$mod" => some (.arithmetic .mod)
  | "$divide" => some (.arithmetic .divide)
  | "$year" => some (.calendar .year)
  | "$month" => some (.calendar .month)
  | "$dayOfMonth" => some (.calendar .dayOfMonth)
  | "$dayOfWeek" => some (.calendar .dayOfWeek)
  | "$hour" => some (.calendar .hour)
  | "$minute" => some (.calendar .minute)
  | "$second" => some (.calendar .second)
  | _ => none

namespace Expression

def evaluateText (doc : Value) (text : String) : Value :=
  if text = "$$CURRENT" ∨ text = "$$ROOT" then doc
  else
    match Text.afterDollar? text with
    -- a missing path is null
    | some path => (doc.get? path).getD .null
    | none => .string text

mutual

def evaluate (doc : Value) : Value → StoreResult Value
  | .string text => pure (evaluateText doc text)
  | .array items => do pure (.array (← evaluateItems doc items))
  | .object fields =>
      if (Value.object fields).isNative then pure (.object fields)
      else
        match fields with
        | [(key, argument)] =>
            if Text.startsWithDollar key then
              match Operator.ofName? key with
              | none => throw (.unsupportedOperator key)
              | some .literal => pure argument
              | some (.arithmetic op) => do
                  let operands ← match argument with
                    | .array items => evaluateItems doc items
                    | single => do pure [← evaluate doc single]
                  op.applyAll operands
              | some (.calendar part) => do part.apply (← evaluate doc argument)
            else do pure (.object [(key, ← evaluate doc argument)])
        | several => do pure (.object (← evaluateFields doc several))
  | scalar => pure scalar

def evaluateItems (doc : Value) : List Value → StoreResult (List Value)
  | [] => pure []
  | item :: rest => do
      let value ← evaluate doc item
      let values ← evaluateItems doc rest
      pure (value :: values)

def evaluateFields (doc : Value) : List (String × Value) → StoreResult (List (String × Value))
  | [] => pure []
  | (key, item) :: rest => do
      let value ← evaluate doc item
      let values ← evaluateFields doc rest
      pure ((key, value) :: values)

end

end Expression

end DataGrid
