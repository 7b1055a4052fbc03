import DataGrid.Pipeline.Term
import DataGrid.Text.Word
/-!
Calendar units of a stored date and the expressions that compute them. A quarter takes two stages:
the month plus two is stored first, and a third of it, rounded down, is the quarter.
-/
namespace DataGrid

inductive DateUnit where
  | year | quarter | month | day | dayOfWeek | hour | minute | second
  deriving DecidableEq, Repr

namespace DateUnit

def name : DateUnit → String
  | .year => "year"
  | .quarter => "quarter"
  | .month => "month"
  | .day => "day"
  | .dayOfWeek => "dayOfWeek"
  | .hour => "hour"
  | .minute => "minute"
  | .second => "second"

def ofName? (word : String) : Option DateUnit :=
  match Text.lower word with
  | "year" => some .year
  | "quarter" => some .quarter
  | "month" => some .month
  | "day" => some .day
  | "dayofweek" => some .dayOfWeek
  | "hour" => some .hour
  | "minute" => some .minute
  | "second" => some .second
  | _ => none

def isReferable : DateUnit → Bool
  | .year | .quarter | .month | .day | .dayOfWeek => true
  | .hour | .minute | .second => false

def extract? (unit : DateUnit) (time : Value) : Option Value :=
  match unit with
  | .year => some (.single "$year" time)
  -- one stage is not enough for a quarter
  | .quarter => none
  | .month => some (.single "$month" time)
  | .day => some (.single "$dayOfMonth" time)
  -- stores count the days of the week from 1, here they count from 0
  | .dayOfWeek => some (Term.apply "$subtract" [.single "$dayOfWeek" time, .int 1])
  | .hour => some (.single "$hour" time)
  | .minute => some (.single "$minute" time)
  | .second => some (.single "$second" time)

def monthPlusTwo (time : Value) : Value := Term.apply "$add" [.single "$month" time, .int 2]

def quarterFrom (path : String) : Value := Term.quotient (Term.field path) (.int 3)

end DateUnit

end DataGrid
