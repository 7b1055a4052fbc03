import DataGrid.Value
/-!
Expressions that pipelines compute. Stores divide without rounding, so a whole quotient is written
as the dividend less its remainder, divided.
-/
namespace DataGrid.Term

def field (path : String) : Value := .string ("$" ++ path)

def apply (operator : String) (arguments : List Value) : Value :=
  .single operator (.array arguments)

def wholePart (dividend divisor : Value) : Value :=
  apply "$subtract" [dividend, apply "$mod" [dividend, divisor]]

def quotient (dividend divisor : Value) : Value :=
  apply "$divide" [wholePart dividend divisor, divisor]

/-- The stored instant moved to local time. The offset is UTC less local time, in minutes. -/
def localTime (path : String) (offset : Int) : Value :=
  apply "$subtract" [field path, .int (offset * 60000)]

end DataGrid.Term
