import DataGrid.Pipeline.DateUnit
/-!
Intervals of a group level: the width of numeric buckets, or a calendar unit by name. A name may
also hold a width in digits. What is neither a positive width nor a unit groups by the raw value.
-/
namespace DataGrid

inductive Interval where
  | width (number : Int)
  | named (name : String)
  deriving DecidableEq, Repr

/-- How the key of a level is derived. -/
inductive KeyRule where
  | raw
  | bucket (width : Int)
  | part (unit : DateUnit)
  deriving DecidableEq, Repr

namespace Interval

def ofWidth (number : Int) : KeyRule := if number > 0 then .bucket number else .raw

def rule : Interval → KeyRule
  | .width number => ofWidth number
  | .named name =>
      -- a name that holds digits is a width all the same
      match Text.int64? (Text.trim name.toList) with
      | some number => ofWidth number
      | none => ((DateUnit.ofName? name).map .part).getD .raw

/-- A whole number in 64 bits with a sign, or else a text. -/
def ofValue? (value : Value) : Option Interval :=
  (value.int64?.map .width).or (value.string?.map .named)

def toValue : Interval → Value
  | .width number => .int number
  | .named name => .string name

end Interval

end DataGrid
