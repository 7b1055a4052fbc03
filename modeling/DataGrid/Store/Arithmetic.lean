import DataGrid.Value.Native
import DataGrid.Store.Error
/-!
Arithmetic of expressions. Null makes the result null. A date moves by a number of milliseconds, and
two dates differ by one; instants wrap around in 64 bits. Integers stay integers while 64 bits hold
the result, and everything else becomes a double.
-/
namespace DataGrid

inductive Arithmetic where
  | add | subtract | mod | divide
  deriving DecidableEq, Repr

namespace Arithmetic

def name : Arithmetic → String
  | .add => "$add"
  | .subtract => "$subtract"
  | .mod => "$mod"
  | .divide => "$divide"

def badOperand (op : Arithmetic) (value : Value) : StoreError :=
  .invalidExpression (.operand op.name value)

def number (op : Arithmetic) (value : Value) : StoreResult Double :=
  match value.double? with
  | some x => pure x
  | none => throw (op.badOperand value)

def millis (op : Arithmetic) (value : Value) : StoreResult Int :=
  -- a fraction of a millisecond is cut off
  Double.toInt64 <$> op.number value

def wrap (instant : Int) : Int := instant.bmod 0x10000000000000000

/-- The result on integers, `none` when 64 bits do not hold it. Division has none. -/
def onIntegers (op : Arithmetic) (x y : Int) : Option Int :=
  match op with
  | .add => inInt64 (x + y)
  | .subtract => inInt64 (x - y)
  -- the quotient of these two is out of range, though the remainder would not be
  | .mod => if x = -0x8000000000000000 ∧ y = -1 then none else some (x.tmod y)
  | .divide => none

def onDoubles (op : Arithmetic) (x y : Double) : Double :=
  match op with
  | .add => x.add y
  | .subtract => x.sub y
  | .mod => x.rem y
  | .divide => x.div y

def dividesBy : Arithmetic → Bool
  | .add | .subtract => false
  | .mod | .divide => true

def onNumbers (op : Arithmetic) (a b : Value) : StoreResult Value := do
  let x ← op.number a
  let y ← op.number b
  if op.dividesBy && y.isZero then throw (.invalidExpression (.zeroDivisor op.name))
  else
    let whole := a.int64?.bind fun i => b.int64?.bind (op.onIntegers i)
    match whole with
    | some n => pure (.int n)
    | none => pure (.ofDouble (op.onDoubles x y))

def apply (op : Arithmetic) (a b : Value) : StoreResult Value :=
  if a.isNull || b.isNull then pure .null
  else
    match op, a.dateMillis?, b.dateMillis? with
    | .subtract, some x, some y => pure (.int (wrap (x - y)))
    | .subtract, some x, none => do pure (.date (wrap (x - (← millis .subtract b))))
    | .add, some x, none => do pure (.date (wrap (x + (← millis .add b))))
    | .add, none, some y => do pure (.date (wrap (y + (← millis .add a))))
    | _, _, _ => op.onNumbers a b

def applyAll (op : Arithmetic) : List Value → StoreResult Value
  | [a, b] => op.apply a b
  | operands => throw (.invalidExpression (.argumentCount op.name operands.length))

end Arithmetic

end DataGrid
