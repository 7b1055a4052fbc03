/-!
Finite binary64 numbers, held exactly: a magnitude is a whole number of least steps 2⁻¹⁰⁷⁴, and a
sign. Every operation computes the exact result in steps and rounds once, to the nearest magnitude
of at most 53 leading bits, a tie going to the even neighbour. `finite?` refuses a magnitude that
has left the range; the operations themselves are total, so an order or an equation over doubles is
an order or an equation over whole numbers.
-/
namespace DataGrid

/-- `steps` least steps away from zero, below it when `negative`. Zero has both signs. -/
structure Double where
  negative : Bool
  steps : Nat
  deriving DecidableEq, Repr

namespace Double

def one : Nat := 1 <<< 1074

/-- Least steps in 2¹⁰²⁴, the first magnitude out of range. -/
def limit : Nat := 1 <<< 2098

/-- The quotient rounded to a whole number, a half going to the even neighbour. -/
def divideToEven (numerator denominator : Nat) : Nat :=
  let low := numerator / denominator
  let rest := numerator % denominator
  if 2 * rest < denominator then low
  else if denominator < 2 * rest then low + 1
  else low + low % 2

/-- Bits of a magnitude beyond the 53 leading ones. -/
def spareBits (steps : Nat) : Nat := steps.log2 - 52

/-- The nearest magnitude to a quotient of step counts. -/
def nearest (numerator denominator : Nat) : Nat :=
  let spare := 1 <<< spareBits (numerator / denominator)
  divideToEven numerator (denominator * spare) * spare

def zero : Double := ⟨false, 0⟩

/-- The number of steps with its sign: the value that comparisons look at. -/
def signed (x : Double) : Int := if x.negative then -(x.steps : Int) else x.steps

/-- `none` when the magnitude is out of range. -/
def finite? (x : Double) : Option Double := if x.steps < limit then some x else none

def ofNat (n : Nat) : Double := ⟨false, nearest (n * one) 1⟩

def ofInt (n : Int) : Double := ⟨decide (n < 0), nearest (n.natAbs * one) 1⟩

def neg (x : Double) : Double := ⟨!x.negative, x.steps⟩

def add (x y : Double) : Double :=
  let sum := x.signed + y.signed
  -- a sum of zero is negative only when both terms are
  let below := if sum = 0 then x.negative && y.negative else decide (sum < 0)
  ⟨below, nearest sum.natAbs 1⟩

def sub (x y : Double) : Double := add x (neg y)

def mul (x y : Double) : Double :=
  ⟨x.negative != y.negative, nearest (x.steps * y.steps) one⟩

def div (x y : Double) : Double :=
  ⟨x.negative != y.negative, nearest (x.steps * one) y.steps⟩

/-- The remainder of division toward zero; it is exact and has the sign of the dividend. -/
def rem (x y : Double) : Double := ⟨x.negative, x.steps % y.steps⟩

def isZero (x : Double) : Bool := x.steps == 0

/-- The whole part, kept inside the signed 64-bit range. -/
def toInt64 (x : Double) : Int :=
  let whole : Int := if x.negative then -((x.steps / one : Nat) : Int) else (x.steps / one : Nat)
  max (-0x8000000000000000) (min 0x7fffffffffffffff whole)

def compare (x y : Double) : Ordering := Ord.compare x.signed y.signed

end Double

end DataGrid
