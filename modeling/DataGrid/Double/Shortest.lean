import DataGrid.Double
/-!
The decimal text of a double: the fewest significant digits that read back as the same double, and
of those the nearest. On the decimal grid of each length from 1 to 17 only the two neighbours of the
value can be meant, so each grid is tried with those two, in exact whole-number arithmetic.
-/
namespace DataGrid.Double

/-- The reals that round to a magnitude, in quarter steps. -/
structure Interval where
  low : Nat
  value : Nat
  high : Nat
  closed : Bool

def interval (steps : Nat) : Interval :=
  let spare := 1 <<< spareBits steps
  -- just above a power of two the lower neighbour is half as far away
  let below := if steps = spare <<< 52 ∧ 1 < spare then spare else 2 * spare
  { low := 4 * steps - below
    value := 4 * steps
    high := 4 * steps + 2 * spare
    -- a tie goes to the even neighbour, so that the ends belong to even magnitudes only
    closed := steps / spare % 2 == 0 }

/-- Whether a point, scaled like the interval by `scale`, rounds to the interval's magnitude. -/
def Interval.holds (range : Interval) (scale point : Nat) : Bool :=
  if range.closed then range.low * scale ≤ point && point ≤ range.high * scale
  else range.low * scale < point && point < range.high * scale

/-- The nearest multiple of `10 ^ exponent` that rounds to the magnitude, if one does. -/
def Interval.onGrid (range : Interval) (exponent : Int) : Option Nat :=
  let cell := 4 * one * Nat.pow 10 exponent.toNat
  let scale := Nat.pow 10 (-exponent).toNat
  let low := range.value * scale / cell
  match range.holds scale (low * cell), range.holds scale ((low + 1) * cell) with
  | true, true => some (divideToEven (range.value * scale) cell)
  | true, false => some low
  | false, true => some (low + 1)
  | false, false => none

/-- The least power of ten that brings a magnitude below one up to one, `tries` at most. -/
def powerToOne (steps : Nat) : (tries : Nat) → Nat
  | 0 => 0
  | tries + 1 => if one ≤ steps then 0 else 1 + powerToOne (steps * 10) tries

def leadingExponent (steps : Nat) : Int :=
  if one ≤ steps then ((Nat.toDigits 10 (steps / one)).length : Int) - 1
  else -(powerToOne steps 324 : Int)

/-- The grids from one digit on; the first that meets the interval gives digits and exponent. -/
def firstGrid (range : Interval) (exponent : Int) : (tries : Nat) → Nat × Int
  | 0 => (0, exponent)
  | tries + 1 =>
      match range.onGrid exponent with
      | some digits => (digits, exponent)
      | none => firstGrid range (exponent - 1) tries

/-- The shortest digits, without zeros at the end, and the exponent of the first of them. -/
def shortest (steps : Nat) : List Char × Int :=
  let (digits, exponent) := firstGrid (interval steps) (leadingExponent steps) 20
  let text := Nat.toDigits 10 digits
  ((text.reverse.dropWhile (· == '0')).reverse, exponent + (text.length : Int) - 1)

/-- Which exponents of the leading digit are written without an exponent part. -/
structure Layout where
  leastPositional : Int
  greatestPositional : Int

/-- From `0.00001` up to sixteen digits before the point. -/
def jsonLayout : Layout := ⟨-5, 15⟩

def zeros (count : Nat) : List Char := List.replicate count '0'

def positional (digits : List Char) (exponent : Int) : List Char :=
  if exponent < 0 then '0' :: '.' :: zeros (-exponent - 1).toNat ++ digits
  else
    let whole := exponent.toNat + 1
    if digits.length ≤ whole then digits ++ zeros (whole - digits.length) ++ ['.', '0']
    else digits.take whole ++ '.' :: digits.drop whole

def scientific (digits : List Char) (exponent : Int) : List Char :=
  let mantissa := match digits with
    | first :: rest@(_ :: _) => first :: '.' :: rest
    -- one digit stands without a point
    | short => short
  mantissa ++ 'e' :: (if exponent < 0 then '-' else '+') :: Nat.toDigits 10 exponent.natAbs

/-- A double always shows that it is one: by a point or by an exponent. -/
def toText (x : Double) : String :=
  let unsigned :=
    if x.steps = 0 then ['0', '.', '0']
    else
      let (digits, exponent) := shortest x.steps
      if jsonLayout.leastPositional ≤ exponent ∧ exponent ≤ jsonLayout.greatestPositional then
        positional digits exponent
      else scientific digits exponent
  String.ofList (if x.negative then '-' :: unsigned else unsigned)

end DataGrid.Double
