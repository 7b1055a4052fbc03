import DataGrid.Value
import DataGrid.Text.Word
/-!
Numbers of JSON text. Without fraction and exponent a number is an integer as long as 64 bits hold
it; minus zero and everything else is a double. The significand of a double is gathered digit by
digit while it fits 64 bits, and scaled by powers of ten in doubles.
-/
namespace DataGrid.Json

/-- The parts of a number as written; each list holds digits only. -/
structure Numeral where
  negative : Bool
  whole : List Char
  fraction : Option (List Char)
  exponent : Option (Bool × List Char)

namespace Numeral

def digitsOf (text : List Char) : List Char × List Char := text.span Char.isDigit

def readFraction : List Char → Option (Option (List Char) × List Char)
  | '.' :: rest =>
      let (digits, rest) := digitsOf rest
      if digits.isEmpty then none else some (some digits, rest)
  | rest => some (none, rest)

def readExponent : List Char → Option (Option (Bool × List Char) × List Char)
  | mark :: rest =>
      if mark = 'e' ∨ mark = 'E' then
        -- true for a minus
        let (negative, rest) := match rest with
          | '+' :: rest => (false, rest)
          | '-' :: rest => (true, rest)
          | rest => (false, rest)
        let (digits, rest) := digitsOf rest
        if digits.isEmpty then none else some (some (negative, digits), rest)
      else some (none, mark :: rest)
  | [] => some (none, [])

def read (text : List Char) : Option (Numeral × List Char) := do
  let (negative, rest) := match text with
    | '-' :: rest => (true, rest)
    | rest => (false, rest)
  let (whole, rest) := digitsOf rest
  -- no zero may stand before other digits
  if whole.isEmpty || (whole.head? == some '0' && whole.length > 1) then none
  else
    let (fraction, rest) ← readFraction rest
    let (exponent, rest) ← readExponent rest
    some (⟨negative, whole, fraction, exponent⟩, rest)

/-- Digits appended to a significand as long as it stays below 2⁶⁴, and how many were left. -/
def gather (significand : Nat) : List Char → Nat × Nat
  | [] => (significand, 0)
  | digit :: rest =>
      let longer := significand * 10 + Text.digitValue digit
      if longer < 0x10000000000000000 then gather longer rest else (significand, rest.length + 1)

def powerOfTen (exponent : Nat) : Double := .ofNat (Nat.pow 10 exponent)

/-- A magnitude times a power of ten, in steps of at most 10³⁰⁸; `none` when it leaves the range. -/
def scale (magnitude : Double) (exponent : Int) : (tries : Nat) → Option Double
  | 0 => some magnitude
  | tries + 1 =>
      if exponent.natAbs ≤ 308 then
        if 0 ≤ exponent then (magnitude.mul (powerOfTen exponent.toNat)).finite?
        else some (magnitude.div (powerOfTen exponent.natAbs))
      -- too many tens for one step
      else if magnitude.isZero then some magnitude
      else if 0 ≤ exponent then none
      else scale (magnitude.div (powerOfTen 308)) (exponent + 308) tries

/-- The value of a digit string, kept below 2³¹ by stopping at the first digit that exceeds it. -/
def smallExponent (digits : List Char) : Option Nat :=
  (Text.decimal? digits).bind fun n => if n < 0x80000000 then some n else none

def toDouble (numeral : Numeral) : Option Double := do
  let (significand, skipped) := gather 0 numeral.whole
  let fraction := numeral.fraction.getD []
  let (significand, dropped) := gather significand fraction
  -- digits that did not fit still count as powers of ten
  let start : Int := skipped - (fraction.length - dropped : Nat)
  let magnitude ← match numeral.exponent with
    | none => scale (.ofNat significand) start 4
    | some (negative, digits) =>
        match smallExponent digits with
        | some power =>
            scale (.ofNat significand) (if negative then start - power else start + power) 4
        | none => if negative || significand == 0 then some Double.zero else none
  some ⟨numeral.negative, magnitude.steps⟩

def toValue (numeral : Numeral) : Option Value :=
  match numeral.fraction, numeral.exponent, gather 0 numeral.whole with
  | none, none, (significand, 0) =>
      if !numeral.negative then some (.int significand)
      else if 0 < significand ∧ significand ≤ 0x8000000000000000 then some (.int (-significand))
      else (toDouble numeral).map .double
  | _, _, _ => (toDouble numeral).map .double

end Numeral

end DataGrid.Json
