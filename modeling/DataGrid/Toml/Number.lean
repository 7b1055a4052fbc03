import DataGrid.Json.Reader
import DataGrid.Toml.Scan
/-!
Numbers of a TOML text. Of a number with a fraction only the place counts, since no setting has one.
-/
namespace DataGrid.Toml.Scan

/-- Digits, each underscore between two of them. -/
def digits (isDigit : Char → Bool) : Scan (List Char) := do
  let first ← one isDigit
  let more ← many (either (one isDigit) (do
    mark '_'
    must (one isDigit)))
  pure (first :: more)

def numberOf (base : Nat) (digits : List Char) : Nat :=
  digits.foldl (fun sum c => sum * base + (Json.hexValue? c).getD 0) 0

def sign : Scan Bool :=
  (fun mark => mark == some '-') <$> optional (one fun c => c == '+' || c == '-')

def decimal : Scan (Bool × List Char) := do
  let negative ← sign
  let word ← match ← ahead with
    -- no digit follows a leading zero
    | '0' :: _ => (fun c => [c]) <$> one Char.isDigit
    | _ => digits Char.isDigit
  pure (negative, word)

/-- A whole number, in decimal or without a sign in base 16, 8 or 2. -/
def integer : Scan Int := do
  let based := fun (base : Nat) (isDigit : Char → Bool) =>
    must (checked
      (do
        let _ ← exactly 2 fun _ => true
        digits isDigit)
      fun word => inInt64 (numberOf base word))
  match ← ahead with
  | '0' :: 'x' :: _ => based 16 fun c => (Json.hexValue? c).isSome
  | '0' :: 'o' :: _ => based 8 fun c => '0' ≤ c && c ≤ '7'
  | '0' :: 'b' :: _ => based 2 fun c => c == '0' || c == '1'
  | start => do
      let (negative, word) ← decimal
      let n : Int := numberOf 10 word
      match inInt64 (if negative then -n else n) with
      | some n => pure n
      | none => fun _ => .fail start

def exponent : Scan (Bool × List Char) := do
  let _ ← one fun c => c == 'e' || c == 'E'
  let negative ← sign
  let word ← must (digits Char.isDigit)
  pure (negative, word)

def fraction : Scan (List Char) := do
  mark '.'
  must (digits Char.isDigit)

/-- The least number that rounds to infinity as a double. -/
def infinityBound : Nat := ((1 <<< 54) - 1) <<< 970

def isInfinite (digits : List Char) (power : Int) : Bool :=
  let n := numberOf 10 digits
  -- most numbers are told by their length, so that no large power has to be computed
  if n = 0 ∨ digits.length + power ≤ 300 then false
  else if 400 ≤ power then true
  else infinityBound * Nat.pow 10 (-power).toNat ≤ n * Nat.pow 10 power.toNat

def decimalFloat : Scan Unit := do
  let start ← ahead
  let (negative, whole) ← decimal
  let (behind, power) ← either (do
      pure ([], some (← exponent)))
    (do
      let behind ← fraction
      pure (behind, ← optional exponent))
  let power : Int := match power with
    | some (true, word) => -(numberOf 10 word : Int)
    | some (false, word) => numberOf 10 word
    | none => 0
  -- below zero it may be infinite
  if !negative && isInfinite (whole ++ behind) (power - behind.length) then fun _ => .fail start
  else pure ()

def infinity : Scan Unit := word "inf".toList

def notANumber : Scan Unit := word "nan".toList

def specialFloat : Scan Unit := do
  let _ ← sign
  either infinity notANumber

def float : Scan Unit := either decimalFloat specialFloat

end DataGrid.Toml.Scan
