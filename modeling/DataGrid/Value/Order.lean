import DataGrid.Value.Native
/-!
The order of values of all kinds. Kinds come first: null, numbers, strings, objects, arrays, object
ids, booleans, dates. Inside a kind numbers are compared as doubles, strings by code points, arrays
and objects entry by entry and then by length, an object's entries by key and then by value.
-/
namespace DataGrid.Value

inductive Bracket where
  | null | number | string | object | array | oid | bool | date
  deriving DecidableEq, Repr

def Bracket.rank : Bracket → Nat
  | .null => 0
  | .number => 1
  | .string => 2
  | .object => 3
  | .array => 4
  | .oid => 5
  | .bool => 6
  | .date => 7

/-- Native ids and dates have brackets of their own; every other object is an object. -/
def bracket (value : Value) : Bracket :=
  match value with
  | .null => .null
  | .bool _ => .bool
  | .int _ | .double _ => .number
  | .string _ => .string
  | .array _ => .array
  | .object fields =>
      if (oidHex? (.object fields)).isSome then .oid
      else if (dateMillis? (.object fields)).isSome then .date
      else .object

def sameBracket (a b : Value) : Bool := decide (bracket a = bracket b)

mutual

def compare : Value → Value → Ordering
  | .array as, .array bs => compareItems as bs
  | .object as, .object bs =>
      (Ord.compare (bracket (.object as)).rank (bracket (.object bs)).rank).then <|
        match bracket (.object as) with
        | .oid => Ord.compare (oidHex? (.object as)) (oidHex? (.object bs))
        | .date => Ord.compare (dateMillis? (.object as)) (dateMillis? (.object bs))
        | _ => compareFields as bs
  | .bool a, .bool b => Ord.compare a b
  | .string a, .string b => Ord.compare a b
  | .int a, .int b => (Double.ofInt a).compare (.ofInt b)
  | .int a, .double b => (Double.ofInt a).compare b
  | .double a, .int b => a.compare (.ofInt b)
  | .double a, .double b => a.compare b
  | a, b => Ord.compare (bracket a).rank (bracket b).rank

def compareItems : List Value → List Value → Ordering
  | [], [] => .eq
  | [], _ :: _ => .lt
  | _ :: _, [] => .gt
  | a :: as, b :: bs => (compare a b).then (compareItems as bs)

def compareFields : List (String × Value) → List (String × Value) → Ordering
  | [], [] => .eq
  | [], _ :: _ => .lt
  | _ :: _, [] => .gt
  | (k, a) :: as, (l, b) :: bs =>
      (Ord.compare k l).then ((compare a b).then (compareFields as bs))

end

/-- Equality of values; the integer and the double of one number are equal. -/
def equal (a b : Value) : Bool := compare a b == .eq

end DataGrid.Value
