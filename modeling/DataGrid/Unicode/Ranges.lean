import DataGrid.Text.Word
/-!
Sets of code points as lists of inclusive ranges, which stand in ascending order with gaps between
them. They are read from text: ranges in hexadecimal, divided by blanks.
-/
namespace DataGrid.Unicode

abbrev Ranges := List (Nat × Nat)

def hexDigit (c : Char) : Nat :=
  if c.isDigit then c.toNat - '0'.toNat else c.toNat - 'a'.toNat + 10

def readHex (digits : List Char) : Nat := digits.foldl (fun sum c => sum * 16 + hexDigit c) 0

def lastPoint : Nat := 0x10ffff

namespace Ranges

def readRange (word : List Char) : Nat × Nat :=
  match Text.pieces '-' word with
  | [low, high] => (readHex low, readHex high)
  | _ => (readHex word, readHex word)

def read (text : String) : Ranges := (Text.words text).map readRange

def holds : Ranges → Nat → Bool
  | [], _ => false
  | (low, high) :: rest, n => low ≤ n && (n ≤ high || holds rest n)

/-- A range followed by others, which start no earlier, joined where they touch. -/
def joinFrom (low high : Nat) : Ranges → Ranges
  | [] => [(low, high)]
  | (nextLow, nextHigh) :: rest =>
      if nextLow ≤ high + 1 then joinFrom low (max high nextHigh) rest
      else (low, high) :: joinFrom nextLow nextHigh rest

/-- Ranges in the order of their starts, joined where they touch. -/
def join : Ranges → Ranges
  | [] => []
  | (low, high) :: rest => joinFrom low high rest

def startsFirst (first second : Nat × Nat) : Bool := first.1 ≤ second.1

/-- Ranges in any order made a set. -/
def normal (ranges : Ranges) : Ranges := join (ranges.mergeSort startsFirst)

def union (left right : Ranges) : Ranges := join (List.merge left right startsFirst)

def unionAll (sets : List Ranges) : Ranges := normal sets.flatten

/-- What the ranges leave over from a code point on. -/
def gapsFrom (start : Nat) : Ranges → Ranges
  | [] => if start ≤ lastPoint then [(start, lastPoint)] else []
  | (low, high) :: rest =>
      if start < low then (start, low - 1) :: gapsFrom (high + 1) rest else gapsFrom (high + 1) rest

def surrogates : Ranges := [(0xd800, 0xdfff)]

-- surrogates are no characters
def complement (set : Ranges) : Ranges := gapsFrom 0 (set.union surrogates)

def everything : Ranges := complement []

def inter (left right : Ranges) : Ranges := complement (left.complement.union right.complement)

def diff (left right : Ranges) : Ranges := complement (left.complement.union right)

def diffAll (set : Ranges) (others : List Ranges) : Ranges := set.diff (unionAll others)

def symmDiff (left right : Ranges) : Ranges := (left.union right).diff (left.inter right)

end Ranges

end DataGrid.Unicode
