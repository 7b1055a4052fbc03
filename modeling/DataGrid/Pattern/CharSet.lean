import DataGrid.Unicode.Lookup
/-!
Sets of characters that a pattern names by a letter or between colons. With Unicode they go beyond
ASCII.
-/
namespace DataGrid.Pattern
open Unicode

abbrev CharSet := Ranges

namespace CharSet

def single (c : Char) : CharSet := [(c.toNat, c.toNat)]

/-- The characters from one code point to another; surrogates are none. -/
def between (low high : Nat) : CharSet := Ranges.inter [(low, high)] Ranges.everything

def ascii : CharSet := [(0, 127)]

def digits (unicode : Bool) : CharSet :=
  if unicode then Category.ranges .decimalNumber else [(0x30, 0x39)]

def blanks (unicode : Bool) : CharSet :=
  if unicode then Property.listed .whiteSpace else [(9, 13), (32, 32)]

/-- The characters of words: letters, marks, decimal digits, connectors and the two joiners. -/
def words (unicode : Bool) : CharSet :=
  if unicode then
    .unionAll
      [Property.ranges .alphabetic, Property.listed .joinControl,
        ofCategories (.decimalNumber :: .connectorPunctuation :: Category.marks)]
  else [(0x30, 0x39), (0x41, 0x5a), (0x5f, 0x5f), (0x61, 0x7a)]

def asciiClass? : String → Option CharSet
  | "alnum" => some [(0x30, 0x39), (0x41, 0x5a), (0x61, 0x7a)]
  | "alpha" => some [(0x41, 0x5a), (0x61, 0x7a)]
  | "ascii" => some ascii
  | "blank" => some [(9, 9), (32, 32)]
  | "cntrl" => some [(0, 31), (127, 127)]
  | "digit" => some (digits false)
  | "graph" => some [(0x21, 0x7e)]
  | "lower" => some [(0x61, 0x7a)]
  | "print" => some [(0x20, 0x7e)]
  | "punct" => some [(0x21, 0x2f), (0x3a, 0x40), (0x5b, 0x60), (0x7b, 0x7e)]
  | "space" => some (blanks false)
  | "upper" => some [(0x41, 0x5a)]
  | "word" => some (words false)
  | "xdigit" => some [(0x30, 0x39), (0x41, 0x46), (0x61, 0x66)]
  | _ => none

end CharSet

end DataGrid.Pattern
