import DataGrid.Pattern.CharSet
/-!
Characters as bytes in UTF-8. A set of characters is written as sequences of byte ranges, and the
sequences with their common beginnings as a tree.
-/
namespace DataGrid.Pattern

abbrev ByteRange := Nat × Nat

namespace Bytes

def encode (n : Nat) : List Nat :=
  if n < 0x80 then [n]
  else if n < 0x800 then [0xc0 + n / 64, 0x80 + n % 64]
  else if n < 0x10000 then [0xe0 + n / 0x1000, 0x80 + n / 64 % 64, 0x80 + n % 64]
  else [0xf0 + n / 0x40000, 0x80 + n / 0x1000 % 64, 0x80 + n / 64 % 64, 0x80 + n % 64]

/-- The last code points of one, two and three bytes. -/
def lengthEnds : List Nat := [0x7f, 0x7ff, 0xffff]

def division? (low high : Nat) : Option Nat :=
  match lengthEnds.find? fun last => low ≤ last && last < high with
  | some last => some last
  -- within one length, each byte has to run through all its values or stay the same
  | none =>
      if high < 0x80 then none
      else [0x40, 0x1000, 0x40000].findSome? fun block =>
        if low / block = high / block then none
        else if low % block ≠ 0 then some (low / block * block + block - 1)
        else if high % block ≠ block - 1 then some (high / block * block - 1)
        else none

/-- A range of code points as sequences of byte ranges, in ascending order. -/
def sequences (low high : Nat) : List (List ByteRange) :=
  match division? low high with
  | none => [(encode low).zip (encode high)]
  | some last =>
      if low ≤ last ∧ last < high then sequences low last ++ sequences (last + 1) high
      else [(encode low).zip (encode high)]
termination_by high - low

end Bytes

/-- Byte ranges, each with what may follow it; nothing follows a leaf. -/
inductive ByteTree where
  | leaf
  | node (branches : List (ByteRange × ByteTree))

namespace ByteTree

/-- The tree of sequences in ascending order, which are no longer than `depth`. -/
def ofSequences : (depth : Nat) → List (List ByteRange) → ByteTree
  | 0, _ => .leaf
  | depth + 1, sequences =>
      let groups := (sequences.filter (!·.isEmpty)).splitBy fun first second =>
        first.head? == second.head?
      if groups.isEmpty then .leaf
      else .node (groups.map fun group =>
        ((group.head?.bind List.head?).getD (0, 0), ofSequences depth (group.map List.tail)))

end ByteTree

/-- The bytes of a set of characters: a number of ranges where they are all ASCII, or else sequences
and their tree. -/
inductive ByteCode where
  | ascii (ranges : Nat)
  | wide (sequences : List (List ByteRange)) (tree : ByteTree)

namespace ByteCode

def ofSet (set : CharSet) : ByteCode :=
  if set.all fun range => range.2 < 0x80 then .ascii set.length
  else
    let sequences := set.flatMap fun range => Bytes.sequences range.1 range.2
    .wide sequences (.ofSequences 4 sequences)

end ByteCode

end DataGrid.Pattern
