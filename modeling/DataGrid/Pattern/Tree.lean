import DataGrid.Pattern.CharSet
/-!
Patterns as trees. A tree says which stretches of a text it covers; greed plays no part in whether a
text has a match, so the tree has none.
-/
namespace DataGrid.Pattern

inductive Boundary where
  | either | neither | start | finish | startHalf | finishHalf
  deriving DecidableEq, Repr

/-- Conditions on a place between two characters. -/
inductive Look where
  | textStart
  | textEnd
  | lineStart
  | lineEnd
  | returnLineStart
  | returnLineEnd
  | word (boundary : Boundary) (unicode : Bool)
  deriving DecidableEq, Repr

namespace Look

def isNewLine (neighbour : Option Char) : Bool := neighbour == some '\n'

def isReturn (neighbour : Option Char) : Bool := neighbour == some '\r'

def isWord (unicode : Bool) (neighbour : Option Char) : Bool :=
  match neighbour with
  | some c => (CharSet.words unicode).holds c.toNat
  | none => false

def holds (look : Look) (before after : Option Char) : Bool :=
  match look with
  | .textStart => before.isNone
  | .textEnd => after.isNone
  | .lineStart => before.isNone || isNewLine before
  | .lineEnd => after.isNone || isNewLine after
  -- the place between a return and a line feed is neither a start nor an end
  | .returnLineStart =>
      before.isNone || isNewLine before || (isReturn before && !isNewLine after)
  | .returnLineEnd =>
      after.isNone || isReturn after || (isNewLine after && !isReturn before)
  | .word boundary unicode =>
      let left := isWord unicode before
      let right := isWord unicode after
      match boundary with
      | .either => left != right
      | .neither => left == right
      | .start => !left && right
      | .finish => left && !right
      | .startHalf => !left
      | .finishHalf => !right

end Look

/-- `depth` of a set counts its brackets; `most` of a repetition is none where there is no end. -/
inductive Tree where
  | empty
  | chars (set : CharSet) (depth : Nat)
  | look (condition : Look)
  | group (capturing : Bool) (inner : Tree)
  | concat (parts : List Tree)
  | alternate (parts : List Tree)
  | times (inner : Tree) (least : Nat) (most : Option Nat)

namespace Tree

mutual

def depth : Tree → Nat
  | .empty => 0
  | .chars _ depth => depth
  | .look _ => 0
  | .group _ inner => depth inner + 1
  | .concat parts => deepest parts + 1
  | .alternate parts => deepest parts + 1
  | .times inner _ _ => depth inner + 1

def deepest : List Tree → Nat
  | [] => 0
  | part :: rest => max (depth part) (deepest rest)

end

end Tree

end DataGrid.Pattern
