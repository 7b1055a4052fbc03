import DataGrid.Pattern.Tree
/-!
Matching by sets of places. A text of n characters has n + 1 places; a set of places is a list with
one truth value for each. Advancing through a tree turns the places where a stretch may start into
those where it may end, and a text has a match when advancing from all places leaves some.
-/
namespace DataGrid.Pattern

abbrev Places := List Bool

namespace Places

def union (left right : Places) : Places := List.zipWith (· || ·) left right

def pass (set : CharSet) : List Char → Places → Places
  | text, places =>
      false :: List.zipWith (fun c here => here && set.holds c.toNat) text places

/-- The places where a condition holds, from the character before the first of them on. -/
def keep (condition : Look) : (before : Option Char) → List Char → Places → Places
  | before, [], places => places.map fun here => here && condition.holds before none
  | _, _ :: _, [] => []
  | before, c :: text, here :: places =>
      (here && condition.holds before (some c)) :: keep condition (some c) text places

def iterate (advance : Places → Places) : Nat → Places → Places
  | 0, places => places
  | n + 1, places => iterate advance n (advance places)

/-- Up to a number of rounds, each adding the places it reaches. -/
def closure (advance : Places → Places) : (rounds : Nat) → Places → Places
  | 0, places => places
  | rounds + 1, places =>
      let next := union places (advance places)
      -- a round that adds no place is the last
      if next = places then places else closure advance rounds next

end Places

namespace Tree

mutual

def advance (text : List Char) : Tree → Places → Places
  | .empty, places => places
  | .chars set _, places => Places.pass set text places
  | .look condition, places => Places.keep condition none text places
  | .group _ inner, places => advance text inner places
  | .concat parts, places => advanceThrough text parts places
  | .alternate parts, places => advanceAny text parts places
  | .times inner least most, places =>
      -- among more stretches than this one is empty and can be left out
      let enough := text.length + 1
      let start := Places.iterate (fun starts => advance text inner starts) (min least enough)
        places
      let rounds := match most with
        | none => enough
        | some most => min (most - least) enough
      Places.closure (fun starts => advance text inner starts) rounds start

def advanceThrough (text : List Char) : List Tree → Places → Places
  | [], places => places
  | part :: rest, places => advanceThrough text rest (advance text part places)

def advanceAny (text : List Char) : List Tree → Places → Places
  | [], places => places.map fun _ => false
  | part :: rest, places => Places.union (advance text part places) (advanceAny text rest places)

end

def foundIn (tree : Tree) (text : List Char) : Bool :=
  (advance text tree (List.replicate (text.length + 1) true)).any fun here => here

end Tree

end DataGrid.Pattern
