import DataGrid.Pattern.Escape
/-!
Sets in brackets: characters, ranges, escapes, named ASCII classes and further brackets, joined by
union and, left to right, by intersection, difference and symmetric difference.
-/
namespace DataGrid.Pattern

/-- A set and how deeply brackets are nested in it. -/
structure Nested where
  set : CharSet
  depth : Nat
  deriving DecidableEq, Repr

inductive SetOperator where
  | inter | diff | symmDiff
  deriving DecidableEq, Repr

def SetOperator.apply : SetOperator → CharSet → CharSet → CharSet
  | .inter => .inter
  | .diff => .diff
  | .symmDiff => .symmDiff

/-- What stands between a bracket and the place that is being read: members since the last operator,
and the operator with everything to its left. -/
structure Bracket where
  negated : Bool
  left : Option (SetOperator × Nested)
  members : List Nested
  deriving DecidableEq, Repr

namespace Bracket

def union (members : List Nested) : Nested :=
  let set := .unionAll (members.map Nested.set)
  let depth := members.foldr (fun member depth => max member.depth depth) 0
  ⟨set, if members.length ≥ 2 then depth + 1 else depth⟩

def joined (flags : Flags) (bracket : Bracket) : Nested :=
  let right := union bracket.members
  match bracket.left with
  | none => right
  | some (operator, left) =>
      -- operands are folded before they are compared
      ⟨operator.apply (flags.fold left.set) (flags.fold right.set), max left.depth right.depth + 1⟩

def withOperator (flags : Flags) (bracket : Bracket) (operator : SetOperator) : Bracket :=
  ⟨bracket.negated, some (operator, joined flags bracket), []⟩

def close (flags : Flags) (bracket : Bracket) : Except Fault Nested := do
  let inner := joined flags bracket
  pure ⟨← flags.negate bracket.negated (flags.fold inner.set), inner.depth + 1⟩

def add (bracket : Bracket) (member : Nested) : Bracket :=
  { bracket with members := member :: bracket.members }

def openDashes (flags : Flags) (negated : Bool) (dashes : List Nested) :
    List Char → Except Fault (Bracket × List Char)
  | [] => throw .classUnclosed
  | c :: rest =>
      if c = '-' then openDashes flags negated (⟨CharSet.single '-', 0⟩ :: dashes) rest
      else if flags.spaced && Text.isBlank c then openDashes flags negated dashes rest
      -- a closing bracket in the first place is a character
      else if dashes.isEmpty && c == ']' then
        pure (⟨negated, none, [⟨CharSet.single ']', 0⟩]⟩, rest)
      else pure (⟨negated, none, dashes⟩, c :: rest)

def start (flags : Flags) (text : List Char) : Except Fault (Bracket × List Char) :=
  match flags.skip text with
  | '^' :: rest => openDashes flags true [] (flags.skip rest)
  | text => openDashes flags false [] text

/-- A class named between colons, after the opening bracket; none where the form is another. -/
def asciiClass? (flags : Flags) (text : List Char) : Option (Except Fault CharSet × List Char) := do
  let (negated, text) ← match text with
    | ':' :: '^' :: rest => some (true, rest)
    | ':' :: rest => some (false, rest)
    | _ => none
  match text.span (· ≠ ':') with
  | (name, ':' :: ']' :: rest) =>
      let set ← CharSet.asciiClass? (String.ofList name)
      some (flags.negate negated (flags.fold set), rest)
  | _ => none

def readMember (flags : Flags) : List Char → Except Fault (Escape × List Char)
  | [] => throw .classUnclosed
  | '\\' :: rest => Escape.read flags rest
  | c :: rest => pure (.character c false, rest)

/-- Without Unicode a member has to be ASCII. -/
def characterSet (flags : Flags) (low high : Char) : Except Fault CharSet :=
  if flags.unicode || high.toNat < 128 then pure (CharSet.between low.toNat high.toNat)
  else throw .beyondAscii

/-- The next sign, seen past blanks and one comment sign. -/
def peek (flags : Flags) (text : List Char) : Option Char :=
  if !flags.spaced then text.head?
  else match text.dropWhile Text.isBlank with
    | '#' :: rest => (rest.dropWhile Text.isBlank).head?
    | rest => rest.head?

def readRange (flags : Flags) (text : List Char) : Except Fault (CharSet × List Char) := do
  let (low, rest) ← readMember flags text
  match flags.skip rest with
  | [] => throw .classUnclosed
  | c :: after =>
      let next := peek flags after
      -- a dash before a closing bracket or another dash begins no range
      if c ≠ '-' ∨ next = some ']' ∨ next = some '-' then
        match low with
        | .character c _ => pure (← characterSet flags c c, flags.skip rest)
        | .members set => pure (set, flags.skip rest)
        | .condition _ => throw .classEscape
      else do
        let (high, rest) ← readMember flags (flags.skip after)
        match low, high with
        | .character low _, .character high _ =>
            if low.toNat ≤ high.toNat then pure (← characterSet flags low high, rest)
            else throw .classRange
        | _, _ => throw .classRangeEnd

def readFrom (flags : Flags) : (fuel : Nat) → Bracket → List Bracket → List Char →
    Except Fault (Nested × List Char)
  -- each round takes a character, so that the length of the text is fuel enough
  | 0, _, _, _ => throw .classUnclosed
  | fuel + 1, bracket, outer, text =>
      match flags.skip text with
      | [] => throw .classUnclosed
      | '[' :: rest =>
          match asciiClass? flags rest with
          | some (set, rest) => do
              readFrom flags fuel (bracket.add ⟨← set, 0⟩) outer rest
          | none => do
              let (inner, rest) ← start flags rest
              readFrom flags fuel inner (bracket :: outer) rest
      | ']' :: rest => do
          let closed ← close flags bracket
          match outer with
          | [] => pure (closed, rest)
          | next :: outer => readFrom flags fuel (next.add closed) outer rest
      | '&' :: '&' :: rest => readFrom flags fuel (withOperator flags bracket .inter) outer rest
      | '-' :: '-' :: rest => readFrom flags fuel (withOperator flags bracket .diff) outer rest
      | '~' :: '~' :: rest => readFrom flags fuel (withOperator flags bracket .symmDiff) outer rest
      | text => do
          let (set, rest) ← readRange flags text
          readFrom flags fuel (bracket.add ⟨set, 0⟩) outer rest

def read (flags : Flags) (text : List Char) : Except Fault (Nested × List Char) := do
  let (bracket, rest) ← start flags text
  readFrom flags (text.length + 1) bracket [] rest

end Bracket

end DataGrid.Pattern
