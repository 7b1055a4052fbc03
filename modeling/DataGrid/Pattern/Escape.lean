import DataGrid.Pattern.Flags
import DataGrid.Pattern.Tree
import DataGrid.Json.Reader
/-!
What a backslash makes of the characters after it: a character, a set or a condition on a place.
-/
namespace DataGrid.Pattern

/-- A character that was written as two hexadecimal digits stands for one byte without Unicode. -/
inductive Escape where
  | character (c : Char) (byte : Bool)
  | members (set : CharSet)
  | condition (look : Look)
  deriving DecidableEq, Repr

namespace Escape

/-- Signs that have a meaning of their own somewhere in a pattern. -/
def isMeta (c : Char) : Bool := "\\.+*?()|[]\x7b\x7d^$#&-~".toList.contains c

def isPlain (c : Char) : Bool :=
  isMeta c || (c.toNat < 128 && !c.isAlphanum && c != '<' && c != '>')

def readHexDigits (flags : Flags) : Nat → List Char → Except Fault (Nat × List Char)
  | 0, text => pure (0, text)
  | digits + 1, text =>
      match flags.skip text with
      | [] => throw .escapeUnfinished
      | c :: rest =>
          match Json.hexValue? c with
          | none => throw .hexDigit
          | some value => do
              let (lower, rest) ← readHexDigits flags digits rest
              pure (value * Nat.pow 16 digits + lower, rest)

def readBracedHex (flags : Flags) : List Char → Except Fault (List Nat × List Char)
  | [] => throw .escapeUnfinished
  | c :: rest =>
      if flags.spaced && Text.isBlank c then readBracedHex flags rest
      else if c = '\x7d' then pure ([], rest)
      else match Json.hexValue? c with
        | none => throw .hexDigit
        | some value => do
            let (digits, rest) ← readBracedHex flags rest
            pure (value :: digits, rest)

def scalar (n : Nat) : Except Fault Char :=
  if n < 0xd800 ∨ (0xe000 ≤ n ∧ n < 0x110000) then pure (Char.ofNat n) else throw .hexCharacter

/-- A character by its number: in braces, or in as many digits as the letter asks for. -/
def readHex (flags : Flags) (digits : Nat) (text : List Char) : Except Fault (Escape × List Char) :=
  match flags.skip text with
  | '\x7b' :: rest => do
      let (values, rest) ← readBracedHex flags rest
      if values.isEmpty then throw .hexEmpty
      let c ← scalar (values.foldl (fun sum value => sum * 16 + value) 0)
      pure (.character c false, flags.skip rest)
  | text => do
      let (n, rest) ← readHexDigits flags digits text
      let c ← scalar n
      pure (.character c (digits = 2), flags.skip rest)

/-- A property with its value: the value follows a sign of inequality, a colon or an equals sign,
looked for in that order. Also tells whether the two shall differ. -/
def splitProperty (name : List Char) : Option (List Char × Bool × List Char) :=
  let rec differing : List Char → Option (List Char × List Char)
    | '!' :: '=' :: rest => some ([], rest)
    | c :: rest => (differing rest).map fun (before, after) => (c :: before, after)
    | [] => none
  let rec upTo (mark : Char) : List Char → Option (List Char × List Char)
    | c :: rest =>
        if c = mark then some ([], rest)
        else (upTo mark rest).map fun (before, after) => (c :: before, after)
    | [] => none
  match differing name, upTo ':' name, upTo '=' name with
  | some (property, value), _, _ => some (property, true, value)
  | none, some (property, value), _ => some (property, false, value)
  | none, none, some (property, value) => some (property, false, value)
  | none, none, none => none

def property (flags : Flags) (negated : Bool) (name : List Char) : Except Fault Escape := do
  let (found, negated) := match splitProperty name with
    | some (property, differs, value) =>
        (Unicode.Lookup.valued? property value, negated != differs)
    | none => (Unicode.Lookup.named? name, negated)
  match found with
  | none => throw .propertyUnknown
  | some set =>
      if !flags.unicode then throw .beyondAscii
      pure (.members (← flags.negate negated (flags.fold set)))

def readProperty (flags : Flags) (negated : Bool) (text : List Char) :
    Except Fault (Escape × List Char) :=
  match flags.skip text with
  | [] => throw .escapeUnfinished
  | '\x7b' :: rest =>
      match rest.span (· ≠ '\x7d') with
      | (_, []) => throw .escapeUnfinished
      | (name, _ :: rest) => do
          let name := if flags.spaced then name.filter fun c => !Text.isBlank c else name
          pure (← property flags negated name, rest)
  | '\\' :: _ => throw .propertyUnnamed
  | c :: rest => do pure (← property flags negated [c], flags.skip rest)

def namedSet (flags : Flags) (negated : Bool) (set : Bool → CharSet) (rest : List Char) :
    Except Fault (Escape × List Char) := do
  pure (.members (← flags.negate negated (set flags.unicode)), rest)

def boundary? : String → Option Boundary
  | "start" => some .start
  | "end" => some .finish
  | "start-half" => some .startHalf
  | "end-half" => some .finishHalf
  | _ => none

def isBoundaryLetter (c : Char) : Bool := c.isAlpha || c == '-'

def readBoundary (flags : Flags) (text : List Char) : Except Fault (Escape × List Char) :=
  match text with
  | '\x7b' :: rest =>
      match flags.skip rest with
      | [] => throw .boundaryUnclosed
      | c :: inside =>
          -- such braces belong to a repetition
          if !isBoundaryLetter c then
            pure (.condition (.word .either flags.unicode), text)
          else
            let isName := fun c => isBoundaryLetter c || (flags.spaced && Text.isBlank c)
            match (c :: inside).span isName with
            | (name, '\x7d' :: rest) =>
                match boundary? (String.ofList (name.filter isBoundaryLetter)) with
                | some boundary => pure (.condition (.word boundary flags.unicode), rest)
                | none => throw .boundaryUnknown
            | _ => throw .boundaryUnclosed
  | _ => pure (.condition (.word .either flags.unicode), text)

def control? : Char → Option Char
  | 'a' => some '\x07'
  | 'f' => some '\x0c'
  | 't' => some '\t'
  | 'n' => some '\n'
  | 'r' => some '\r'
  | 'v' => some '\x0b'
  | _ => none

def read (flags : Flags) : List Char → Except Fault (Escape × List Char)
  | [] => throw .escapeUnfinished
  | c :: rest =>
      if c.isDigit then throw .backReference
      else if isPlain c then pure (.character c false, rest)
      else match control? c with
        | some control => pure (.character control false, rest)
        | none =>
            match c with
            | 'x' => readHex flags 2 rest
            | 'u' => readHex flags 4 rest
            | 'U' => readHex flags 8 rest
            | 'p' => readProperty flags false rest
            | 'P' => readProperty flags true rest
            | 'd' => namedSet flags false CharSet.digits rest
            | 'D' => namedSet flags true CharSet.digits rest
            | 's' => namedSet flags false CharSet.blanks rest
            | 'S' => namedSet flags true CharSet.blanks rest
            | 'w' => namedSet flags false CharSet.words rest
            | 'W' => namedSet flags true CharSet.words rest
            | 'A' => pure (.condition .textStart, rest)
            | 'z' => pure (.condition .textEnd, rest)
            | 'b' => readBoundary flags rest
            | 'B' => pure (.condition (.word .neither flags.unicode), rest)
            | '<' => pure (.condition (.word .start flags.unicode), rest)
            | '>' => pure (.condition (.word .finish flags.unicode), rest)
            | _ => throw .escapeUnknown

end Escape

end DataGrid.Pattern
