import DataGrid.Pattern.CharSet
import DataGrid.Pattern.Fault
/-!
The switches of a pattern, their letters, and what they make of characters and sets. Blanks and
comments count for nothing while the spaced switch is on.
-/
namespace DataGrid.Pattern

inductive Flag where
  | ignoreCase | multiLine | dotAll | swapGreed | unicode | returns | spaced
  deriving DecidableEq, Repr

def Flag.ofLetter? : Char → Option Flag
  | 'i' => some .ignoreCase
  | 'm' => some .multiLine
  | 's' => some .dotAll
  | 'U' => some .swapGreed
  | 'u' => some .unicode
  | 'R' => some .returns
  | 'x' => some .spaced
  | _ => none

structure Flags where
  ignoreCase : Bool := false
  multiLine : Bool := false
  dotAll : Bool := false
  unicode : Bool := true
  returns : Bool := false
  spaced : Bool := false
  deriving DecidableEq, Repr

namespace Flags

def set (flags : Flags) (flag : Flag) (on : Bool) : Flags :=
  match flag with
  | .ignoreCase => { flags with ignoreCase := on }
  | .multiLine => { flags with multiLine := on }
  | .dotAll => { flags with dotAll := on }
  -- greed decides which match is found, not whether there is one
  | .swapGreed => flags
  | .unicode => { flags with unicode := on }
  | .returns => { flags with returns := on }
  | .spaced => { flags with spaced := on }

/-- Letters up to a colon or a closing parenthesis; a dash switches off what follows it. The seen
letters may not come again. Also tells whether there were any. -/
def readFrom (flags : Flags) (seen : List Flag) (on dangling : Bool) :
    List Char → Except Fault (Flags × Bool × List Char)
  | [] => throw .flagUnfinished
  | c :: rest =>
      if c = ':' ∨ c = ')' then
        if dangling then throw .flagNegationDangling
        else pure (flags, !seen.isEmpty, c :: rest)
      else if c = '-' then
        if on then readFrom flags seen false true rest else throw .flagNegationRepeated
      else match Flag.ofLetter? c with
        | none => throw .flagUnknown
        | some flag =>
            if seen.contains flag then throw .flagRepeated
            else readFrom (flags.set flag on) (flag :: seen) on false rest

def read (flags : Flags) (text : List Char) : Except Fault (Flags × Bool × List Char) :=
  readFrom flags [] true false text

def dropSpaced (inComment : Bool) : List Char → List Char
  | [] => []
  | c :: rest =>
      if inComment then dropSpaced (c != '\n') rest
      else if Text.isBlank c then dropSpaced false rest
      else if c = '#' then dropSpaced true rest
      else c :: rest

def skip (flags : Flags) (text : List Char) : List Char :=
  if flags.spaced then dropSpaced false text else text

/-- Letter case is ignored before a set is negated. -/
def fold (flags : Flags) (set : CharSet) : CharSet :=
  if !flags.ignoreCase then set
  else if flags.unicode then Unicode.Folding.close set
  else .inter CharSet.ascii (Unicode.Folding.close set)

def negate (flags : Flags) (negated : Bool) (set : CharSet) : Except Fault CharSet :=
  if !negated then pure set
  else if flags.unicode then pure (.complement set)
  -- every complement reaches beyond ASCII
  else throw .beyondAscii

def literal (flags : Flags) (c : Char) : CharSet :=
  -- without Unicode only ASCII letters have a case
  if flags.unicode || c.toNat < 128 then flags.fold (CharSet.single c) else CharSet.single c

def anyCharacter (flags : Flags) : Except Fault CharSet :=
  if !flags.unicode then throw .beyondAscii
  else if flags.dotAll then pure .everything
  else if flags.returns then pure (.complement [(10, 10), (13, 13)])
  else pure (.complement (CharSet.single '\n'))

end Flags

end DataGrid.Pattern
