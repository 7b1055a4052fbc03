import DataGrid.Pattern.Bytes
import DataGrid.Pattern.Tree
/-!
Patterns in normal form, as an automaton is built from them. Neighbouring characters are one
literal, a choice between single characters is a set, parts that cover nothing are left out, and a
choice begins with what all its parts have in common.
-/
namespace DataGrid.Pattern

inductive Form where
  | empty
  | literal (points : List Nat)
  | chars (set : CharSet) (code : ByteCode)
  | look (condition : Look)
  | capture (inner : Form)
  | concat (parts : List Form)
  | alternate (parts : List Form)
  | times (inner : Form) (least : Nat) (most : Option Nat)

namespace Form

def ofSet : CharSet → Form
  | [(low, high)] =>
      if low = high then .literal [low] else .chars [(low, high)] (.ofSet [(low, high)])
  | set => .chars set (.ofSet set)

mutual

/-- The length in bytes of the shortest stretch; none where no stretch is covered. -/
def shortest : Form → Option Nat
  | .empty => some 0
  | .literal points => some (points.flatMap Bytes.encode).length
  | .chars set _ => set.head?.map fun range => (Bytes.encode range.1).length
  | .look _ => some 0
  | .capture inner => shortest inner
  | .concat parts => shortestSum parts
  | .alternate parts => shortestOf parts
  | .times inner least _ => (shortest inner).map (· * least)

def shortestSum : List Form → Option Nat
  | [] => some 0
  | part :: rest => do pure ((← shortest part) + (← shortestSum rest))

def shortestOf : List Form → Option Nat
  | [] => none
  | [part] => shortest part
  | part :: rest => do pure (min (← shortest part) (← shortestOf rest))

end

mutual

/-- Whether no stretch takes a character, as far as the parts tell by themselves. -/
def isZeroWidth : Form → Bool
  | .empty => true
  | .literal _ => false
  | .chars _ _ => false
  | .look _ => true
  | .capture inner => isZeroWidth inner
  | .concat parts => areZeroWidth parts
  | .alternate parts => areZeroWidth parts
  | .times inner _ most => most.isSome && isZeroWidth inner

def areZeroWidth : List Form → Bool
  | [] => true
  | part :: rest => isZeroWidth part && areZeroWidth rest

end

mutual

/-- Whether a match can begin where a condition holds only: it stands in every part of a choice, and
before everything else that takes a character. -/
def beginsWith (condition : Look) : Form → Bool
  | .look here => here == condition
  | .capture inner => beginsWith condition inner
  | .concat parts => anyBeginsWith condition parts
  | .alternate parts => allBeginWith condition parts
  | .times inner least _ => least > 0 && beginsWith condition inner
  | _ => false

def anyBeginsWith (condition : Look) : List Form → Bool
  | [] => false
  | part :: rest =>
      beginsWith condition part || (isZeroWidth part && anyBeginsWith condition rest)

def allBeginWith (condition : Look) : List Form → Bool
  | [] => true
  | part :: rest => beginsWith condition part && allBeginWith condition rest

end

mutual

/-- Whether a match can end where a condition holds only. -/
def endsWith (condition : Look) : Form → Bool
  | .look here => here == condition
  | .capture inner => endsWith condition inner
  | .concat parts => anyEndsWith condition parts
  | .alternate parts => allEndWith condition parts
  | .times inner least _ => least > 0 && endsWith condition inner
  | _ => false

def anyEndsWith (condition : Look) : List Form → Bool
  | [] => false
  | part :: rest =>
      anyEndsWith condition rest || (areZeroWidth rest && endsWith condition part)

def allEndWith (condition : Look) : List Form → Bool
  | [] => true
  | part :: rest => endsWith condition part && allEndWith condition rest

end

mutual

def same : Form → Form → Bool
  | .empty, .empty => true
  | .literal points, .literal others => points == others
  | .chars set _, .chars other _ => set == other
  | .look condition, .look other => condition == other
  | .concat parts, .concat others => allSame parts others
  | .alternate parts, .alternate others => allSame parts others
  | .times inner least most, .times other otherLeast otherMost =>
      same inner other && least == otherLeast && most == otherMost
  -- no two captures are the same
  | _, _ => false

def allSame : List Form → List Form → Bool
  | [], [] => true
  | part :: rest, other :: others => same part other && allSame rest others
  | _, _ => false

end

def repeated (inner : Form) (least : Nat) (most : Option Nat) : Form :=
  let (least, most) :=
    -- once is enough for what takes no character
    if isZeroWidth inner then (min least 1, some (min (most.getD 1) 1)) else (least, most)
  if most = some 0 then .empty
  else if least = 1 ∧ most = some 1 then inner
  else .times inner least most

def joinLiterals : List Form → List Form
  | [] => []
  | part :: rest =>
      match part, joinLiterals rest with
      | .literal points, .literal more :: rest => .literal (points ++ more) :: rest
      | part, rest => part :: rest

def parts : Form → List Form
  | .empty => []
  | .concat parts => parts
  | form => [form]

def sequence (forms : List Form) : Form :=
  match joinLiterals (forms.flatMap parts) with
  | [] => .empty
  | [form] => form
  | forms => .concat forms

def choices : Form → List Form
  | .alternate parts => parts
  | form => [form]

/-- The set of a single character or of a set. -/
def point? : Form → Option CharSet
  | .literal [point] => some [(point, point)]
  | _ => none

def set? : Form → Option CharSet
  | .chars set _ => some set
  | _ => none

def concatenated? : Form → Option (List Form)
  | .concat parts => some parts
  | _ => none

def commonLength : List Form → List Form → Nat
  | part :: rest, other :: others => if same part other then commonLength rest others + 1 else 0
  | _, _ => 0

/-- How many parts all of some sequences have in common at their beginning. -/
def sharedLength : List (List Form) → Nat
  | [] => 0
  | first :: rest =>
      rest.foldl (fun length parts => min length (commonLength first parts)) first.length

def choiceWith : (fuel : Nat) → List Form → Form
  | fuel, forms =>
      match forms.flatMap choices with
      | [] => ofSet []
      | [form] => form
      | forms =>
          match forms.mapM point?, forms.mapM set?, forms.mapM concatenated?, fuel with
          | some points, _, _, _ => ofSet (.unionAll points)
          | none, some sets, _, _ => ofSet (.unionAll sets)
          | none, none, some sequences, fuel + 1 =>
              -- each round takes a common beginning off all sequences
              let length := sharedLength sequences
              if length = 0 then .alternate forms
              else
                let shared := (sequences.headD []).take length
                let rests := sequences.map fun parts => sequence (parts.drop length)
                sequence (shared ++ [choiceWith fuel rests])
          | none, none, _, _ => .alternate forms

def choice (forms : List Form) : Form :=
  choiceWith ((forms.flatMap parts).length + 1) forms

mutual

def ofTree : Tree → Form
  | .empty => .empty
  | .chars set _ => ofSet set
  | .look condition => .look condition
  | .group capturing inner => if capturing then .capture (ofTree inner) else ofTree inner
  | .concat parts => sequence (ofTrees parts)
  | .alternate parts => choice (ofTrees parts)
  | .times inner least most => repeated (ofTree inner) least most

def ofTrees : List Tree → List Form
  | [] => []
  | tree :: rest => ofTree tree :: ofTrees rest

end

end Form

end DataGrid.Pattern
