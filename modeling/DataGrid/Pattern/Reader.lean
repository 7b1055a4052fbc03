import DataGrid.Pattern.Bracket
import DataGrid.Pattern.Extent
import DataGrid.Pattern.Matching
/-!
Reading of patterns. Switches given inside a group hold to its end, past the bars in it. Reading
gives a tree in which the switches are resolved.
-/
namespace DataGrid.Pattern

/-- A group as far as it is read: finished alternatives and the items of the one at hand, the latest
first, and the switches in force. An empty item is what a change of switches leaves. -/
structure Group where
  capturing : Bool
  flags : Flags
  finished : List Tree
  items : List Tree

namespace Group

def starting (capturing : Bool) (flags : Flags) : Group := ⟨capturing, flags, [], []⟩

def add (group : Group) (item : Tree) : Group := { group with items := item :: group.items }

def alternative (items : List Tree) : Tree :=
  match items with
  | [] => .empty
  | [item] => item
  | items => .concat items.reverse

def nextAlternative (group : Group) : Group :=
  { group with finished := alternative group.items :: group.finished, items := [] }

def tree (group : Group) : Tree :=
  match group.finished with
  | [] => alternative group.items
  | finished => .alternate (alternative group.items :: finished).reverse

def repeated (group : Group) (least : Nat) (most : Option Nat) : Except Fault Group :=
  match group.items with
  | [] => throw .nothingToRepeat
  -- a change of switches cannot be repeated
  | .empty :: _ => throw .nothingToRepeat
  | item :: before => pure { group with items := .times item least most :: before }

end Group

/-- A question mark after a repetition makes it prefer little; whether there is a match stays. -/
def dropLazy : List Char → List Char
  | '?' :: rest => rest
  | text => text

/-- Decimal digits with blanks around them, in 32 bits. -/
def readCount (flags : Flags) (text : List Char) : Except Fault (Nat × List Char) :=
  let isDigit := fun (c : Char) => c.isDigit || (flags.spaced && Text.isBlank c)
  let (digits, rest) := (text.dropWhile Text.isBlank).span isDigit
  match digits.filter Char.isDigit with
  | [] => throw .countEmpty
  | digits =>
      match Text.nat? 0xffffffff digits with
      | none => throw .countTooLarge
      | some n => pure (n, rest.dropWhile Text.isBlank)

def closeCount (flags : Flags) (group : Group) (least : Nat) (most : Option Nat) :
    List Char → Except Fault (Group × List Char)
  | '\x7d' :: rest =>
      match most with
      | some most =>
          if most < least then throw .countDecreasing
          else do pure (← group.repeated least (some most), dropLazy (flags.skip rest))
      | none => do pure (← group.repeated least none, dropLazy (flags.skip rest))
  | _ => throw .countUnclosed

def readCounts (flags : Flags) (group : Group) (text : List Char) :
    Except Fault (Group × List Char) := do
  let (least, rest) ← readCount flags (flags.skip text)
  match flags.skip rest with
  | ',' :: rest =>
      match flags.skip rest with
      | '\x7d' :: rest => closeCount flags group least none ('\x7d' :: rest)
      | rest => do
          let (most, rest) ← readCount flags rest
          closeCount flags group least (some most) (flags.skip rest)
  | rest => closeCount flags group least (some least) rest

def isAlphabetic (c : Char) : Bool := (Unicode.Property.ranges .alphabetic).holds c.toNat

def isNumeric (c : Char) : Bool :=
  (Unicode.ofCategories Unicode.Category.numbers).holds c.toNat

def isName : List Char → Bool
  | [] => false
  | first :: rest =>
      -- digits, points and brackets may follow
      (first == '_' || isAlphabetic first) && rest.all fun c =>
        c == '_' || c == '.' || c == '[' || c == ']' || isAlphabetic c || isNumeric c

/-- A group's name, up to its closing angle; no two groups have the same. -/
def readName (names : List (List Char)) (text : List Char) :
    Except Fault (List Char × List Char) :=
  match text.span (· ≠ '>') with
  | (_, []) => throw .nameUnfinished
  | (name, _ :: rest) =>
      if name.isEmpty then throw .nameEmpty
      else if !isName name then throw .nameInvalid
      else if names.contains name then throw .nameRepeated
      else pure (name, rest)

inductive Opening where
  | switches (flags : Flags)
  | group (capturing : Bool) (flags : Flags) (name : Option (List Char))
  deriving Repr

def readOpening (flags : Flags) (names : List (List Char)) (text : List Char) :
    Except Fault (Opening × List Char) :=
  match flags.skip text with
  | '?' :: '=' :: _ => throw .lookAround
  | '?' :: '!' :: _ => throw .lookAround
  | '?' :: '<' :: '=' :: _ => throw .lookAround
  | '?' :: '<' :: '!' :: _ => throw .lookAround
  | '?' :: 'P' :: '<' :: rest => do
      let (name, rest) ← readName names rest
      pure (.group true flags (some name), rest)
  | '?' :: '<' :: rest => do
      let (name, rest) ← readName names rest
      pure (.group true flags (some name), rest)
  | '?' :: rest => do
      let (changed, any, rest) ← flags.read rest
      match rest with
      | ')' :: rest => if any then pure (.switches changed, rest) else throw .nothingToRepeat
      | rest => pure (.group false changed none, rest.drop 1)
  | rest => pure (.group true flags none, rest)

def lineStart (flags : Flags) : Look :=
  if !flags.multiLine then .textStart
  else if flags.returns then .returnLineStart
  else .lineStart

def lineEnd (flags : Flags) : Look :=
  if !flags.multiLine then .textEnd
  else if flags.returns then .returnLineEnd
  else .lineEnd

/-- A character, an escape or a dot as an item. -/
def readItem (flags : Flags) (c : Char) (rest : List Char) : Except Fault (Tree × List Char) :=
  match c with
  | '\\' => do
      let (escape, rest) ← Escape.read flags rest
      match escape with
      | .character c byte =>
          if byte && !flags.unicode && c.toNat ≥ 128 then throw .beyondAscii
          else pure (.chars (flags.literal c) 0, rest)
      | .members set => pure (.chars set 0, rest)
      | .condition look => pure (.look look, rest)
  | '.' => do pure (.chars (← flags.anyCharacter) 0, rest)
  | '^' => pure (.look (lineStart flags), rest)
  | '$' => pure (.look (lineEnd flags), rest)
  | '[' => do
      let (nested, rest) ← Bracket.read flags rest
      pure (.chars nested.set nested.depth, rest)
  | c => pure (.chars (flags.literal c) 0, rest)

def readFrom : (fuel : Nat) → Group → List Group → (names : List (List Char)) → List Char →
    Except Fault Tree
  -- each round takes a character, so that the length of the text is fuel enough
  | 0, _, _, _, _ => throw .groupUnclosed
  | fuel + 1, group, outer, names, text =>
      let flags := group.flags
      match flags.skip text with
      | [] => if outer.isEmpty then pure group.tree else throw .groupUnclosed
      | '(' :: rest => do
          match ← readOpening flags names rest with
          | (.switches changed, rest) =>
              readFrom fuel { group.add .empty with flags := changed } outer names rest
          | (.group capturing inner name, rest) =>
              readFrom fuel (.starting capturing inner) (group :: outer) (name.toList ++ names) rest
      | ')' :: rest =>
          match outer with
          | [] => throw .groupUnopened
          | next :: outer =>
              readFrom fuel (next.add (.group group.capturing group.tree)) outer names rest
      | '|' :: rest => readFrom fuel group.nextAlternative outer names rest
      | '?' :: rest => do
          readFrom fuel (← group.repeated 0 (some 1)) outer names (dropLazy rest)
      | '*' :: rest => do readFrom fuel (← group.repeated 0 none) outer names (dropLazy rest)
      | '+' :: rest => do readFrom fuel (← group.repeated 1 none) outer names (dropLazy rest)
      | '\x7b' :: rest => do
          let (group, rest) ← readCounts flags group rest
          readFrom fuel group outer names rest
      | c :: rest => do
          let (item, rest) ← readItem flags c rest
          readFrom fuel (group.add item) outer names rest

/-- The tree of a pattern that is neither too deep nor too large. -/
def read (flags : Flags) (pattern : String) : Except Fault Tree := do
  let text := pattern.toList
  let tree ← readFrom (text.length + 1) (.starting false flags) [] [] text
  if tree.depth > depthLimit then throw .tooDeep
  else if !(Extent.fits sizeLimit (.ofTree tree)) then throw .tooLarge
  else pure tree

def compile (pattern : String) (ignoreCase : Bool) : Except String (String → Bool) :=
  match read { ignoreCase := ignoreCase } pattern with
  | .ok tree => .ok fun text => tree.foundIn text.toList
  | .error fault => .error (fault.message pattern)

end DataGrid.Pattern
