import DataGrid.Pattern.Form
/-!
How much room the automata of a pattern take. A pattern has two of them, one that reads the bytes of
a text forward and one that reads them backward. They are not built here: only their states are
counted, and what the states hold.

States are numbered in the order of their making. Equal states of a set of characters are made once,
as long as the table that remembers them keeps them.
-/
namespace DataGrid.Pattern

/-- The states made so far, and the bytes that they hold beside their own. -/
structure Extent where
  states : Nat
  held : Nat
  deriving DecidableEq, Repr

namespace Extent

def bytes (extent : Extent) : Nat := 32 * extent.states + extent.held

def state (extent : Extent) : Extent := { extent with states := extent.states + 1 }

def branching (transitions : Nat) (extent : Extent) : Extent :=
  ⟨extent.states + 1, extent.held + 8 * transitions⟩

/-- More ways out of states that choose between ways. -/
def ways (count : Nat) (extent : Extent) : Extent :=
  { extent with held := extent.held + 4 * count }

/-- A way on from an end; it takes room where the end is a state that chooses. -/
def follow (choosing : Bool) (extent : Extent) : Extent :=
  if choosing then extent.ways 1 else extent

/-- A way on for a range of bytes, to the state with a number. -/
structure Transition where
  low : Nat
  high : Nat
  next : Nat
  deriving DecidableEq, Repr

/-- States that are remembered by a key, each at one place of a table; a later one drives it out. -/
structure Memory (κ : Type) where
  places : Array (Option (κ × Nat))

namespace Memory

variable {κ : Type}

def ofSize (size : Nat) : Memory κ := ⟨Array.replicate size none⟩

def place (memory : Memory κ) (hash : UInt64) : Nat :=
  (hash % memory.places.size.toUInt64).toNat

@[specialize] def find? [BEq κ] (memory : Memory κ) (hash : UInt64) (key : κ) : Option Nat :=
  match memory.places[memory.place hash]? with
  | some (some (found, number)) => if found == key then some number else none
  | _ => none

def keep (memory : Memory κ) (hash : UInt64) (key : κ) (number : Nat) : Memory κ :=
  ⟨memory.places.setIfInBounds (memory.place hash) (some (key, number))⟩

end Memory

def mix (hash : UInt64) (part : Nat) : UInt64 := (hash ^^^ part.toUInt64) * 1099511628211

def seed : UInt64 := 14695981039346656037

mutual

/-- A tree of byte ranges whose leaves lead to a state, and the number of its own state. The states
behind a state come first. -/
def addTree (target : Nat) : ByteTree → Memory (List Transition) → Extent →
    Nat × Memory (List Transition) × Extent
  | .leaf, memory, extent => (target, memory, extent)
  | .node branches, memory, extent =>
      let (key, memory, extent) := addBranches target branches memory extent
      let hash := key.foldl
        (fun hash transition =>
          mix (mix (mix hash transition.low) transition.high) transition.next) seed
      match memory.find? hash key with
      | some number => (number, memory, extent)
      | none =>
          (extent.states, memory.keep hash key extent.states, extent.branching branches.length)

def addBranches (target : Nat) : List (ByteRange × ByteTree) → Memory (List Transition) →
    Extent → List Transition × Memory (List Transition) × Extent
  | [], memory, extent => ([], memory, extent)
  | ((low, high), tree) :: rest, memory, extent =>
      let (next, memory, extent) := addTree target tree memory extent
      let (key, memory, extent) := addBranches target rest memory extent
      (⟨low, high, next⟩ :: key, memory, extent)

end

/-- A sequence read backward: every range has a state of its own, which leads to the one before. -/
def addSequence : List ByteRange → (before : Nat) → Memory Transition → Extent →
    Memory Transition × Extent
  | [], _, memory, extent => (memory, extent)
  | (low, high) :: rest, before, memory, extent =>
      let key : Transition := ⟨low, high, before⟩
      let hash := mix (mix (mix seed before) low) high
      match memory.find? hash key with
      | some number => addSequence rest number memory extent
      | none =>
          addSequence rest extent.states (memory.keep hash key extent.states) extent.state

def addSequences (before : Nat) : List (List ByteRange) → Memory Transition → Extent → Extent
  | [], _, extent => extent
  | sequence :: rest, memory, extent =>
      let (memory, extent) := addSequence sequence before memory extent
      addSequences before rest memory extent

/-- How many states are remembered, forward and backward. -/
def memorySize (backward : Bool) : Nat := if backward then 1000 else 10000

def addCode (backward : Bool) (code : ByteCode) (extent : Extent) : Extent :=
  match code with
  | .ascii ranges => extent.state.branching ranges
  | .wide sequences tree =>
      if backward then
        let extent :=
          addSequences (extent.states + 1) sequences (.ofSize (memorySize true)) extent.state.state
        extent.ways sequences.length
      else
        let (_, _, extent) :=
          addTree extent.states tree (.ofSize (memorySize false)) extent.state
        extent

/-- Literals by their bytes. Branches come in groups: a group is closed where a literal ends, for
what is added later comes after that literal. -/
inductive LiteralTree where
  | node (closed : List (List (Nat × LiteralTree))) (latest : List (Nat × LiteralTree))

namespace LiteralTree

/-- The branch of a byte changed; a new one where there is none. -/
def change (byte : Nat) (next : LiteralTree → LiteralTree) :
    List (Nat × LiteralTree) → List (Nat × LiteralTree)
  | [] => [(byte, next (.node [] []))]
  | (other, tree) :: rest =>
      if other = byte then (other, next tree) :: rest else (other, tree) :: change byte next rest

def insert : List Nat → LiteralTree → LiteralTree
  | [], .node closed latest =>
      -- the literal ends here already, and nothing goes on behind it
      if closed ≠ [] ∧ closed.all List.isEmpty ∧ latest.isEmpty then .node closed latest
      else .node (closed ++ [latest]) []
  | byte :: rest, .node closed latest => .node closed (change byte (insert rest) latest)

end LiteralTree

def group (size : Nat) (extent : Extent) : Extent :=
  match size with
  | 0 => extent
  -- one branch alone needs no list of transitions
  | 1 => extent.state
  | size => extent.branching size

mutual

def addLiterals : LiteralTree → Extent → Extent
  | .node closed latest, extent =>
      let filled := (closed ++ [latest]).filter (!·.isEmpty)
      -- a leaf has no state of its own
      if filled.isEmpty then extent
      else
        let extent := addGroups closed extent
        let extent := group latest.length (addBranchesOf latest extent)
        extent.state.ways (filled.length + closed.length)

def addGroups : List (List (Nat × LiteralTree)) → Extent → Extent
  | [], extent => extent
  | branches :: rest, extent =>
      addGroups rest (group branches.length (addBranchesOf branches extent))

def addBranchesOf : List (Nat × LiteralTree) → Extent → Extent
  | [], extent => extent
  | (_, tree) :: rest, extent => addBranchesOf rest (addLiterals tree extent)

end

/-- Copies one after the other, so many unless the limit is passed before. The second component
tells whether the end is a state that chooses. -/
def copies (limit : Nat) (add : Extent → Extent × Bool) :
    (count : Nat) → Extent × Bool → Extent × Bool
  | 0, built => built
  | count + 1, (extent, choosing) =>
      if extent.bytes > limit then (extent, choosing)
      else
        let (extent, next) := add extent
        copies limit add count (extent.follow choosing, next)

def exactly (limit : Nat) (add : Extent → Extent × Bool) (count : Nat) (extent : Extent) :
    Extent × Bool :=
  -- a state of its own stands for no copy
  if count = 0 then (extent.state, false) else copies limit add count (extent, false)

/-- A repetition of a form, given how the form is added and whether it takes a character always. -/
def addTimes (limit : Nat) (add : Extent → Extent × Bool) (takes : Bool) (least : Nat)
    (most : Option Nat) (extent : Extent) : Extent × Bool :=
  match least, most with
  | 0, some 1 =>
      let (extent, choosing) := add extent.state
      ((extent.state.ways 2).follow choosing, false)
  | 0, none =>
      if takes then
        let (extent, choosing) := add extent.state
        ((extent.ways 1).follow choosing, true)
      else
        let (extent, choosing) := add extent
        ((extent.state.state.state.ways 4).follow choosing, false)
  | least + 1, none =>
      let (extent, before) := copies limit add least (extent, false)
      let (extent, choosing) := add extent
      (((extent.state.ways 1).follow before).follow choosing, true)
  | least, some most =>
      let (extent, before) := exactly limit add least extent
      if most ≤ least then (extent, before)
      else
        let optionally := fun (extent : Extent) =>
          let (extent, choosing) := add extent.state
          (extent.ways 2, choosing)
        let (extent, choosing) := copies limit optionally (most - least) (extent.state, before)
        (extent.follow choosing, false)

def literal? : Form → Option (List Nat)
  | .literal points => some (points.flatMap Bytes.encode)
  | _ => none

mutual

/-- The states of a form, up to a limit, and whether the last of them chooses. -/
def add (limit : Nat) (backward : Bool) : Form → Extent → Extent × Bool
  | .empty, extent => (extent.state, false)
  | .literal points, extent =>
      let length := (points.flatMap Bytes.encode).length
      ({ extent with states := extent.states + length }, false)
  | .chars _ code, extent => (addCode backward code extent, false)
  | .look _, extent => (extent.state, false)
  | .capture inner, extent =>
      if backward then add limit backward inner extent
      else
        let (extent, choosing) := add limit backward inner extent.state
        (extent.state.follow choosing, false)
  | .concat parts, extent => addParts limit backward parts (extent, false)
  | .alternate parts, extent =>
      match parts.mapM literal? with
      | some literals =>
          let tree := literals.foldl
            (fun tree literal =>
              tree.insert (if backward then literal.reverse else literal)) (LiteralTree.node [] [])
          (addLiterals tree extent.state, false)
      | none => (addChoice limit backward parts 0 extent, false)
  | .times inner least most, extent =>
      addTimes limit (fun extent => add limit backward inner extent)
        ((Form.shortest inner).any (0 < ·)) least most extent

def addParts (limit : Nat) (backward : Bool) : List Form → Extent × Bool → Extent × Bool
  | [], built => built
  | part :: rest, built =>
      if backward then
        let (extent, before) := addParts limit backward rest built
        let (extent, choosing) := add limit backward part extent
        (extent.follow before, choosing)
      else
        let (extent, choosing) := add limit backward part built.1
        addParts limit backward rest (extent.follow built.2, choosing)

def addChoice (limit : Nat) (backward : Bool) : List Form → (index : Nat) → Extent → Extent
  | [], _, extent => extent
  | part :: rest, index, extent =>
      let (extent, choosing) := add limit backward part extent
      let extent := (extent.ways 1).follow choosing
      -- the states that choose and that end the choice come after its first two parts
      addChoice limit backward rest (index + 1) (if index = 1 then extent.state.state else extent)

end

/-- What goes before a form: an automaton that may start anywhere skips bytes first. -/
def prelude (anchored : Bool) : Extent := if anchored then ⟨1, 0⟩ else ⟨3, 16⟩

def forward (limit : Nat) (form : Form) : Extent :=
  (add limit false (.capture form) (prelude (form.beginsWith .textStart))).1.state

def backward (limit : Nat) (form : Form) : Extent :=
  let (extent, choosing) := add limit true form (prelude (form.endsWith .textEnd))
  extent.state.follow choosing

mutual

/-- Bytes that suffice for a form in either direction, when nothing is made only once. -/
def enough : Form → Nat
  | .empty => 32
  | .literal points => 32 * (points.flatMap Bytes.encode).length
  | .chars _ (.ascii ranges) => 64 + 8 * ranges
  | .chars _ (.wide sequences _) => 64 + 44 * sequences.flatten.length
  | .look _ => 32
  | .capture inner => enough inner + 68
  | .concat parts => enoughForAll parts
  | .alternate parts => 3 * enoughForAll parts + 64
  | .times inner least most => max 1 (most.getD least) * (enough inner + 48) + 128

def enoughForAll : List Form → Nat
  | [] => 0
  | part :: rest => enough part + 64 + enoughForAll rest

end

/-- Whether both automata of a form stay within a limit. -/
def fits (limit : Nat) (form : Form) : Bool :=
  enough form + 256 ≤ limit ||
    ((forward limit form).bytes ≤ limit && (backward limit form).bytes ≤ limit)

end Extent

end DataGrid.Pattern
