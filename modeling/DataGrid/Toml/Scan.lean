/-!
Reading of a text from its start. Where a way of reading misses, others may be tried from the same
place; where it fails, the whole text is refused. Both tell how much of the text was left.
-/
namespace DataGrid.Toml

/-- How reading ends, each with the text that is left. -/
inductive Scanned (α : Type) where
  | done (value : α) (rest : List Char)
  | miss (rest : List Char)
  | fail (rest : List Char)
  deriving DecidableEq, Repr

def Scan (α : Type) := List Char → Scanned α

namespace Scan

variable {α β : Type}

instance : Monad Scan where
  pure value := fun text => .done value text
  bind scan next := fun text =>
    match scan text with
    | .done value rest => next value rest
    | .miss rest => .miss rest
    | .fail rest => .fail rest

def miss : Scan α := fun text => .miss text

def fail : Scan α := fun text => .fail text

def ahead : Scan (List Char) := fun text => .done text text

/-- How much text is still to be read, which tells a place in the text. -/
def place : Scan Nat := fun text => .done text.length text

/-- A miss is a failure here. -/
def must (scan : Scan α) : Scan α := fun text =>
  match scan text with
  | .miss rest => .fail rest
  | scanned => scanned

/-- The second way from the same place where the first one misses. -/
def either (first second : Scan α) : Scan α := fun text =>
  match first text with
  | .miss _ => second text
  | scanned => scanned

def optional (scan : Scan α) : Scan (Option α) := either (some <$> scan) (pure none)

def checked (scan : Scan α) (check : α → Option β) : Scan β := fun text =>
  match scan text with
  | .done value rest =>
      match check value with
      | some result => .done result rest
      -- a refused value is a miss where its reading began
      | none => .miss text
  | .miss rest => .miss rest
  | .fail rest => .fail rest

def peek (scan : Scan α) : Scan α := fun text =>
  match scan text with
  | .done value _ => .done value text
  | scanned => scanned

def one (accept : Char → Bool) : Scan Char := fun text =>
  match text with
  | c :: rest => if accept c then .done c rest else .miss text
  | [] => .miss text

def mark (c : Char) : Scan Unit := (fun _ => ()) <$> one (· == c)

def word (word : List Char) : Scan Unit := fun text =>
  if word.isPrefixOf text then .done () (text.drop word.length) else .miss text

def run (accept : Char → Bool) : Scan (List Char) := fun text =>
  .done (text.takeWhile accept) (text.dropWhile accept)

/-- One character out of some, or more. -/
def run1 (accept : Char → Bool) : Scan (List Char) :=
  checked (run accept) fun word => if word.isEmpty then none else some word

def exactly (count : Nat) (accept : Char → Bool) : Scan (List Char) := fun text =>
  let word := text.take count
  if word.length = count ∧ word.all accept then .done word (text.drop count) else .miss text

/-- Reads over and over, so many times at most, until it misses. -/
def upTo (scan : Scan α) : (fuel : Nat) → Scan (List α)
  | 0 => pure []
  | fuel + 1 => do
      match ← optional scan with
      | none => pure []
      | some value => (value :: ·) <$> upTo scan fuel

-- each round takes one character at least
def many (scan : Scan α) : Scan (List α) := fun text => upTo scan text.length text

/-- One value or more with marks between them. A mark with no value behind it is left alone. -/
def separated (scan : Scan α) (c : Char) : Scan (List α) := do
  let first ← scan
  let more ← many (do
    mark c
    scan)
  pure (first :: more)

end Scan

end DataGrid.Toml
