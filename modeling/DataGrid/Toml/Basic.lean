/-!
Values of a TOML document. A place in it is told by the number of characters from there to the end
of the text. Every key keeps its place, and so does every value, apart from tables that exist only
for the sake of others: those have no header of their own. Dotted tables were written by dotted
keys, and inline tables are closed.
-/
namespace DataGrid

structure Toml.Key where
  place : Nat
  name : String
  deriving DecidableEq, Repr

inductive Toml where
  | string (place : Nat) (text : String)
  | integer (place : Nat) (number : Int)
  | float (place : Nat)
  | boolean (place : Nat) (truth : Bool)
  | dateTime (place : Nat)
  | array (place : Nat) (items : List Toml)
  | inline (place : Nat) (fields : List (Toml.Key × Toml))
  | table (header : Option Nat) (dotted : Bool) (fields : List (Toml.Key × Toml))
  | tables (place : Nat) (elements : List (List (Toml.Key × Toml)))

namespace Toml

abbrev Fields := List (Key × Toml)

def place? : Toml → Option Nat
  | .string place _ | .integer place _ | .float place | .boolean place _ | .dateTime place
  | .array place _ | .inline place _ | .tables place _ => some place
  | .table header _ _ => header

/-- The place of a field's value, or of its key where the value has none. -/
def placeUnder (key : Key) (value : Toml) : Nat := value.place?.getD key.place

structure Draft where
  dotted : Bool
  fields : Fields

namespace Fields

def get? (fields : Fields) (name : String) : Option Toml :=
  (fields.find? fun field => field.1.name == name).map Prod.snd

/-- The fields with a value in the place of the one that a key has, or behind them all. -/
def put : Fields → Key → Toml → Fields
  | [], key, value => [(key, value)]
  | (k, v) :: rest, key, value =>
      if k.name = key.name then (k, value) :: rest else (k, v) :: put rest key value

def remove (fields : Fields) (name : String) : Fields :=
  fields.filter fun field => field.1.name ≠ name

end Fields

def changeLast (change : Fields → Option Fields) : List Fields → Option (List Fields)
  | [] => none
  | [last] => (change last).map fun last => [last]
  | first :: rest => (changeLast change rest).map (first :: ·)

/-- Changes the table at the end of a path. Tables on the way are made where they are missing, as
dotted ones or for a header. -/
def changeAt (dotted : Bool) (change : Draft → Option Draft) : List Key → Draft → Option Draft
  | [], draft => change draft
  | key :: path, draft =>
      match draft.fields.get? key.name with
      | none => do
          let inner ← changeAt dotted change path ⟨dotted, []⟩
          some { draft with
            fields := Fields.put draft.fields key (.table none dotted inner.fields) }
      | some (.table header isDotted fields) =>
          -- dotted keys do not reach into a table that a header has opened
          if dotted && header.isSome then none
          else do
            let inner ← changeAt dotted change path ⟨isDotted, fields⟩
            some { draft with
              fields := Fields.put draft.fields key (.table header isDotted inner.fields) }
      | some (.tables place elements) => do
          -- the last element stands for the array
          let elements ← changeLast
            (fun fields => (changeAt dotted change path ⟨false, fields⟩).map Draft.fields) elements
          some { draft with fields := Fields.put draft.fields key (.tables place elements) }
      | some _ => none

def addField (path : List Key) (key : Key) (value : Toml) (draft : Draft) : Option Draft :=
  -- tables of dotted keys take dotted keys only
  if draft.dotted == path.isEmpty then none
  else if (draft.fields.get? key.name).isSome then none
  else some { draft with fields := draft.fields ++ [(key, value)] }

def putField (path : List Key) (key : Key) (value : Toml) (draft : Draft) : Option Draft :=
  changeAt true (addField path key value) path draft

/-- Opens a table by a header, behind all other fields. One that is there already has to have no
header yet and not to be dotted. -/
def openTable (place : Nat) (key : Key) (draft : Draft) : Option Draft :=
  match draft.fields.get? key.name with
  | none => some { draft with fields := draft.fields ++ [(key, .table (some place) false [])] }
  | some (.table none false fields) =>
      some { draft with
        fields := Fields.remove draft.fields key.name ++ [(key, .table (some place) false fields)] }
  | some _ => none

def openElement (place : Nat) (key : Key) (draft : Draft) : Option Draft :=
  match draft.fields.get? key.name with
  | none => some { draft with fields := draft.fields ++ [(key, .tables place [[]])] }
  | some (.tables first elements) =>
      some { draft with fields := Fields.put draft.fields key (.tables first (elements ++ [[]])) }
  | some _ => none

/-- Adds a field to the table that a header has opened; the header's path leads to it. -/
def putUnder (header path : List Key) (key : Key) (value : Toml) (draft : Draft) : Option Draft :=
  changeAt false (putField path key value) header draft

end Toml

end DataGrid
