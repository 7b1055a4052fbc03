import DataGrid.Value
/-!
Groups as a call returns them. A group that holds rows or groups is counted by them; a leaf has no
items and a count from the store.
-/
namespace DataGrid

inductive Group where
  | leaf (key : Value) (count : Nat) (summary : Option (List Value))
  | rows (key : Value) (count : Nat) (items : List Document) (summary : Option (List Value))
  | groups (key : Value) (count : Nat) (items : List Group) (summary : Option (List Value))

namespace Group

def counted (key : Value) (number : Nat) : Group := .leaf key number none

def ofRows (key : Value) (items : List Document) : Group := .rows key items.length items none

def ofGroups (key : Value) (items : List Group) : Group := .groups key items.length items none

def withSummary (summary : Option (List Value)) : Group → Group
  | .leaf key number _ => .leaf key number summary
  | .rows key number items _ => .rows key number items summary
  | .groups key number items _ => .groups key number items summary

def withCount (number : Nat) : Group → Group
  | .leaf key _ summary => .leaf key number summary
  | .rows key _ items summary => .rows key number items summary
  | .groups key _ items summary => .groups key number items summary

def key : Group → Value
  | .leaf key _ _ | .rows key _ _ _ | .groups key _ _ _ => key

def size : Group → Nat
  | .leaf _ number _ | .rows _ number _ _ | .groups _ number _ _ => number

def summary : Group → Option (List Value)
  | .leaf _ _ summary | .rows _ _ _ summary | .groups _ _ _ summary => summary

def groups? : Group → Option (List Group)
  | .groups _ _ items _ => some items
  | _ => none

def rows? : Group → Option (List Document)
  | .rows _ _ items _ => some items
  | _ => none

mutual

/-- Whether count and items agree here and everywhere below. -/
def isConsistent : Group → Bool
  | .leaf _ _ _ => true
  | .rows _ number items _ => items.length == number
  | .groups _ number items _ => items.length == number && areConsistent items

def areConsistent : List Group → Bool
  | [] => true
  | group :: rest => isConsistent group && areConsistent rest

end

def summaryField : Option (List Value) → Document
  | some values => [("summary", .array values)]
  | none => []

def record (key : Value) (number : Nat) (items : Value) (summary : Option (List Value)) : Value :=
  .object ([("key", key), ("count", .int number), ("items", items)] ++ summaryField summary)

mutual

def toValue : Group → Value
  | .leaf key number summary => record key number .null summary
  | .rows key number items summary => record key number (.array (items.map .object)) summary
  | .groups key number items summary => record key number (.array (toValues items)) summary

def toValues : List Group → List Value
  | [] => []
  | group :: rest => toValue group :: toValues rest

end

end Group

end DataGrid
