import DataGrid.Pipeline.DateUnit
import DataGrid.Pipeline.Stage
import DataGrid.Value.Path
/-!
References to a calendar part of a stored date, written as the date field, a dot and a unit. The
parts are computed into fields of their own ahead of a match and removed after it.
-/
namespace DataGrid

structure DatePart where
  base : String
  /-- The unit as it was written, which the name of the computed field keeps. -/
  unitName : String
  unit : DateUnit
  deriving DecidableEq, Repr

namespace DatePart

def ofName? (name : String) : Option DatePart := do
  let (base, unitName) ← Path.splitFirst name
  if base = "" ∨ '.' ∈ unitName.toList then none
  else
    let unit ← DateUnit.ofName? unitName
    if unit.isReferable then some ⟨base, unitName, unit⟩ else none

def computedName (part : DatePart) : String := "___" ++ part.base ++ "_" ++ part.unitName

/-- Where the month plus two of a quarter is kept. -/
def quarterName (part : DatePart) : String := "___" ++ part.base ++ "_mp2"

/-- The field that a match has to look at for a field of a filter. -/
def matchName (field : String) : String := ((ofName? field).map computedName).getD field

end DatePart

/-- Fields computed in a first and in a second stage, and the names of all of them, each once. -/
structure DateParts where
  first : Document
  second : Document
  names : List String
  deriving DecidableEq, Repr

namespace DateParts

def none : DateParts := ⟨[], [], []⟩

def track (names : List String) (name : String) : List String :=
  if names.contains name then names else names ++ [name]

def add (offset : Int) (parts : DateParts) (part : DatePart) : DateParts :=
  let time := Term.localTime part.base offset
  match part.unit.extract? time with
  | some expression =>
      ⟨parts.first.put part.computedName expression, parts.second,
        track parts.names part.computedName⟩
  -- the quarter, whose second stage reads what the first one stored
  | Option.none =>
      ⟨parts.first.put part.quarterName (DateUnit.monthPlusTwo time),
        parts.second.put part.computedName (DateUnit.quarterFrom part.quarterName),
        track (track parts.names part.quarterName) part.computedName⟩

def ofFields (offset : Int) (fields : List String) : DateParts :=
  (fields.filterMap DatePart.ofName?).foldl (add offset) none

def stages (parts : DateParts) : Pipeline :=
  -- empty stages are left out
  ([parts.first, parts.second].filter fun fields => !fields.isEmpty).map .addFields

def removal (names : List String) : Pipeline :=
  if names.isEmpty then []
  else [.project (Document.ofFields (names.map fun name => (name, .int 0)))]

end DateParts

end DataGrid
