import DataGrid.Value
/-!
Reading of records. A record is an object whose keys are the names of its fields, or an array of the
fields in their order, which may end early. Further keys of an object count for nothing.
-/
namespace DataGrid.Record

def fields? (names : List String) : Value → Option Document
  | .object fields => some fields
  | .array items => if items.length ≤ names.length then some (names.zip items) else none
  | _ => none

def required {α : Type} (fields : Document) (name : String) (read : Value → Option α) : Option α :=
  (fields.get? name).bind read

def withDefault {α : Type} (fields : Document) (name : String) (read : Value → Option α)
    (default : α) : Option α :=
  match fields.get? name with
  | none => some default
  | some value => read value

/-- A field that may be missing or null. -/
def optional {α : Type} (fields : Document) (name : String) (read : Value → Option α) :
    Option (Option α) :=
  match fields.get? name with
  | none => some none
  | some .null => some none
  | some value => (read value).map some

def list {α : Type} (read : Value → Option α) : Value → Option (List α)
  | .array items => items.mapM read
  | _ => none

def bool? : Value → Option Bool
  | .bool truth => some truth
  | _ => none

def int32? : Value → Option Int
  | .int n => if -0x80000000 ≤ n ∧ n < 0x80000000 then some n else none
  | _ => none

def uint64? (value : Value) : Option UInt64 := value.nat64?.map .ofNat

def present {α : Type} (name : String) (write : α → Value) : Option α → Document
  | none => []
  | some value => [(name, write value)]

def strings (texts : List String) : Value := .array (texts.map .string)

end DataGrid.Record
