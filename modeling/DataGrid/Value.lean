import DataGrid.Double
/-!
The values that documents hold. A number keeps the form it was written in: whole numbers are
integers, all others doubles. The fields of a document keep their order: putting a known key keeps
its place, and removing a key moves the last field into the gap.
-/
namespace DataGrid

/-- An integer, if it lies in the signed 64-bit range. -/
def inInt64 (n : Int) : Option Int :=
  if -0x8000000000000000 ≤ n ∧ n < 0x8000000000000000 then some n else none

/-- Integers lie in the signed or unsigned 64-bit range wherever a value is read or computed. -/
inductive Value where
  | null
  | bool (truth : Bool)
  | int (number : Int)
  | double (number : Double)
  | string (text : String)
  | array (items : List Value)
  | object (fields : List (String × Value))
  deriving Repr

/-- A document is a list of fields, each key once. -/
abbrev Document := List (String × Value)

namespace Value

mutual

def same : Value → Value → Bool
  | .null, .null => true
  | .bool a, .bool b => a == b
  | .int a, .int b => a == b
  | .double a, .double b => a == b
  | .string a, .string b => a == b
  | .array a, .array b => sameItems a b
  | .object a, .object b => sameFields a b
  | _, _ => false

def sameItems : List Value → List Value → Bool
  | [], [] => true
  | a :: as, b :: bs => same a b && sameItems as bs
  | _, _ => false

def sameFields : List (String × Value) → List (String × Value) → Bool
  | [], [] => true
  | (k, a) :: as, (l, b) :: bs => k == l && same a b && sameFields as bs
  | _, _ => false

end

mutual

theorem same_iff : ∀ a b : Value, same a b = true ↔ a = b
  | .null, b => by cases b <;> simp [same]
  | .bool a, b => by cases b <;> simp [same]
  | .int a, b => by cases b <;> simp [same]
  | .double a, b => by cases b <;> simp [same]
  | .string a, b => by cases b <;> simp [same]
  | .array a, b => by cases b <;> simp [same, sameItems_iff a]
  | .object a, b => by cases b <;> simp [same, sameFields_iff a]

theorem sameItems_iff : ∀ a b : List Value, sameItems a b = true ↔ a = b
  | [], b => by cases b <;> simp [sameItems]
  | a :: as, b => by cases b <;> simp [sameItems, same_iff a, sameItems_iff as]

theorem sameFields_iff : ∀ a b : List (String × Value), sameFields a b = true ↔ a = b
  | [], b => by cases b <;> simp [sameFields]
  | (k, a) :: as, b => by
      rcases b with _ | ⟨⟨l, b⟩, bs⟩ <;>
        simp [sameFields, same_iff a, sameFields_iff as]

end

instance : DecidableEq Value := fun a b => decidable_of_iff _ (same_iff a b)

instance : Inhabited Value := ⟨.null⟩

def isArray : Value → Bool
  | .array _ => true
  | _ => false

def isNull : Value → Bool
  | .null => true
  | _ => false

def string? : Value → Option String
  | .string text => some text
  | _ => none

/-- A whole number in the signed 64-bit range. -/
def int64? : Value → Option Int
  | .int n => inInt64 n
  | _ => none

def nat64? : Value → Option Nat
  | .int n => if 0 ≤ n ∧ n < 0x10000000000000000 then some n.toNat else none
  | _ => none

def double? : Value → Option Double
  | .int n => some (.ofInt n)
  | .double x => some x
  | _ => none

/-- The double when it is finite, null otherwise. -/
def ofDouble (x : Double) : Value :=
  match x.finite? with
  | some finite => .double finite
  | none => .null

def single (key : String) (value : Value) : Value := .object [(key, value)]

end Value

namespace Document

def get? : Document → String → Option Value
  | [], _ => none
  | (k, v) :: rest, key => if k = key then some v else get? rest key

def put : Document → String → Value → Document
  | [], key, value => [(key, value)]
  | (k, v) :: rest, key, value =>
      if k = key then (k, value) :: rest else (k, v) :: put rest key value

/-- The last of the fields moves to the front of the others. -/
def lastFirst (fields : Document) : Document :=
  match fields.getLast? with
  | none => []
  | some last => last :: fields.dropLast

def remove : Document → String → Document
  | [], _ => []
  | (k, v) :: rest, key => if k = key then lastFirst rest else (k, v) :: remove rest key

/-- Fields put one after another, so that a repeated key keeps its first place and last value. -/
def ofFields (fields : List (String × Value)) : Document :=
  fields.foldl (fun doc field => put doc field.1 field.2) []

def keys (doc : Document) : List String := doc.map Prod.fst

theorem get?_put_self (doc : Document) (key : String) (value : Value) :
    get? (put doc key value) key = some value := by
  induction doc with
  | nil => simp [put, get?]
  | cons field rest ih =>
      by_cases same : field.1 = key <;> simp [put, get?, same, ih]

theorem get?_put_other (doc : Document) (key other : String) (value : Value)
    (differs : other ≠ key) : get? (put doc key value) other = get? doc other := by
  induction doc with
  | nil => simp [put, get?, differs.symm]
  | cons field rest ih =>
      obtain ⟨k, v⟩ := field
      by_cases same : k = key
      · subst same
        simp [put, get?, differs.symm]
      · simp [put, get?, same, ih]

end Document

end DataGrid
