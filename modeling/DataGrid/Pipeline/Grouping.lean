import DataGrid.Store.Expression
import DataGrid.Value.Order
/-!
Grouping of documents. Each document yields a key and the operands of the accumulators; documents
with equal keys form one group, in the order in which keys are first seen, under the first such key.
An accumulator is a fold over the operands of its group in document order.
-/
namespace DataGrid

inductive Accumulator where
  | sum | avg | min | max | push
  deriving DecidableEq, Repr

namespace Accumulator

def ofName? : String → Option Accumulator
  | "$sum" => some .sum
  | "$avg" => some .avg
  | "$min" => some .min
  | "$max" => some .max
  | "$push" => some .push
  | _ => none

/-- A running sum: exact while all terms are integers that 64 bits can add, and beside it the sum in
doubles as long as it is finite. -/
structure Total where
  whole : Option Int
  rough : Option Double
  deriving DecidableEq, Repr

def Total.none : Total := ⟨some 0, some .zero⟩

def Total.add (total : Total) (value : Value) : Total :=
  match value.double? with
  -- what is no number adds nothing
  | .none => total
  | .some x =>
      { whole := total.whole.bind fun m => value.int64?.bind fun n => inInt64 (m + n)
        rough := total.rough.bind fun y => (y.add x).finite? }

def total (values : List Value) : Total := values.foldl Total.add .none

def Total.value (total : Total) : Value :=
  match total.whole, total.rough with
  | .some n, _ => .int n
  | .none, .some x => .double x
  | .none, .none => .null

def numbers (values : List Value) : List Double := values.filterMap Value.double?

/-- The sum of the numbers, in doubles, over their count; null when there are none. -/
def average (values : List Value) : Value :=
  let count := (numbers values).length
  match (total values).rough with
  | .none => .null
  | .some x => if count = 0 then .null else .ofDouble (x.div (.ofNat count))

/-- The first value that no later one beats. -/
def best (beats : Ordering) : Option Value → List Value → Option Value
  | champion, [] => champion
  | .none, value :: rest => best beats (some value) rest
  | .some champion, value :: rest =>
      best beats (some (if value.compare champion == beats then value else champion)) rest

def extreme (beats : Ordering) (values : List Value) : Value :=
  (best beats .none (values.filter fun value => !value.isNull)).getD .null

def result (accumulator : Accumulator) (values : List Value) : Value :=
  match accumulator with
  | .sum => (total values).value
  | .avg => average values
  | .min => extreme .lt values
  | .max => extreme .gt values
  | .push => .array values

end Accumulator

namespace Grouping

structure Column where
  field : String
  operator : String
  operand : Value
  deriving DecidableEq, Repr

def column (field : String) (spec : Value) : StoreResult Column :=
  match spec with
  | .object [(operator, operand)] => pure ⟨field, operator, operand⟩
  | _ => throw (.invalidExpression (.accumulator field))

def columns : Document → StoreResult (List Column)
  | [] => pure []
  | (field, spec) :: rest =>
      if field = "_id" then columns rest
      else do
        let first ← column field spec
        let others ← columns rest
        pure (first :: others)

def accumulators : List Column → StoreResult (List Accumulator)
  | [] => pure []
  | column :: rest =>
      match Accumulator.ofName? column.operator with
      | none => throw (.unsupportedOperator column.operator)
      | some accumulator => do pure (accumulator :: (← accumulators rest))

/-- What a document brings to its group: the key, and one operand for each column. -/
structure Entry where
  key : Value
  operands : List Value
  deriving DecidableEq, Repr

def entry (id : Value) (columns : List Column) (doc : Document) : StoreResult Entry := do
  let key ← Expression.evaluate (.object doc) id
  -- looked up after the key, so that an unknown one is met only when there is a document
  let _ ← accumulators columns
  let operands ← columns.mapM fun column => Expression.evaluate (.object doc) column.operand
  pure ⟨key, operands⟩

structure Bucket where
  key : Value
  rows : List (List Value)
  deriving DecidableEq, Repr

/-- The row joins the first bucket with an equal key, or opens one at the end. -/
def insert : List Bucket → Entry → List Bucket
  | [], entry => [⟨entry.key, [entry.operands]⟩]
  | bucket :: rest, entry =>
      if bucket.key.equal entry.key then ⟨bucket.key, bucket.rows ++ [entry.operands]⟩ :: rest
      else bucket :: insert rest entry

def buckets (entries : List Entry) : List Bucket := entries.foldl insert []

def operandsOf (rows : List (List Value)) (index : Nat) : List Value :=
  rows.map fun row => row.getD index .null

def results (rows : List (List Value)) : Nat → List (Column × Accumulator) → Document
  | _, [] => []
  | index, (column, accumulator) :: rest =>
      (column.field, accumulator.result (operandsOf rows index)) :: results rows (index + 1) rest

def Bucket.document (columns : List (Column × Accumulator)) (bucket : Bucket) : Document :=
  ("_id", bucket.key) :: results bucket.rows 0 columns

def group (spec : Document) (docs : List Document) : StoreResult (List Document) :=
  match Document.get? spec "_id" with
  | none => throw (.invalidExpression .missingGroupId)
  | some id => do
      let columns ← columns spec
      let entries ← docs.mapM (entry id columns)
      match entries with
      -- an unknown accumulator goes unnoticed here
      | [] => pure []
      | entries => do
          let accumulators ← accumulators columns
          pure ((buckets entries).map (Bucket.document (columns.zip accumulators)))

end Grouping

end DataGrid
