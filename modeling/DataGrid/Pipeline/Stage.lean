import DataGrid.Json.Printer
/-!
Stages of an aggregation pipeline and their wire form: a stage is written as an object whose only
key is its operator.
-/
namespace DataGrid

inductive Stage where
  | matching (predicate : Document)
  | sort (keys : Document)
  | skip (count : UInt64)
  | limit (count : UInt64)
  | project (fields : Document)
  | addFields (fields : Document)
  | group (spec : Document)
  | count (name : String)
  deriving DecidableEq, Repr

abbrev Pipeline := List Stage

namespace Stage

def operator : Stage → String
  | .matching _ => "$match"
  | .sort _ => "$sort"
  | .skip _ => "$skip"
  | .limit _ => "$limit"
  | .project _ => "$project"
  | .addFields _ => "$addFields"
  | .group _ => "$group"
  | .count _ => "$count"

def body : Stage → Value
  | .matching doc | .sort doc | .project doc | .addFields doc | .group doc => .object doc
  | .skip number | .limit number => .int number.toNat
  | .count name => .string name

def toValue (stage : Stage) : Value := .single stage.operator stage.body

/-- The stage as a tagged variant: each kind writes its own tag and its own content. -/
def tagged : Stage → Value
  | .matching predicate => .single "$match" (.object predicate)
  | .sort keys => .single "$sort" (.object keys)
  | .skip number => .single "$skip" (.int number.toNat)
  | .limit number => .single "$limit" (.int number.toNat)
  | .project fields => .single "$project" (.object fields)
  | .addFields fields => .single "$addFields" (.object fields)
  | .group spec => .single "$group" (.object spec)
  | .count name => .single "$count" (.string name)

/-- A stage is read from an object with exactly one key, an operator with a body of its kind. -/
def ofValue? : Value → Option Stage
  | .object [(operator, body)] =>
      match operator, body with
      | "$match", .object doc => some (.matching doc)
      | "$sort", .object doc => some (.sort doc)
      | "$project", .object doc => some (.project doc)
      | "$addFields", .object doc => some (.addFields doc)
      | "$group", .object doc => some (.group doc)
      | "$skip", body => body.nat64?.map fun n => .skip (.ofNat n)
      | "$limit", body => body.nat64?.map fun n => .limit (.ofNat n)
      | "$count", .string name => some (.count name)
      | _, _ => none
  | _ => none

def text (stage : Stage) : String := Json.compact stage.toValue

end Stage

namespace Pipeline

def toValue (pipeline : Pipeline) : Value := .array (pipeline.map Stage.toValue)

def text (pipeline : Pipeline) : String := Json.compact (toValue pipeline)

def tagged (pipeline : Pipeline) : Value := .array (pipeline.map Stage.tagged)

end Pipeline

end DataGrid
