import DataGrid.Value.Path
import DataGrid.Calendar.Instant
/-!
Values that a store keeps natively travel inside one-field objects: a date under `$date`, as
milliseconds or as an RFC 3339 timestamp, and an object id under `$oid`.
-/
namespace DataGrid.Value

def date (millis : Int) : Value := single "$date" (.int millis)

/-- The content of an object whose only field is `tag`. -/
def wrapped? (tag : String) : Value → Option Value
  | .object [(key, content)] => if key = tag then some content else none
  | _ => none

def dateMillis? (value : Value) : Option Int :=
  match wrapped? "$date" value with
  | some (.int n) => int64? (.int n)
  | some (.string text) => Calendar.Timestamp.millis? text
  | _ => none

def moment? (value : Value) : Option Calendar.Moment :=
  (dateMillis? value).bind Calendar.moment?

def oidHex? (value : Value) : Option String :=
  match wrapped? "$oid" value with
  | some (.string hex) => some hex
  | _ => none

def isNative (value : Value) : Bool := (dateMillis? value).isSome || (oidHex? value).isSome

end DataGrid.Value
