import DataGrid.Calendar.Civil
/-!
Instants as milliseconds since 1970-01-01T00:00:00Z: their calendar parts in UTC, and their reading
from an RFC 3339 timestamp. Calendar parts exist for the years -262143 to 262142 only.
-/
namespace DataGrid.Calendar

structure Moment where
  date : Date
  weekday : Nat
  hour : Nat
  minute : Nat
  second : Nat
  deriving DecidableEq, Repr

def millisPerDay : Int := 86400000

def inRange (millis : Int) : Bool :=
  let days := millis / millisPerDay
  (Date.toDays ⟨-262143, 1, 1⟩) ≤ days && days ≤ (Date.toDays ⟨262142, 12, 31⟩)

def Moment.ofMillis (millis : Int) : Moment :=
  let days := millis / millisPerDay
  let seconds := ((millis % millisPerDay) / 1000).toNat
  ⟨.ofDays days, Calendar.weekday days, seconds / 3600, seconds / 60 % 60, seconds % 60⟩

def moment? (millis : Int) : Option Moment :=
  if inRange millis then some (.ofMillis millis) else none

namespace Timestamp

/-- A number of exactly `count` digits, and the rest. -/
def digits : (count : Nat) → List Char → Option (Nat × List Char)
  | 0, text => some (0, text)
  | count + 1, c :: rest =>
      if c.isDigit then
        (digits count rest).map fun (low, after) =>
          ((c.toNat - '0'.toNat) * Nat.pow 10 count + low, after)
      else none
  | _ + 1, [] => none

def skip (mark : Char) : List Char → Option (List Char)
  | c :: rest => if c = mark then some rest else none
  | [] => none

def fraction (text : List Char) : Option (Nat × List Char) :=
  let shown := text.takeWhile Char.isDigit
  if shown.isEmpty then none
  else
    -- three digits count: missing ones are zeros, further ones are ignored
    let padded := (shown ++ ['0', '0']).take 3
    some (padded.foldl (fun sum c => sum * 10 + (c.toNat - '0'.toNat)) 0,
      text.dropWhile Char.isDigit)

def optionalFraction : List Char → Option (Nat × List Char)
  | '.' :: rest => fraction rest
  | rest => some (0, rest)

def isMinus? : Char → Option Bool
  | '+' => some false
  | '-' => some true
  -- the typographic minus counts like a dash
  | '\u2212' => some true
  | _ => none

/-- Minutes east of UTC: `Z`, or a signed `hh:mm` below 24 hours. -/
def zone : List Char → Option (Int × List Char)
  | 'Z' :: rest => some (0, rest)
  | 'z' :: rest => some (0, rest)
  | sign :: rest => do
      let negative ← isMinus? sign
      let (hours, rest) ← digits 2 rest
      let rest ← skip ':' rest
      let (minutes, rest) ← digits 2 rest
      if hours < 24 ∧ minutes < 60 then
        let east : Int := (hours * 60 + minutes : Nat)
        some (if negative then -east else east, rest)
      else none
  | [] => none

def skipDivider : List Char → Option (List Char)
  | 'T' :: rest => some rest
  | 't' :: rest => some rest
  | ' ' :: rest => some rest
  | _ => none

def date? (text : List Char) : Option (Date × List Char) := do
  let (year, rest) ← digits 4 text
  let rest ← skip '-' rest
  let (month, rest) ← digits 2 rest
  let rest ← skip '-' rest
  let (day, rest) ← digits 2 rest
  -- whether there is such a day is not asked here
  some (⟨year, month, day⟩, rest)

def clock? (text : List Char) : Option (Nat × Nat × Nat × List Char) := do
  let (hour, rest) ← digits 2 text
  let rest ← skip ':' rest
  let (minute, rest) ← digits 2 rest
  let rest ← skip ':' rest
  let (second, rest) ← digits 2 rest
  some (hour, minute, second, rest)

def millis? (text : String) : Option Int := do
  let (date, rest) ← date? text.toList
  let rest ← skipDivider rest
  let (hour, minute, second, rest) ← clock? rest
  let (milli, rest) ← optionalFraction rest
  let (east, rest) ← zone rest
  if rest.isEmpty ∧ date.isValid ∧ hour < 24 ∧ minute < 60 ∧ second ≤ 60 then
    -- the second 60 of a leap second may follow any minute; it counts as the next second
    let seconds : Int := (hour * 3600 + minute * 60 + second : Nat) - east * 60
    some (date.toDays * millisPerDay + seconds * 1000 + milli)
  else none

end Timestamp

end DataGrid.Calendar
