import DataGrid.Toml.Number
/-!
Dates and times of a TOML text. No setting is one, so that it only counts where they end.
-/
namespace DataGrid.Toml.Scan

def twoDigits (least most : Nat) : Scan Nat :=
  checked (exactly 2 Char.isDigit) fun word =>
    let n := numberOf 10 word
    if least ≤ n ∧ n ≤ most then some n else none

def daysIn (year month : Nat) : Nat :=
  if month = 2 then
    (if year % 4 = 0 ∧ (year % 100 ≠ 0 ∨ year % 400 = 0) then 29 else 28)
  else if month = 4 ∨ month = 6 ∨ month = 9 ∨ month = 11 then 30
  else 31

def hour : Scan Nat := twoDigits 0 23

def minute : Scan Nat := twoDigits 0 59

def date : Scan Unit := do
  let year ← exactly 4 Char.isDigit
  mark '-'
  let month ← must (twoDigits 1 12)
  must (mark '-')
  let _ ← must (twoDigits 1 (daysIn (numberOf 10 year) month))

def time : Scan Unit := do
  let _ ← hour
  mark ':'
  let _ ← must minute
  must (mark ':')
  -- room for a leap second
  let _ ← must (twoDigits 0 60)
  let _ ← optional (do
    mark '.'
    run1 Char.isDigit)

def zone : Scan Unit :=
  either ((fun _ => ()) <$> one fun c => c == 'Z' || c == 'z')
    (do
      let _ ← one fun c => c == '+' || c == '-'
      let _ ← must hour
      must (mark ':')
      let _ ← must minute)

def moment : Scan Unit :=
  either
    (do
      date
      let _ ← optional (do
        let _ ← one fun c => c == 'T' || c == 't' || c == ' '
        time
        optional zone))
    time

end DataGrid.Toml.Scan
