/-!
Reading of single words: blanks around them, letter case, their pieces, and whole numbers in decimal
digits.
-/
namespace DataGrid.Text

/-- The characters with the Unicode property White_Space. -/
def isBlank (c : Char) : Bool :=
  let n := c.toNat
  (9 ≤ n && n ≤ 13) || n == 0x20 || n == 0x85 || n == 0xa0 || n == 0x1680 ||
    (0x2000 ≤ n && n ≤ 0x200a) || n == 0x2028 || n == 0x2029 || n == 0x202f ||
    n == 0x205f || n == 0x3000

def trim (text : List Char) : List Char :=
  ((text.dropWhile isBlank).reverse.dropWhile isBlank).reverse

/-- The lower case of a letter as far as it is an ASCII letter: besides the ASCII capitals only the
Kelvin sign has one. Every other character stays itself, which no word in ASCII can equal. -/
def lowerLetter (c : Char) : Char := if c = '\u212a' then 'k' else c.toLower

def lower (word : String) : String := String.ofList (word.toList.map lowerLetter)

def afterDollar? (text : String) : Option String :=
  match text.toList with
  | '$' :: rest => some (String.ofList rest)
  | _ => none

def startsWithDollar (text : String) : Bool := (afterDollar? text).isSome

def dropStart? : (start text : List Char) → Option (List Char)
  | [], text => some text
  | c :: start, d :: text => if c = d then dropStart? start text else none
  | _ :: _, [] => none

def dropEnd? (ending text : List Char) : Option (List Char) :=
  (dropStart? ending.reverse text.reverse).map List.reverse

theorem dropStart?_append (start text : List Char) :
    dropStart? start (start ++ text) = some text := by
  induction start with
  | nil => rfl
  | cons c start ih => simp [dropStart?, ih]

theorem dropEnd?_append (text ending : List Char) :
    dropEnd? ending (text ++ ending) = some text := by
  simp [dropEnd?, dropStart?_append]

theorem eq_append_of_dropStart (start text rest : List Char)
    (dropped : dropStart? start text = some rest) : text = start ++ rest := by
  induction start generalizing text with
  | nil => exact Option.some.inj dropped
  | cons c start ih =>
      cases text with
      | nil => contradiction
      | cons d text =>
          by_cases same : c = d
          · rw [dropStart?, if_pos same] at dropped
            rw [ih text dropped, same, List.cons_append]
          · rw [dropStart?, if_neg same] at dropped
            contradiction

theorem eq_append_of_dropEnd (ending text rest : List Char)
    (dropped : dropEnd? ending text = some rest) : text = rest ++ ending := by
  obtain ⟨front, opened, rfl⟩ := Option.map_eq_some_iff.mp dropped
  rw [← List.reverse_reverse text, eq_append_of_dropStart _ _ _ opened, List.reverse_append,
    List.reverse_reverse]

/-- The pieces between marks; there is one more than there are marks. -/
def pieces (mark : Char) : List Char → List (List Char)
  | [] => [[]]
  | c :: rest =>
      if c = mark then [] :: pieces mark rest
      else match pieces mark rest with
        | [] => [[c]]
        | piece :: more => (c :: piece) :: more

theorem pieces_ne_nil (mark : Char) (text : List Char) : pieces mark text ≠ [] := by
  induction text with
  | nil => simp [pieces]
  | cons c rest ih =>
      unfold pieces
      split
      · simp
      · split <;> simp

theorem pieces_of_not_mem (mark : Char) (text : List Char) (plain : mark ∉ text) :
    pieces mark text = [text] := by
  induction text with
  | nil => rfl
  | cons c rest ih =>
      simp only [List.mem_cons, not_or] at plain
      have differs : c ≠ mark := fun same => plain.1 same.symm
      simp [pieces, differs, ih plain.2]

/-- The words of a text that are divided by blanks and line ends. -/
def words (text : String) : List (List Char) :=
  let spaced := text.toList.map fun c => if c = '\n' then ' ' else c
  (pieces ' ' spaced).filter fun word => !word.isEmpty

def ofLines (lines : List String) : String := lines.foldl (fun text line => text ++ line ++ "\n") ""

def digitValue (c : Char) : Nat := c.toNat - '0'.toNat

def decimal? (text : List Char) : Option Nat :=
  if text.isEmpty || text.any (fun c => !c.isDigit) then none
  else some (text.foldl (fun sum c => sum * 10 + digitValue c) 0)

/-- A whole number with an optional sign, between two bounds. -/
def int? (low high : Int) (text : List Char) : Option Int := do
  let number ← match text with
    | '-' :: digits => (decimal? digits).map fun n => -(n : Int)
    | '+' :: digits => (decimal? digits).map Int.ofNat
    | digits => (decimal? digits).map Int.ofNat
  if low ≤ number ∧ number ≤ high then some number else none

def nat? (high : Nat) (text : List Char) : Option Nat := do
  let number ← match text with
    | '+' :: digits => decimal? digits
    | digits => decimal? digits
  if number ≤ high then some number else none

def int64? (text : List Char) : Option Int := int? (-0x8000000000000000) 0x7fffffffffffffff text

def int32? (text : List Char) : Option Int := int? (-0x80000000) 0x7fffffff text

def nat64? (text : List Char) : Option Nat := nat? 0xffffffffffffffff text

def bool? (text : List Char) : Option Bool :=
  if text = "true".toList then some true
  else if text = "false".toList then some false
  else none

end DataGrid.Text
