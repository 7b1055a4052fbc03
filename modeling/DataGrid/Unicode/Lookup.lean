import DataGrid.Unicode.Age
import DataGrid.Unicode.Break
/-!
Sets of characters found by the names of properties and of their values.
-/
namespace DataGrid.Unicode.Lookup

def normalName (name : List Char) : String :=
  let lower := name.map Char.toLower
  let (marked, rest) := match lower with
    | 'i' :: 's' :: rest => (true, rest)
    | rest => (false, rest)
  let kept := rest.filter fun c => c.toNat < 128 && c != ' ' && c != '_' && c != '-'
  -- a name without its "is" would be a single letter here
  if marked && kept = ['c'] then "isc" else String.ofList kept

/-- A general category, a group of categories, or a set that is named like one. -/
def category? : String → Option Ranges
  | "any" => some .everything
  | "assigned" => some (ofCategories Category.assigned)
  | "ascii" => some [(0, 127)]
  | "cn" | "unassigned" => some (.complement (ofCategories Category.assigned))
  | "c" | "other" =>
      some
        (.complement
          (.diff (ofCategories Category.assigned) (ofCategories [.control, .format, .privateUse])))
  | name => (Category.ofName? name).map ofCategories

def script? (name : String) : Option Ranges := (Script.code? name).map Script.ranges

/-- What one name stands for: a property, a general category or a script. -/
def named? (name : List Char) : Option Ranges :=
  let name := normalName name
  ((Property.ofName? name).map Property.ranges).or ((category? name).or (script? name))

def valued? (property value : List Char) : Option Ranges :=
  let value := normalName value
  match normalName property with
  | "gc" | "generalcategory" => category? value
  | "sc" | "script" => script? value
  | "scx" | "scriptextensions" => (Script.code? value).map Script.extended
  | "age" => Age.ofName? value
  | "gcb" | "graphemeclusterbreak" => (CharacterBreak.ofName? value).map CharacterBreak.ranges
  | "wb" | "wordbreak" => (WordBreak.ofName? value).map WordBreak.ranges
  | "sb" | "sentencebreak" => (SentenceBreak.ofName? value).map SentenceBreak.ranges
  | _ => none

end DataGrid.Unicode.Lookup
