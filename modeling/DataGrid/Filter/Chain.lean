import DataGrid.Value
/-!
Chains of conditions joined by "and". A chain in which some of the tokens were left out is made
whole by putting one between every two neighbouring conditions.
-/
namespace DataGrid.Chain

def andToken : Value := .string "and"

def isAnd (element : Value) : Bool := element == andToken

def isComplete : List Value → Bool
  | [] => false
  | [condition] => condition.isArray
  | condition :: token :: rest => condition.isArray && isAnd token && isComplete rest

/-- Conditions and tokens only, a condition first, and yet no complete chain. -/
def isIncomplete (elements : List Value) : Bool :=
  match elements with
  | first :: _ :: _ =>
      first.isArray && elements.all (fun element => element.isArray || isAnd element) &&
        !isComplete elements
  | _ => false

def normalize : List Value → List Value
  | [] => []
  | [element] => [element]
  | element :: next :: rest =>
      -- a token is missing between two conditions side by side, and nowhere else
      if element.isArray && next.isArray then element :: andToken :: normalize (next :: rest)
      else element :: normalize (next :: rest)

end DataGrid.Chain
