import DataGrid.Filter.Chain
import DataGrid.Filter.Syntax
/-!
Reading of filters from their array spelling. A shape that spells no filter gives none, and operands
of a chain that give none are left out of it.
-/
namespace DataGrid.Filter

/-- The elements at places 0, 2, 4 and so on. -/
def operands {α : Type} : List α → List α
  | [] => []
  | [operand] => [operand]
  | operand :: _ :: rest => operand :: operands rest

def tokens {α : Type} : List α → List α
  | [] => []
  | [_] => []
  | _ :: token :: rest => token :: tokens rest

def chainOf? (connective : Connective) (inner : List (Option Filter)) : Option Filter :=
  match inner.filterMap id with
  | [] => none
  | operands => some (.chain connective operands)

def ofOdd? (elements : List Value) (inner : List (Option Filter)) : Option Filter :=
  match elements with
  | field :: .string operator :: rest =>
      match Connective.ofName? operator with
      | some connective =>
          -- all tokens have to spell the same connective
          if (tokens elements).all fun token => Connective.ofValue? token == some connective then
            chainOf? connective (operands inner)
          else none
      | none =>
          match field, rest with
          | .string field, [operand] =>
              (Comparison.ofName? operator).map fun comparison =>
                .compare field comparison operand
          | _, _ => none
  | _ => none

/-- The conditions of a chain whose tokens are left out. -/
def conditions? (elements : List Value) (inner : List (Option Filter)) : List (Option Filter) :=
  ((elements.zip inner).filter fun (element, _) => element.isArray).map Prod.snd

/-- A filter from the elements of an array and what each of them spells by itself. -/
def ofElements? (elements : List Value) (inner : List (Option Filter)) : Option Filter :=
  match elements, inner with
  | [.array _], [filter] => filter
  | [.string "!", _], [_, filter] => filter.map .not
  | _, _ =>
      -- missing tokens are put in before the number of elements is looked at
      if Chain.isIncomplete elements then
        if Chain.isComplete (Chain.normalize elements) then
          chainOf? .and (conditions? elements inner)
        else none
      else if elements.length ≥ 3 && elements.length % 2 == 1 then ofOdd? elements inner
      else none

mutual

def read? : Value → Option Filter
  | .string field => some (.truth field)
  | .array elements => ofElements? elements (readEach elements)
  | _ => none

def readEach : List Value → List (Option Filter)
  | [] => []
  | element :: rest => read? element :: readEach rest

end

end DataGrid.Filter
