import DataGrid.Store.Error
import DataGrid.Text.Word
import DataGrid.Value.Order
/-!
Match predicates over one document. The entries of a predicate are tested in order until one fails,
so that an error behind a failing entry is never met. How patterns are compiled is a parameter.
-/
namespace DataGrid

/-- A pattern and whether letter case is ignored give a refusal in words or a test on texts. -/
abbrev PatternCompiler := (pattern : String) → (ignoreCase : Bool) → Except String (String → Bool)

inductive FieldTest where
  | eq | ne | gt | gte | lt | lte | regex | options
  deriving DecidableEq, Repr

namespace FieldTest

def ofName? : String → Option FieldTest
  | "$eq" => some .eq
  | "$ne" => some .ne
  | "$gt" => some .gt
  | "$gte" => some .gte
  | "$lt" => some .lt
  | "$lte" => some .lte
  | "$regex" => some .regex
  | "$options" => some .options
  | _ => none

end FieldTest

namespace Predicate

/-- Opens a pattern that holds of the texts without a match for what follows. -/
def absenceStart : List Char := "^((?!".toList

def absenceEnd : List Char := ").)*$".toList

def absenceOf? (pattern : String) : Option String :=
  (Text.dropStart? absenceStart pattern.toList).bind fun rest =>
    (Text.dropEnd? absenceEnd rest).map String.ofList

def compilePattern (patterns : PatternCompiler) (pattern : String) (ignoreCase : Bool) :
    StoreResult (String → Bool) :=
  match patterns pattern ignoreCase with
  | .ok test => pure test
  | .error reason => throw (.invalidExpression (.pattern reason))

def matchesPattern (patterns : PatternCompiler) (value pattern : Value) (options : String) :
    StoreResult Bool :=
  match value, pattern with
  | .string text, .string source => do
      let ignoreCase := options.toList.contains 'i'
      -- an absence pattern holds when its inner pattern finds nothing
      match absenceOf? source with
      | some inner => do
          let test ← compilePattern patterns inner ignoreCase
          pure (!test text)
      | none => do
          let test ← compilePattern patterns source ignoreCase
          pure (test text)
  | .string _, _ => throw (.invalidExpression .patternKind)
  | _, _ => pure false

/-- An ordered comparison needs a stored value, in the bracket of the operand. -/
def inOrder (actual : Option Value) (operand : Value) (test : Ordering → Bool) : Bool :=
  match actual with
  | none => false
  | some value => value.sameBracket operand && test (value.compare operand)

def optionsOf (operators : Document) : String :=
  ((Document.get? operators "$options").bind Value.string?).getD ""

def testHolds (patterns : PatternCompiler) (actual : Option Value) (options : String)
    (name : String) (operand : Value) : StoreResult Bool :=
  let value := actual.getD .null
  match FieldTest.ofName? name with
  | some .eq => pure (value.equal operand)
  | some .ne => pure (!value.equal operand)
  | some .gt => pure (inOrder actual operand (· == .gt))
  | some .gte => pure (inOrder actual operand (· != .lt))
  | some .lt => pure (inOrder actual operand (· == .lt))
  | some .lte => pure (inOrder actual operand (· != .gt))
  | some .regex => matchesPattern patterns value operand options
  | some .options => pure true
  | none => throw (.unsupportedOperator name)

def testsHold (patterns : PatternCompiler) (actual : Option Value) (options : String) :
    List (String × Value) → StoreResult Bool
  | [] => pure true
  | (name, operand) :: rest => do
      if ← testHolds patterns actual options name operand then
        testsHold patterns actual options rest
      else pure false

/-- Whether a condition applies operators: it has keys, all after a dollar sign, and is not itself a
native value. -/
def isOperatorObject (fields : Document) : Bool :=
  !fields.isEmpty && !(Value.object fields).isNative &&
    fields.all fun field => Text.startsWithDollar field.1

def fieldHolds (patterns : PatternCompiler) (actual : Option Value) (condition : Value) :
    StoreResult Bool :=
  match condition with
  | .object operators =>
      if isOperatorObject operators then
        testsHold patterns actual (optionsOf operators) operators
      -- no operators: a value to be equal to
      else pure ((actual.getD .null).equal condition)
  | _ => pure ((actual.getD .null).equal condition)

def isDocument : Value → Bool
  | .object _ => true
  | _ => false

/-- The operand of a logical operator: an array of predicates, all checked before any is tested. -/
def checkOperands : Value → StoreResult Unit
  | .array items =>
      match items.find? (fun item => !isDocument item) with
      | some item => throw (.invalidExpression (.predicate item))
      | none => pure ()
  | _ => throw (.invalidExpression .logicalOperand)

mutual

def holds (patterns : PatternCompiler) (doc : Value) : List (String × Value) → StoreResult Bool
  | [] => pure true
  | (key, condition) :: rest => do
      let satisfied ← match key with
        | "$and" => do
            checkOperands condition
            allHold patterns doc condition
        | "$or" => do
            checkOperands condition
            anyHolds patterns doc condition
        | "$nor" => do
            checkOperands condition
            pure (!(← anyHolds patterns doc condition))
        | _ =>
            if Text.startsWithDollar key then throw (.unsupportedOperator key)
            else fieldHolds patterns (doc.get? key) condition
      if satisfied then holds patterns doc rest else pure false

def allHold (patterns : PatternCompiler) (doc : Value) : Value → StoreResult Bool
  | .array items => allItemsHold patterns doc items
  | _ => pure true

def anyHolds (patterns : PatternCompiler) (doc : Value) : Value → StoreResult Bool
  | .array items => anyItemHolds patterns doc items
  | _ => pure false

def allItemsHold (patterns : PatternCompiler) (doc : Value) : List Value → StoreResult Bool
  | [] => pure true
  | .object fields :: rest => do
      if ← holds patterns doc fields then allItemsHold patterns doc rest else pure false
  | _ :: rest => allItemsHold patterns doc rest

def anyItemHolds (patterns : PatternCompiler) (doc : Value) : List Value → StoreResult Bool
  | [] => pure false
  | .object fields :: rest => do
      if ← holds patterns doc fields then pure true else anyItemHolds patterns doc rest
  | _ :: rest => anyItemHolds patterns doc rest

end

end Predicate

end DataGrid
