import DataGrid.Pipeline.Term
import DataGrid.Proofs.Value.Path
import DataGrid.Store.Expression
/-!
Evaluation of the expressions that pipelines are made of: references to paths, arithmetic on two
operands and calendar parts. Each is given by the values of its operands, so that what a whole
expression yields depends on the document through its references alone.
-/
namespace DataGrid.Expression

/-- What a reference to a path yields. -/
def reference (doc : Document) (path : String) : Value := evaluateText (.object doc) ("$" ++ path)

/-- References that yield the whole document. -/
def IsWhole (path : String) : Prop := path = "$CURRENT" ∨ path = "$ROOT"

instance (path : String) : Decidable (IsWhole path) := by
  unfold IsWhole
  infer_instance

/-- A reserved name starts with an underscore, so it refers to no whole document. -/
theorem part_of_reserved (name : String) (reserved : Path.Reserved name) : ¬ IsWhole name := by
  rintro (rfl | rfl) <;> exact absurd reserved (by decide)

theorem dollar_inj (path other : String) : "$" ++ path = "$" ++ other ↔ path = other := by
  constructor
  · intro same
    have lists := congrArg String.toList same
    rw [String.toList_append, String.toList_append] at lists
    exact String.toList_injective (List.append_cancel_left lists)
  · exact congrArg _

theorem afterDollar_dollar (path : String) : Text.afterDollar? ("$" ++ path) = some path := by
  have list : ("$" ++ path).toList = '$' :: path.toList := by
    rw [String.toList_append]
    rfl
  simp [Text.afterDollar?, list]

theorem evaluate_field (doc : Document) (path : String) :
    evaluate (.object doc) (Term.field path) = .ok (reference doc path) := by
  simp only [Term.field, evaluate, reference]
  rfl

theorem reference_of_path (doc : Document) (path : String) (part : ¬ IsWhole path) :
    reference doc path = ((Value.object doc).get? path).getD .null := by
  have current : ¬ ("$" ++ path = "$$CURRENT" ∨ "$" ++ path = "$$ROOT") := by
    rintro (same | same)
    · exact part (Or.inl ((dollar_inj path "$CURRENT").mp same))
    · exact part (Or.inr ((dollar_inj path "$ROOT").mp same))
  simp only [reference, evaluateText, if_neg current, afterDollar_dollar]

theorem reference_of_plain (doc : Document) (name : String) (plain : '.' ∉ name.toList)
    (part : ¬ IsWhole name) : reference doc name = (Document.get? doc name).getD .null := by
  rw [reference_of_path doc name part, Value.get?_of_plain doc name plain]

theorem reference_behind (names : List String) (row doc : Document) (path : String)
    (reserved : ∀ name ∈ names, Path.Reserved name) (behind : Document.Behind names row doc)
    (stored : ¬ Path.Reserved path) (part : ¬ IsWhole path) :
    reference doc path = reference row path := by
  rw [reference_of_path _ path part, reference_of_path _ path part,
    Value.get?_behind names row doc path reserved behind stored]

theorem not_native (key : String) (content : Value) (date : key ≠ "$date") (oid : key ≠ "$oid") :
    (Value.object [(key, content)]).isNative = false := by
  simp [Value.isNative, Value.dateMillis?, Value.oidHex?, Value.wrapped?, date, oid]

theorem evaluate_arithmetic (op : Arithmetic) (doc left right : Value) :
    evaluate doc (Term.apply op.name [left, right]) =
      (evaluate doc left).bind fun a => (evaluate doc right).bind fun b => op.apply a b := by
  have literal := not_native op.name (.array [left, right])
    (by cases op <;> decide) (by cases op <;> decide)
  have dollar : Text.startsWithDollar op.name = true := by cases op <;> decide
  have named : Operator.ofName? op.name = some (.arithmetic op) := by cases op <;> rfl
  simp only [Term.apply, Value.single, evaluate, literal, dollar, named, evaluateItems,
    Bool.false_eq_true, if_false, if_true]
  cases evaluate doc left with
  | error fault => rfl
  | ok a => cases evaluate doc right <;> rfl

theorem evaluate_part (part : CalendarPart) (doc operand : Value) :
    evaluate doc (.single part.name operand) = (evaluate doc operand).bind part.apply := by
  have literal := not_native part.name operand
    (by cases part <;> decide) (by cases part <;> decide)
  have dollar : Text.startsWithDollar part.name = true := by cases part <;> decide
  have named : Operator.ofName? part.name = some (.calendar part) := by cases part <;> rfl
  simp only [Value.single, evaluate, literal, dollar, named, Bool.false_eq_true, if_false, if_true]
  rfl

end DataGrid.Expression
