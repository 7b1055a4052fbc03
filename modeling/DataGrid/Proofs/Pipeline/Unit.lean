import DataGrid.Pipeline.DateUnit
import DataGrid.Pipeline.Projection
import DataGrid.Proofs.Store.Expression
import DataGrid.Proofs.Store.Result
/-!
What the expressions of intervals and calendar units yield, as functions of the value that they are
taken of: the whole quotient by a width, the local time of a stored instant, and the units of a
local time. A quarter is computed in two steps, the month plus two first. Whoever computes a unit
into fields of a document, under names of its own, gets the same unit of the same local time.
-/
namespace DataGrid

open Expression

namespace Term

/-- The dividend less its remainder, divided. -/
def quotientOf (dividend divisor : Value) : StoreResult Value :=
  (Arithmetic.apply .mod dividend divisor).bind fun rest =>
    (Arithmetic.apply .subtract dividend rest).bind fun whole =>
      Arithmetic.apply .divide whole divisor

def localOf (offset : Int) (stored : Value) : StoreResult Value :=
  Arithmetic.apply .subtract stored (.int (offset * 60000))

theorem evaluate_quotient (doc dividend divisor a b : Value)
    (left : evaluate doc dividend = .ok a) (right : evaluate doc divisor = .ok b) :
    evaluate doc (quotient dividend divisor) = quotientOf a b := by
  have rest := evaluate_arithmetic .mod doc dividend divisor
  rw [left, right] at rest
  have whole := evaluate_arithmetic .subtract doc dividend (apply "$mod" [dividend, divisor])
  change evaluate doc (apply "$mod" [dividend, divisor]) = Arithmetic.apply .mod a b at rest
  rw [left, rest] at whole
  change evaluate doc (wholePart dividend divisor) =
    (Arithmetic.apply .mod a b).bind fun rest => Arithmetic.apply .subtract a rest at whole
  have divided := evaluate_arithmetic .divide doc (wholePart dividend divisor) divisor
  rw [whole, right] at divided
  change evaluate doc (apply "$divide" [wholePart dividend divisor, divisor]) = quotientOf a b
  refine divided.trans ?_
  unfold quotientOf
  cases Arithmetic.apply .mod a b <;> rfl

theorem evaluate_localTime (doc : Document) (path : String) (offset : Int) :
    evaluate (.object doc) (localTime path offset) = localOf offset (reference doc path) := by
  have shifted := evaluate_arithmetic .subtract (.object doc) (field path) (.int (offset * 60000))
  rw [evaluate_field] at shifted
  exact shifted

end Term

namespace DateUnit

def monthPlusTwoOf (time : Value) : StoreResult Value :=
  (CalendarPart.month.apply time).bind fun month => Arithmetic.apply .add month (.int 2)

def quarterOf (monthPlusTwo : Value) : StoreResult Value := Term.quotientOf monthPlusTwo (.int 3)

/-- The unit of a local time. -/
def ofLocal (unit : DateUnit) (time : Value) : StoreResult Value :=
  match unit with
  | .year => CalendarPart.year.apply time
  | .quarter => (monthPlusTwoOf time).bind quarterOf
  | .month => CalendarPart.month.apply time
  | .day => CalendarPart.dayOfMonth.apply time
  | .dayOfWeek => (CalendarPart.dayOfWeek.apply time).bind fun day =>
      Arithmetic.apply .subtract day (.int 1)
  | .hour => CalendarPart.hour.apply time
  | .minute => CalendarPart.minute.apply time
  | .second => CalendarPart.second.apply time

theorem evaluate_shifted (op : Arithmetic) (part : CalendarPart) (doc time : Value) (number : Int) :
    evaluate doc (Term.apply op.name [.single part.name time, .int number]) =
      (evaluate doc time).bind fun instant =>
        (part.apply instant).bind fun value => op.apply value (.int number) := by
  rw [evaluate_arithmetic, evaluate_part]
  cases evaluate doc time with
  | error fault => rfl
  | ok instant => cases part.apply instant <;> rfl

theorem evaluate_monthPlusTwo (doc time : Value) :
    evaluate doc (monthPlusTwo time) = (evaluate doc time).bind monthPlusTwoOf :=
  evaluate_shifted .add .month doc time 2

theorem evaluate_quarter (doc : Document) (path : String) :
    evaluate (.object doc) (quarterFrom path) = quarterOf (reference doc path) :=
  Term.evaluate_quotient _ _ _ _ _ (evaluate_field doc path) rfl

theorem evaluate_extract (unit : DateUnit) (doc time expression : Value)
    (single : unit.extract? time = some expression) :
    evaluate doc expression = (evaluate doc time).bind unit.ofLocal := by
  cases unit with
  | quarter => simp [extract?] at single
  | year => exact Option.some.inj single ▸ evaluate_part .year doc time
  | month => exact Option.some.inj single ▸ evaluate_part .month doc time
  | day => exact Option.some.inj single ▸ evaluate_part .dayOfMonth doc time
  | dayOfWeek => exact Option.some.inj single ▸ evaluate_shifted .subtract .dayOfWeek doc time 1
  | hour => exact Option.some.inj single ▸ evaluate_part .hour doc time
  | minute => exact Option.some.inj single ▸ evaluate_part .minute doc time
  | second => exact Option.some.inj single ▸ evaluate_part .second doc time

theorem extract_none (unit : DateUnit) (time : Value) (double : unit.extract? time = none) :
    unit = .quarter := by
  cases unit <;> simp_all [extract?]

section Fields

theorem addField (doc : Document) (name : String) (expression : Value) (plain : '.' ∉ name.toList) :
    Projection.addFields doc doc [(name, expression)] =
      (evaluate (.object doc) expression).map fun value => doc.put name value := by
  simp only [Projection.addFields, Document.setPath_of_plain doc name _ plain]
  cases evaluate (.object doc) expression <;> rfl

variable (unit : DateUnit) (name scratch : String)

/-- The fields that a unit takes, one stage for each. -/
def computed (time : Value) : List (String × Value) :=
  match unit.extract? time with
  | some expression => [(name, expression)]
  | none => [(scratch, monthPlusTwo time), (name, quarterFrom scratch)]

/-- What these fields hold, by the local time. -/
def fields (time : Value) : StoreResult Document :=
  if unit = .quarter then
    (monthPlusTwoOf time).bind fun month =>
      (quarterOf month).map fun quarter => [(scratch, month), (name, quarter)]
  else (unit.ofLocal time).map fun part => [(name, part)]

theorem map_fields (doc : Document) (time : Value) :
    (unit.fields name scratch time).map (fun fields => ((doc.putAll fields).get? name).getD .null) =
      unit.ofLocal time := by
  have last (front : Document) (value : Value) :
      ((doc.putAll (front ++ [(name, value)])).get? name).getD .null = value := by
    rw [Document.get?_putAll_last, Option.getD_some]
  unfold fields
  by_cases double : unit = .quarter
  · subst double
    rw [if_pos rfl, ofLocal]
    cases monthPlusTwoOf time with
    | error fault => rfl
    | ok month =>
        change Except.map _ (Except.map _ (quarterOf month)) = quarterOf month
        cases quarterOf month with
        | error fault => rfl
        | ok quarter => exact congrArg Except.ok (last [(scratch, month)] quarter)
  · rw [if_neg double]
    cases unit.ofLocal time with
    | error fault => rfl
    | ok part => exact congrArg Except.ok (last [] part)

theorem fields_shape (time stored : Value) (fields : Document)
    (known : unit.fields name scratch stored = .ok fields) :
    fields.keys = (unit.computed name scratch time).map Prod.fst ∧
      ∃ front value, fields = front ++ [(name, value)] := by
  unfold DateUnit.fields at known
  by_cases double : unit = .quarter
  · subst double
    rw [if_pos rfl] at known
    obtain ⟨month, _, last⟩ := (Result.bind_ok _ _ _).mp known
    obtain ⟨quarter, _, rfl⟩ := (Result.map_ok _ _ _).mp last
    exact ⟨rfl, [(scratch, month)], quarter, rfl⟩
  · rw [if_neg double] at known
    obtain ⟨part, _, rfl⟩ := (Result.map_ok _ _ _).mp known
    refine ⟨?_, [], part, rfl⟩
    cases unit with
    | quarter => exact absurd rfl double
    | _ => rfl

variable (plain : '.' ∉ name.toList) (plainScratch : '.' ∉ scratch.toList)
  (reserved : Path.Reserved scratch)

include plain plainScratch reserved in
/-- The stages of a unit add its fields to a document, by the local time of the instant stored
there. -/
theorem extend_eq (doc : Document) (path : String) (offset : Int) :
    (unit.computed name scratch (Term.localTime path offset)).foldlM
        (fun out part => Projection.addFields out out [part]) doc =
      ((Term.localOf offset (reference doc path)).bind (unit.fields name scratch)).map
        doc.putAll := by
  have moved := Term.evaluate_localTime doc path offset
  unfold computed fields
  cases found : unit.extract? (Term.localTime path offset) with
  | some expression =>
      have single : unit ≠ .quarter := by
        rintro rfl
        simp [extract?] at found
      have value := evaluate_extract unit (.object doc) _ _ found
      rw [moved] at value
      simp only [List.foldlM_cons, List.foldlM_nil, addField doc _ _ plain, value, if_neg single]
      cases Term.localOf offset (reference doc path) with
      | error fault => rfl
      | ok time =>
          change (Except.map _ (unit.ofLocal time)).bind pure = ((unit.ofLocal time).map _).map _
          cases unit.ofLocal time <;> rfl
  -- two fields, of which the second refers to the first
  | none =>
      obtain rfl := extract_none unit _ found
      have first := evaluate_monthPlusTwo (.object doc) (Term.localTime path offset)
      rw [moved] at first
      have second (month : Value) : evaluate (.object (doc.put scratch month)) (quarterFrom scratch) =
          quarterOf month := by
        rw [evaluate_quarter, reference_of_plain _ _ plainScratch (part_of_reserved scratch reserved),
          Document.get?_put_self]
        rfl
      simp only [List.foldlM_cons, List.foldlM_nil, addField _ _ _ plainScratch, addField _ _ _ plain,
        first, if_true]
      cases Term.localOf offset (reference doc path) with
      | error fault => rfl
      | ok time =>
          change Except.bind (Except.map _ (monthPlusTwoOf time)) _ =
            Except.map _ (Except.bind (monthPlusTwoOf time) _)
          cases monthPlusTwoOf time with
          | error fault => rfl
          | ok month =>
              change Except.bind (Except.map _ (evaluate (.object (doc.put scratch month))
                (quarterFrom scratch))) pure = Except.map _ (Except.map _ (quarterOf month))
              rw [second]
              cases quarterOf month <;> rfl

include plain plainScratch reserved in
theorem value_extend (doc : Document) (path : String) (offset : Int) :
    ((unit.computed name scratch (Term.localTime path offset)).foldlM
        (fun out part => Projection.addFields out out [part]) doc).map
          (fun extended => (extended.get? name).getD .null) =
      (Term.localOf offset (reference doc path)).bind unit.ofLocal := by
  rw [extend_eq unit name scratch plain plainScratch reserved]
  cases Term.localOf offset (reference doc path) with
  | error fault => rfl
  | ok time =>
      change _ = unit.ofLocal time
      rw [← unit.map_fields name scratch doc time]
      change Except.map _ (Except.map _ (unit.fields name scratch time)) = _
      cases unit.fields name scratch time <;> rfl

end Fields

end DateUnit

end DataGrid
