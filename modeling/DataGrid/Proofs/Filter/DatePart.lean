import DataGrid.Filter.DatePart
import DataGrid.Proofs.Value.Path
/-!
Names of the fields that date parts are computed into. A name ends in the unit as it was written,
behind the last underscore, so that it tells the date field and the unit, and is never the name of
the month that a quarter is made of.
-/
namespace DataGrid

namespace Text

theorem split_unique (mark : Char) (first second rest more : List Char) (inFirst : mark ∉ first)
    (inSecond : mark ∉ second) (same : first ++ mark :: rest = second ++ mark :: more) :
    first = second ∧ rest = more := by
  induction first generalizing second with
  | nil =>
      cases second with
      | nil => exact ⟨rfl, (List.cons.inj same).2⟩
      | cons c second =>
          have head : mark = c := (List.cons.inj same).1
          exact absurd (List.mem_cons.mpr (Or.inl head)) inSecond
  | cons c first ih =>
      cases second with
      | nil =>
          have head : c = mark := (List.cons.inj same).1
          exact absurd (List.mem_cons.mpr (Or.inl head.symm)) inFirst
      | cons d second =>
          obtain ⟨head, tail⟩ := List.cons.inj same
          obtain ⟨heads, tails⟩ := ih second (fun member => inFirst (List.mem_cons_of_mem c member))
            (fun member => inSecond (List.mem_cons_of_mem d member)) tail
          exact ⟨by rw [head, heads], tails⟩

theorem last_split_unique (mark : Char) (first second rest more : List Char) (inRest : mark ∉ rest)
    (inMore : mark ∉ more) (same : first ++ mark :: rest = second ++ mark :: more) :
    first = second ∧ rest = more := by
  have turned := congrArg List.reverse same
  simp only [List.reverse_append, List.reverse_cons, List.append_assoc, List.singleton_append] at turned
  obtain ⟨tail, head⟩ := split_unique mark _ _ _ _ (by simpa using inRest) (by simpa using inMore) turned
  exact ⟨List.reverse_inj.mp head, List.reverse_inj.mp tail⟩

theorem lowerLetter_digit (c : Char) (digit : c.isDigit = true) : lowerLetter c = c := by
  have other : c ≠ '\u212a' := by
    rintro rfl
    contradiction
  rw [lowerLetter, if_neg other]
  refine dif_neg fun upper => ?_
  simp only [Char.isDigit, Bool.and_eq_true, decide_eq_true_eq] at digit
  exact absurd (UInt32.le_trans upper.1 digit.2) (by decide)

end Text

namespace DateUnit

theorem name_word (word : String) (unit : DateUnit) (known : ofName? word = some unit) :
    Text.lower word ∈ ["year", "quarter", "month", "day", "dayofweek", "hour", "minute", "second"] := by
  unfold ofName? at known
  split at known <;> simp_all

/-- A character without letter case stands in no name of a unit unless it is spelled there. -/
theorem mark_free (word : String) (unit : DateUnit) (known : ofName? word = some unit) (mark : Char)
    (caseless : Text.lowerLetter mark = mark)
    (absent : ∀ name ∈ ["year", "quarter", "month", "day", "dayofweek", "hour", "minute", "second"],
      mark ∉ name.toList) : mark ∉ word.toList := by
  intro member
  have lowered : mark ∈ (Text.lower word).toList := by
    rw [Text.lower, String.toList_ofList]
    exact List.mem_map.mpr ⟨mark, member, caseless⟩
  exact absent _ (name_word word unit known) lowered

theorem underscore_free (word : String) (unit : DateUnit) (known : ofName? word = some unit) :
    '_' ∉ word.toList :=
  mark_free word unit known '_' (by decide) (by decide)

theorem dot_free (word : String) (unit : DateUnit) (known : ofName? word = some unit) :
    '.' ∉ word.toList :=
  mark_free word unit known '.' (by decide) (by decide)

theorem digit_free (word : String) (unit : DateUnit) (known : ofName? word = some unit) :
    ∀ c ∈ word.toList, c.isDigit = false := by
  intro c member
  cases digit : c.isDigit with
  | false => rfl
  | true =>
      have plain : ["year", "quarter", "month", "day", "dayofweek", "hour", "minute", "second"].all
          (fun name => name.toList.all fun other => !other.isDigit) = true := by
        decide
      have absent : ∀ name ∈ ["year", "quarter", "month", "day", "dayofweek", "hour", "minute",
          "second"], c ∉ name.toList := by
        intro name listed inside
        have spelled := List.all_eq_true.mp (List.all_eq_true.mp plain name listed) c inside
        rw [digit] at spelled
        contradiction
      exact absurd member (mark_free word unit known c (Text.lowerLetter_digit c digit) absent)

end DateUnit

namespace DatePart

/-- A part as it is read from a name. -/
structure Proper (part : DatePart) : Prop where
  base : '.' ∉ part.base.toList
  written : '.' ∉ part.unitName.toList
  known : DateUnit.ofName? part.unitName = some part.unit

theorem proper_of_name (name : String) (part : DatePart) (found : ofName? name = some part) :
    part.Proper := by
  simp only [ofName?, Option.bind_eq_bind, Option.bind_eq_some_iff] at found
  obtain ⟨⟨base, unitName⟩, split, later⟩ := found
  dsimp only at later
  split at later
  · contradiction
  · rename_i shape
    obtain ⟨unit, known, last⟩ := Option.bind_eq_some_iff.mp later
    split at last
    · rw [← Option.some.inj last]
      exact ⟨Path.splitFirst_plain name base unitName split, fun member => shape (Or.inr member), known⟩
    · contradiction

section FieldName

variable (base other written wanted : String)

/-- A date field, and what is computed of it behind an underscore. -/
def fieldName (base written : String) : String := "___" ++ base ++ "_" ++ written

theorem fieldName_list : (fieldName base written).toList =
    "___".toList ++ (base.toList ++ '_' :: written.toList) := by
  simp only [fieldName, String.toList_append, List.append_assoc]
  rfl

theorem fieldName_reserved : Path.Reserved (fieldName base written) := by
  rw [Path.Reserved, fieldName_list]
  exact List.prefix_append _ _

theorem fieldName_plain (plainBase : '.' ∉ base.toList) (plain : '.' ∉ written.toList) :
    '.' ∉ (fieldName base written).toList := by
  rw [fieldName_list, List.mem_append, List.mem_append, List.mem_cons]
  rintro (start | inBase | mark | inWritten)
  · exact absurd start (by decide)
  · exact plainBase inBase
  · exact absurd mark (by decide)
  · exact plain inWritten

/-- The last underscore tells what is computed of which field. -/
theorem fieldName_inj (free : '_' ∉ written.toList) (freeToo : '_' ∉ wanted.toList)
    (same : fieldName base written = fieldName other wanted) : base = other ∧ written = wanted := by
  have lists := congrArg String.toList same
  rw [fieldName_list, fieldName_list] at lists
  obtain ⟨bases, rests⟩ :=
    Text.last_split_unique '_' _ _ _ _ free freeToo (List.append_cancel_left lists)
  exact ⟨String.toList_injective bases, String.toList_injective rests⟩

end FieldName

theorem ofName_append (base written : String) (unit : DateUnit) (filled : base ≠ "")
    (plain : '.' ∉ base.toList) (known : DateUnit.ofName? written = some unit)
    (referable : unit.isReferable = true) :
    ofName? (base ++ "." ++ written) = some ⟨base, written, unit⟩ := by
  have shape : ¬ (base = "" ∨ '.' ∈ written.toList) :=
    not_or.mpr ⟨filled, DateUnit.dot_free written unit known⟩
  simp [ofName?, Path.splitFirst_append base written plain, shape, known, referable]

variable (part other : DatePart)

theorem computedName_eq : part.computedName = fieldName part.base part.unitName := rfl

theorem quarterName_eq : part.quarterName = fieldName part.base "mp2" := by
  have mark : "_mp2" = "_" ++ "mp2" := by decide
  rw [quarterName, mark, ← String.append_assoc]
  rfl

theorem computedName_reserved : Path.Reserved part.computedName := fieldName_reserved _ _

theorem quarterName_reserved : Path.Reserved part.quarterName := by
  rw [quarterName_eq]
  exact fieldName_reserved _ _

theorem computedName_plain (proper : part.Proper) : '.' ∉ part.computedName.toList :=
  fieldName_plain _ _ proper.base proper.written

theorem quarterName_plain (proper : part.Proper) : '.' ∉ part.quarterName.toList := by
  rw [quarterName_eq]
  exact fieldName_plain _ _ proper.base (by decide)

theorem computedName_inj (proper : part.Proper) (otherProper : other.Proper)
    (same : part.computedName = other.computedName) : part = other := by
  obtain ⟨bases, names⟩ := fieldName_inj _ _ _ _ (DateUnit.underscore_free _ _ proper.known)
    (DateUnit.underscore_free _ _ otherProper.known) same
  have units : part.unit = other.unit := by
    have known := proper.known
    rw [names, otherProper.known] at known
    exact (Option.some.inj known).symm
  cases part with
  | mk base unitName unit =>
      cases other with
      | mk base' unitName' unit' =>
          rw [DatePart.mk.injEq]
          exact ⟨bases, names, units⟩

theorem quarterName_inj (same : part.quarterName = other.quarterName) : part.base = other.base := by
  rw [quarterName_eq, quarterName_eq] at same
  exact (fieldName_inj _ _ _ _ (by decide) (by decide) same).1

theorem quarterName_ne (proper : part.Proper) : other.quarterName ≠ part.computedName := by
  intro same
  rw [quarterName_eq, computedName_eq] at same
  have names := (fieldName_inj _ _ _ _ (by decide) (DateUnit.underscore_free _ _ proper.known) same).2
  have known := proper.known
  rw [← names] at known
  have unknown : DateUnit.ofName? "mp2" = none := by decide
  exact Option.some_ne_none _ (known.symm.trans unknown)

end DatePart

end DataGrid
