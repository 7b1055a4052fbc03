import DataGrid.Proofs.Filter.Equality
import DataGrid.Proofs.Load.Gathering
/-!
The fields that stand for the keys of a level in a filter: the selector itself, or the selector and
the unit that names its interval, in any letter case. The key of a row and the value of such a field
are computed by different stages, into fields of other names, and are the same.
-/
namespace DataGrid

open Result

namespace Text

theorem trim_subset (text : List Char) : trim text ⊆ text := by
  intro c member
  rw [trim, List.mem_reverse] at member
  have inner := (List.dropWhile_sublist _).subset member
  rw [List.mem_reverse] at inner
  exact (List.dropWhile_sublist _).subset inner

theorem decimal?_digitless (text : List Char) (digitless : ∀ c ∈ text, c.isDigit = false) :
    decimal? text = none := by
  cases text with
  | nil => rfl
  | cons c rest =>
      have first := digitless c List.mem_cons_self
      simp [decimal?, first]

theorem int64?_digitless (text : List Char) (digitless : ∀ c ∈ text, c.isDigit = false) :
    int64? text = none := by
  unfold int64? int?
  split
  · rw [decimal?_digitless _ fun c member => digitless c (List.mem_cons_of_mem _ member)]
    rfl
  · rw [decimal?_digitless _ fun c member => digitless c (List.mem_cons_of_mem _ member)]
    rfl
  · rw [decimal?_digitless _ digitless]
    rfl

end Text

theorem Interval.rule_unit (word : String) (unit : DateUnit)
    (known : DateUnit.ofName? word = some unit) : (Interval.named word).rule = .part unit := by
  -- a name that is read as a number would be a width
  have number : Text.int64? (Text.trim word.toList) = none :=
    Text.int64?_digitless _ fun c member =>
      DateUnit.digit_free word unit known c (Text.trim_subset _ member)
  simp only [Interval.rule, number, known]
  rfl

theorem DateUnit.ofLocal_value (unit : DateUnit) (time value : Value)
    (computed : unit.ofLocal time = .ok value) : Predicate.isOperators value = false := by
  rcases unit.ofLocal_ok time value computed with ⟨_, rfl⟩ | ⟨moment, _, rfl | ⟨number, rfl, _⟩⟩
  · rfl
  · rfl
  · rfl

namespace GroupLevel

/-- The fields of a filter that stand for the keys of a level. The name of a unit may be written in
any letter case, and in another one than that of the interval. -/
inductive Searched (level : GroupLevel) : String → Prop
  | stored (raw : level.interval = none) (plain : Text.startsWithDollar level.selector = false)
      (undated : DatePart.ofName? level.selector = none) : Searched level level.selector
  | unit (word written : String) (unit : DateUnit) (named : level.interval = some (.named word))
      (known : DateUnit.ofName? word = some unit) (again : DateUnit.ofName? written = some unit)
      (referable : unit.isReferable = true) (filled : level.selector ≠ "")
      (dotless : '.' ∉ level.selector.toList) : Searched level (level.selector ++ "." ++ written)

variable {level : GroupLevel} {field : String}

theorem keyAt_unit (options : Options) (index : Nat) (word : String) (unit : DateUnit)
    (named : level.interval = some (.named word)) (known : DateUnit.ofName? word = some unit) :
    (level.keyAt options index).rule = .part unit := by
  rw [keyAt, named]
  exact Interval.rule_unit word unit known

theorem Searched.searchable (searched : level.Searched field) :
    Text.startsWithDollar (DatePart.matchName field) = false := by
  cases searched with
  | stored raw plain undated =>
      rw [DatePart.matchName, undated]
      exact plain
  | unit word written unit named known again referable filled dotless =>
      rw [Filtering.matchName_eq _ _
        (DatePart.ofName_append _ written unit filled dotless again referable)]
      exact Predicate.startsWithDollar_of_reserved _ (DatePart.computedName_reserved _)

theorem Searched.valueOf (searched : level.Searched field) (options : Options) (row : Document) :
    (level.keyAt options 0).valueOf row = Filtering.valueOf options.offset field row := by
  cases searched with
  | stored raw plain undated =>
      have part : ¬ Expression.IsWhole level.selector := by
        rintro (same | same) <;> rw [same] at plain <;> contradiction
      have rule : (level.keyAt options 0).rule = .raw := by
        rw [keyAt, raw]
        rfl
      rw [GroupKey.valueOf_raw _ rule, Filtering.valueOf_stored _ _ undated]
      exact congrArg Except.ok (Expression.reference_of_path row level.selector part)
  | unit word written unit named known again referable filled dotless =>
      rw [GroupKey.valueOf_part _ unit (keyAt_unit options 0 word unit named known),
        Filtering.valueOf_part _ _ _
          (DatePart.ofName_append _ written unit filled dotless again referable)]
      rfl

theorem Searched.subjectOf (searched : level.Searched field) (options : Options) :
    (level.keyAt options 0).keyOf = Filtering.subjectOf options.offset field := by
  funext row
  rw [GroupKey.keyOf, Filtering.subjectOf, searched.valueOf]

theorem Searched.unit_value (searched : level.Searched field) (dated : level.interval ≠ none)
    (options : Options) (row : Document) (value : Value)
    (computed : (level.keyAt options 0).valueOf row = .ok value) :
    Predicate.isOperators value = false := by
  cases searched with
  | stored raw => exact absurd raw dated
  | unit word written unit named known =>
      rw [GroupKey.valueOf_part _ unit (keyAt_unit options 0 word unit named known)] at computed
      obtain ⟨time, _, last⟩ := (bind_ok _ _ _).mp computed
      exact unit.ofLocal_value time value last

end GroupLevel

end DataGrid
