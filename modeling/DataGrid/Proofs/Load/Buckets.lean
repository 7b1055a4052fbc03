import DataGrid.Proofs.Group.Bucket
import DataGrid.Proofs.Load.Labels
/-!
Buckets of numbers as they are loaded. The rows of a group have the numbers of one interval, and all
groups have intervals of one width, as long as the numbers start at zero or are multiples of the
width. A number below zero that is no multiple is put into the bucket above its own.
-/
namespace DataGrid

open Result

namespace Value

/-- The key of a bucket of numbers, and of the rows without a number. -/
def ofBucket (bucket : Option Int) : Value := bucket.elim .null fun index => .double (.ofInt index)

theorem ofBucket_told (bucket other : Option Int) (small : ∀ index ∈ bucket, index.natAbs ≤ 2 ^ 53)
    (smallToo : ∀ index ∈ other, index.natAbs ≤ 2 ^ 53)
    (same : (ofBucket bucket).equal (ofBucket other) = true) : bucket = other := by
  cases bucket with
  | none =>
      cases other with
      | none => rfl
      | some index => simp [ofBucket, equal, compare, bracket, Bracket.rank] at same
  | some index =>
      cases other with
      | none => simp [ofBucket, equal, compare, bracket, Bracket.rank] at same
      | some second =>
          have doubles : (Double.ofInt index).signed = (Double.ofInt second).signed := by
            simpa [ofBucket, equal, compare, Double.compare] using same
          rw [Double.signed_small index (small index rfl),
            Double.signed_small second (smallToo second rfl)] at doubles
          have positive := Double.one_pos
          exact congrArg some (Int.eq_of_mul_eq_mul_right (by omega) doubles)

end Value

theorem bucket_bounds (number width bucket : Int) (positive : 0 < width) :
    number / width = bucket ↔ bucket * width ≤ number ∧ number < (bucket + 1) * width := by
  rw [Int.ediv_eq_iff_of_pos positive, Int.add_mul, Int.one_mul]

theorem natAbs_cut (number width : Int) : (number.tdiv width).natAbs ≤ number.natAbs := by
  rw [Int.natAbs_tdiv]
  exact Nat.div_le_self _ _

namespace GroupLevel

variable (level : GroupLevel) (options : Options) (index : Nat)

theorem keyAt_bucket (interval : Interval) (width : Int) (given : level.interval = some interval)
    (gives : interval.Gives width) (positive : 0 < width) (narrow : width ≤ 2 ^ 53) :
    (level.keyAt options index).rule = .bucket width := by
  rw [keyAt, given]
  exact gives.rule positive (by omega)

theorem keyAt_positive (width : Int) (bucket : (level.keyAt options index).rule = .bucket width) :
    width ≠ 0 := by
  rw [keyAt, GroupKey.ofInterval] at bucket
  cases given : level.interval with
  | none => simp [given] at bucket
  | some interval =>
      rw [given] at bucket
      exact (interval.rule_bucket width bucket).ne'

end GroupLevel

namespace LoadResult

section Bucketed

variable (patterns : PatternCompiler) (collection : Collection) {request : Request}
  {level : GroupLevel} (opens : request.Opens level) (options : Options) (width : Int)
  (positive : 0 < width) (narrow : width ≤ 2 ^ 53)
  (rule : (level.keyAt options 0).rule = .bucket width)
include opens positive narrow rule

/-- Rows with whole numbers are grouped by their quotients by the width, cut toward zero. -/
theorem bucketed_groups (rows : List Document)
    (before : collection.run patterns options.before = .ok rows)
    (few : request.groupCount = true → rows.length < 2 ^ 64)
    (small : request.needsTotalCount = true → rows.length < 2 ^ 64)
    (number : Document → Option Int)
    (stored : ∀ row ∈ rows,
      Expression.reference row level.selector = (number row).elim .null .int)
    (bounded : ∀ row ∈ rows, ∀ given ∈ number row, given.natAbs ≤ 2 ^ 53) :
    ∃ sorted,
      collection.run patterns (options.before ++ SortKey.stages request.sort) = .ok sorted ∧
      sorted.Perm rows ∧
      Groups (collection.store patterns) request options Value.ofBucket
        (fun row => (number row).map (·.tdiv width)) sorted := by
  have fits (row : Document) (member : row ∈ rows) :
      ∀ index ∈ (number row).map (·.tdiv width), index.natAbs ≤ 2 ^ 53 := by
    intro index listed
    obtain ⟨given, known, rfl⟩ := Option.map_eq_some_iff.mp listed
    exact (natAbs_cut given width).trans (bounded row member given known)
  refine opened_labels patterns collection opens options
    ((level.keyAt options 0).names_bucket width rule) Value.ofBucket _ rows before few small
    (fun row member => ?_) (fun row member other inRows =>
      Value.ofBucket_told _ _ (fits row member) (fits other inRows)) fun row _ => ?_
  · rw [GroupKey.valueOf_bucket _ width rule]
    change Term.quotientOf (Expression.reference row level.selector) (.int width) = _
    rw [stored row member]
    cases known : number row with
    | none => exact Term.quotientOf_null width
    | some given =>
        have exact := bounded row member given known
        rw [Option.elim_some, Term.quotientOf_int given width exact positive narrow]
        rfl
  · cases number row <;> rfl

end Bucketed

/-- The stages of a group level never divide by zero. Where its interval gives a width, the key of a
whole number is its quotient by the width, cut toward zero, and null has the key null. Rows are grouped
by these quotients, and those without a number are in a group of their own. Numbers from zero on and
multiples of the width are thereby grouped by the intervals from one multiple of the width to the
next. -/
theorem ofRequest_buckets (patterns : PatternCompiler) (level : GroupLevel) (options : Options) :
    (∀ index docs operator, Pipeline.run patterns (level.keyAt options index).stages docs ≠
      .error (.invalidExpression (.zeroDivisor operator))) ∧
    ∀ interval width, level.interval = some interval → interval.Gives width → 1 ≤ width →
      width ≤ 2 ^ 53 →
      (∀ index doc,
        (Expression.reference doc level.selector = .null →
          Pipeline.run patterns (level.keyAt options index).stages [doc] =
            .ok [doc.put (GroupKey.fieldOf index) .null]) ∧
        ∀ number, Expression.reference doc level.selector = .int number →
          number.natAbs ≤ 2 ^ 53 →
          Pipeline.run patterns (level.keyAt options index).stages [doc] =
            .ok [doc.put (GroupKey.fieldOf index) (.double (.ofInt (number.tdiv width)))] ∧
          (Double.ofInt (number.tdiv width)).signed = number.tdiv width * Double.one ∧
          (number.tdiv width = number / width ↔ 0 ≤ number ∨ width ∣ number)) ∧
      (∀ number bucket : Int, number / width = bucket ↔
        bucket * width ≤ number ∧ number < (bucket + 1) * width) ∧
      ∀ (collection : Collection) (request : Request) (rows : List Document)
        (number : Document → Option Int),
        request.Opens level → collection.run patterns options.before = .ok rows →
        (request.groupCount = true → rows.length < 2 ^ 64) →
        (request.needsTotalCount = true → rows.length < 2 ^ 64) →
        (∀ row ∈ rows, Expression.reference row level.selector = (number row).elim .null .int) →
        (∀ row ∈ rows, ∀ given ∈ number row, given.natAbs ≤ 2 ^ 53) →
        ∃ sorted,
          collection.run patterns (options.before ++ SortKey.stages request.sort) = .ok sorted ∧
          sorted.Perm rows ∧
          Groups (collection.store patterns) request options Value.ofBucket
            (fun row => (number row).map (·.tdiv width)) sorted ∧
          ((∀ row ∈ rows, ∀ given ∈ number row, 0 ≤ given ∨ width ∣ given) →
            Groups (collection.store patterns) request options Value.ofBucket
              (fun row => (number row).map (· / width)) sorted) := by
  refine ⟨fun index docs => ?_, fun interval width given gives positive narrow => ?_⟩
  · exact (level.keyAt options index).neverByZero_stages (level.keyAt_positive options index) patterns
      docs
  have rule (index : Nat) := level.keyAt_bucket options index interval width given gives positive narrow
  -- the key is put behind the document, whatever its value is
  have put (index : Nat) (doc : Document) (value : Value)
      (quotient : Term.quotientOf (Expression.reference doc level.selector) (.int width) = .ok value) :
      Pipeline.run patterns (level.keyAt options index).stages [doc] =
        .ok [doc.put (GroupKey.fieldOf index) value] := by
    refine (level.keyAt options index).run_alone
      ((level.keyAt options index).names_bucket width (rule index)) patterns doc value ?_
    rw [GroupKey.valueOf_bucket _ width (rule index)]
    exact quotient
  refine ⟨fun index doc => ⟨fun null => ?_, fun number stored small => ?_⟩, ?_, ?_⟩
  · refine put index doc .null ?_
    rw [null, Term.quotientOf_null]
  · have cut : (number.tdiv width).natAbs ≤ 2 ^ 53 := (natAbs_cut number width).trans small
    refine ⟨put index doc _ ?_, Double.signed_small _ cut, tdiv_floor number width positive⟩
    rw [stored, Term.quotientOf_int number width small positive narrow]
  · exact fun number bucket => bucket_bounds number width bucket positive
  · intro collection request rows number opens before few small stored bounded
    obtain ⟨sorted, ran, order, grouped⟩ := bucketed_groups patterns collection opens options width
      positive narrow (rule 0) rows before few small number stored bounded
    refine ⟨sorted, ran, order, grouped, fun floors => groups_congr (fun row member => ?_) grouped⟩
    cases known : number row with
    | none => rfl
    | some given =>
        have floor := floors row (order.mem_iff.mp member) given known
        exact congrArg some ((tdiv_floor given width positive).mpr floor)

/-- The number under a field of a row, if there is one. -/
def numberAt? (field : String) (row : Document) : Option Int :=
  match row.get? field with
  | some (.int number) => some number
  | _ => none

/-- Tens, spelled between blanks. -/
def byTens : GroupLevel :=
  { selector := "n", expanded := true, interval := some (.named " +010  ") }

def inTens : Request := { group := [byTens], groupCount := true }

/-- Numbers in several buckets, some of them at their ends, and rows without a number. -/
def readings : Collection :=
  .ofDocuments
    [[("n", .int 9)], [("at", .int 1), ("n", .int 10)], [("n", .int (-20))], [("n", .null)],
      [("n", .int 9007199254740992)], [("at", .int 2)], [("n", .int 0)], [("n", .int (-10))]]

theorem ofRequest_buckets_readings :
    (∀ docs operator, Pipeline.run Pattern.compile (byTens.keyAt {} 1).stages docs ≠
      .error (.invalidExpression (.zeroDivisor operator))) ∧
    Pipeline.run Pattern.compile (byTens.keyAt {} 1).stages [[("n", .int 19)]] =
      .ok [[("n", .int 19), ("___group_key_1", .double (.ofInt 1))]] ∧
    ∃ sorted, sorted.Perm readings.documents ∧
      Groups (readings.store Pattern.compile) inTens {} Value.ofBucket
        (fun row => (numberAt? "n" row).map (·.tdiv 10)) sorted ∧
      Groups (readings.store Pattern.compile) inTens {} Value.ofBucket
        (fun row => (numberAt? "n" row).map (· / 10)) sorted := by
  have gives : Interval.Gives (.named " +010  ") 10 := by
    have digits := Interval.Gives.digits [' '] ['+'] ['0', '1', '0'] [' ', ' '] (by simp [Text.isBlank])
      (by simp [Text.isBlank]) (Or.inr rfl) (by decide) (by simp)
    have width : Nat.ofDigits 10 (['0', '1', '0'].reverse.map Text.digitValue) = 10 := by decide
    rwa [width] at digits
  have stored : ∀ row ∈ readings.documents,
      Expression.reference row "n" = (numberAt? "n" row).elim .null .int := by decide
  obtain ⟨safe, buckets⟩ := ofRequest_buckets Pattern.compile byTens {}
  obtain ⟨keys, _, groups⟩ := buckets _ 10 rfl gives (by decide) (by decide)
  obtain ⟨sorted, _, order, cut, floors⟩ := groups readings inTens readings.documents (numberAt? "n")
    ⟨rfl, rfl, rfl, rfl, ⟨rfl, rfl⟩, rfl⟩ rfl (fun _ => by decide)
    (fun wanted => absurd wanted (by decide)) stored (by decide)
  exact ⟨safe 1, ((keys 1 [("n", .int 19)]).2 19 rfl (by decide)).1, sorted, order, cut,
    floors (by decide)⟩

/-- Numbers around zero, in two intervals of ten. -/
def aroundZero : Collection := .ofDocuments [[("n", .int (-3))], [("n", .int 4)]]

/-- A number below zero is put into the bucket from zero on. -/
theorem ofRequest_buckets_fails :
    Pipeline.run Pattern.compile (byTens.keyAt {} 0).stages [[("n", .int (-3))]] ≠
        .ok [[("n", .int (-3)), ("___group_key_0", .double (.ofInt (-3 / 10)))]] ∧
      ¬ Groups (aroundZero.store Pattern.compile) inTens {} Value.ofBucket
        (fun row => (numberAt? "n" row).map (· / 10)) aroundZero.documents := by
  constructor
  · decide +kernel
  · exact not_groups_merged _ inTens _ _ _ _ (by decide +kernel) [("n", .int (-3))] [("n", .int 4)]
      (by decide) (by decide) (by decide)

end LoadResult

end DataGrid
