import DataGrid.Proofs.Double.Whole
import DataGrid.Proofs.Load.DateUnits
import DataGrid.Proofs.Pipeline.RunningTotal
/-!
Arithmetic on dates, up to the ends of 64 bits. A number that moves a date passes through a double,
and the instant that is reached wraps around. So the result is exact just where 64 bits hold it and the
number survives its double, and no arithmetic on dates is ever refused. The offset of a local time does
survive, and instants that wrapping brings back from beyond the end have no calendar parts: filters and
groupings by units of a date never get a wrong unit from it.
-/
namespace DataGrid

open Expression Result

namespace Arithmetic

open Accumulator

section Wrapping

variable (instant shift number : Int)

theorem wrap_inRange : InRange (wrap instant) := by
  unfold InRange wrap Int.bmod
  dsimp only
  omega

theorem wrap_eq_iff : wrap instant = instant ↔ InRange instant := by
  constructor
  · exact fun same => same ▸ wrap_inRange instant
  · intro inside
    unfold InRange at inside
    unfold wrap Int.bmod
    dsimp only
    omega

/-- What is reached is wanted just where nothing is wrapped and the number itself has been added: two
numbers that lead to one instant otherwise differ by a whole turn. -/
theorem wrap_moved_eq_iff (near : (shift - number).natAbs < 2 ^ 64) :
    wrap (instant + shift) = instant + number ↔ InRange (instant + number) ∧ shift = number := by
  constructor
  · intro same
    have inside := same ▸ wrap_inRange (instant + shift)
    refine ⟨inside, ?_⟩
    unfold wrap Int.bmod at same
    dsimp only at same
    omega
  · rintro ⟨inside, rfl⟩
    exact (wrap_eq_iff _).mpr inside

theorem wrap_add_eq_iff (kept : InRange shift) (bits : InRange number) :
    wrap (instant + shift) = instant + number ↔ InRange (instant + number) ∧ shift = number := by
  unfold InRange at kept bits
  exact wrap_moved_eq_iff instant shift number (by omega)

theorem wrap_sub_eq_iff (kept : InRange shift) (bits : InRange number) :
    wrap (instant - shift) = instant - number ↔ InRange (instant - number) ∧ shift = number := by
  unfold InRange at kept bits
  have moved := wrap_moved_eq_iff instant (-shift) (-number) (by omega)
  rwa [← Int.sub_eq_add_neg, ← Int.sub_eq_add_neg, Int.neg_inj] at moved

end Wrapping

/-- The number of milliseconds that a date is moved by: the double of a whole number, cut to 64 bits. -/
def shiftOf (number : Int) : Int := (Double.ofInt number).toInt64

/-- Whole numbers that move a date by themselves. -/
def Moves (number : Int) : Prop := Double.IsExact number ∨ number = 2 ^ 63 - 1

theorem shiftOf_eq_iff (number : Int) (bits : InRange number) :
    shiftOf number = number ↔ Moves number :=
  Double.toInt64_eq_iff number bits

section Dates

variable (stored other : Value) (x y number : Int)

theorem present_date (date : stored.dateMillis? = some x) : ¬ stored.isNull = true := by
  intro null
  rw [(Value.isNull_iff stored).mp null] at date
  contradiction

theorem number_dateless : (Value.int number).dateMillis? = none := rfl

/-- What a date and a whole number make, on either side of an addition and on the right of a
subtraction, and what two dates make. -/
theorem apply_dates (date : stored.dateMillis? = some x) (another : other.dateMillis? = some y) :
    add.apply stored (.int number) = .ok (.date (wrap (x + shiftOf number))) ∧
      add.apply (.int number) stored = .ok (.date (wrap (x + shiftOf number))) ∧
      subtract.apply stored (.int number) = .ok (.date (wrap (x - shiftOf number))) ∧
      subtract.apply stored other = .ok (.int (wrap (x - y))) := by
  -- neither operand is null, for dates and numbers are something
  have left : ¬ (stored.isNull || (Value.int number).isNull) = true := by
    simpa [Value.isNull] using present_date stored x date
  have right : ¬ ((Value.int number).isNull || stored.isNull) = true := by
    simpa [Value.isNull] using present_date stored x date
  have both : ¬ (stored.isNull || other.isNull) = true := by
    rw [Bool.or_eq_true_iff, not_or]
    exact ⟨present_date stored x date, present_date other y another⟩
  refine ⟨?_, ?_, ?_, ?_⟩
  · unfold apply
    rw [if_neg left, date, number_dateless]
    rfl
  · unfold apply
    rw [if_neg right, date, number_dateless]
    rfl
  · unfold apply
    rw [if_neg left, date, number_dateless]
    rfl
  · unfold apply
    rw [if_neg both, date, another]
    rfl

end Dates

end Arithmetic

namespace DateUnit

variable (unit : DateUnit) (offset : Int) (stored : Value)

/-- A stored date whose local time lies outside of the supported years has no unit: if that time is
beyond the end of 64 bits, the instant that it is wrapped to lies outside as well. -/
theorem ofStored_outside (bounds : -(2 ^ 31) ≤ offset ∧ offset < 2 ^ 31) (instant : Int)
    (date : stored.dateMillis? = some instant)
    (outside : Calendar.inRange (instant - offset * 60000) = false) :
    ∃ fault, (Term.localOf offset stored).bind unit.ofLocal = .error fault := by
  have inside := Value.dateMillis_bounds stored instant date
  have unsupported :
      ¬ Calendar.inRange (Arithmetic.wrap (instant - offset * 60000)) = true := by
    intro supported
    rw [Arithmetic.wrap_supported _ (by omega) (by omega) supported, outside] at supported
    contradiction
  have read : (Value.date (Arithmetic.wrap (instant - offset * 60000))).dateMillis? =
      some (Arithmetic.wrap (instant - offset * 60000)) :=
    if_pos (Arithmetic.wrap_inRange _)
  rw [Term.localOf_date offset stored instant date bounds]
  refine unit.ofLocal_refused _ (by simp [Value.date, Value.single]) ?_
  rw [Value.moment?, read, Option.bind_some, Calendar.moment?, if_neg unsupported]

/-- How stages compute a unit of a stored date into a field: exactly, where the local time lies in the
supported years, and else with a refusal. -/
def Dated (patterns : PatternCompiler) (unit : DateUnit) (stages : Pipeline) (name : String)
    (row : Document) (time : Int) : Prop :=
  if Calendar.inRange time then
    ∃ out, Pipeline.run patterns stages [row] = .ok [out] ∧
      out.get? name = some (unit.number (.ofMillis time))
  else ∃ fault, Pipeline.run patterns stages [row] = .error fault

theorem dated_of_computed {unit : DateUnit} {offset : Int} {patterns : PatternCompiler}
    {stages : Pipeline} {name path : String} {row : Document}
    (bounds : -(2 ^ 31) ≤ offset ∧ offset < 2 ^ 31)
    (computed :
      (∀ value, (Term.localOf offset (reference row path)).bind unit.ofLocal = .ok value →
        ∃ out, Pipeline.run patterns stages [row] = .ok [out] ∧ out.get? name = some value) ∧
      ∀ fault, (Term.localOf offset (reference row path)).bind unit.ofLocal = .error fault →
        ∃ fault, Pipeline.run patterns stages [row] = .error fault)
    (instant : Int) (date : (reference row path).dateMillis? = some instant) :
    Dated patterns unit stages name row (instant - offset * 60000) := by
  obtain ⟨yields, fails⟩ := computed
  unfold Dated
  split
  · rename_i supported
    exact yields _ (unit.ofStored_date offset _ bounds instant date supported)
  · rename_i outside
    obtain ⟨fault, refused⟩ := unit.ofStored_outside offset _ bounds instant date
      (by simpa using outside)
    exact fails fault refused

end DateUnit

namespace Arithmetic

open Accumulator

/-- Dates near the ends of 64 bits. To add a whole number to a date, to subtract one from it and to
subtract a date never fails; it yields the exact sum or difference if and only if 64 bits hold that and,
where a number moves the date, the number survives its double. Every unit of a stored date, for a filter
as for a group key and at every offset, is that of the exact local time, and refused just where that
time lies outside of the supported years. -/
theorem dates_move (patterns : PatternCompiler) :
    (∀ (doc first second term stored other : Value) (x y number : Int),
      evaluate doc first = .ok stored → stored.dateMillis? = some x →
      evaluate doc second = .ok other → other.dateMillis? = some y →
      evaluate doc term = .ok (.int number) → InRange number →
      (∃ moved, evaluate doc (Term.apply "$add" [first, term]) = .ok (.date moved) ∧
        evaluate doc (Term.apply "$add" [term, first]) = .ok (.date moved) ∧
        moved = wrap (x + shiftOf number) ∧
        (moved = x + number ↔ InRange (x + number) ∧ Moves number)) ∧
      (∃ moved, evaluate doc (Term.apply "$subtract" [first, term]) = .ok (.date moved) ∧
        moved = wrap (x - shiftOf number) ∧
        (moved = x - number ↔ InRange (x - number) ∧ Moves number)) ∧
      ∃ between, evaluate doc (Term.apply "$subtract" [first, second]) = .ok (.int between) ∧
        between = wrap (x - y) ∧ (between = x - y ↔ InRange (x - y))) ∧
    ∀ (offset : Int), -(2 ^ 31) ≤ offset → offset < 2 ^ 31 →
      ∀ (row : Document) (path written : String) (unit : DateUnit) (instant : Int),
        DateUnit.ofName? written = some unit →
        (reference row path).dateMillis? = some instant →
        (∀ level, unit.Dated patterns
          (GroupKey.ofInterval path (some (.named written)) level offset).stages
          (GroupKey.fieldOf level) row (instant - offset * 60000)) ∧
        (path ≠ "" → '.' ∉ path.toList → unit.isReferable = true → unit.Dated patterns
          (DateParts.ofFields offset [path ++ "." ++ written]).stages
          (DatePart.matchName (path ++ "." ++ written)) row (instant - offset * 60000)) := by
  constructor
  · intro doc first second term stored other x y number read date readToo another counted bits
    obtain ⟨added, addedToo, taken, between⟩ := apply_dates stored other x y number date another
    have kept : InRange (shiftOf number) := Double.toInt64_bounds _
    have sum (a b : Value) : evaluate doc (Term.apply "$add" [a, b]) =
        (evaluate doc a).bind fun a => (evaluate doc b).bind fun b => add.apply a b :=
      evaluate_arithmetic .add doc a b
    have difference (a b : Value) : evaluate doc (Term.apply "$subtract" [a, b]) =
        (evaluate doc a).bind fun a => (evaluate doc b).bind fun b => subtract.apply a b :=
      evaluate_arithmetic .subtract doc a b
    refine ⟨⟨_, ?_, ?_, rfl, ?_⟩, ⟨_, ?_, rfl, ?_⟩, ⟨_, ?_, rfl, wrap_eq_iff _⟩⟩
    · rw [sum, read, counted]
      exact added
    · rw [sum, read, counted]
      exact addedToo
    · rw [wrap_add_eq_iff x _ number kept bits, shiftOf_eq_iff number bits]
    · rw [difference, read, counted]
      exact taken
    · rw [wrap_sub_eq_iff x _ number kept bits, shiftOf_eq_iff number bits]
    · rw [difference, read, readToo]
      exact between
  · intro offset low high row path written unit instant known date
    constructor
    · intro level
      let key := GroupKey.ofInterval path (some (.named written)) level offset
      refine DateUnit.dated_of_computed ⟨low, high⟩ ?_ instant date
      rw [DateUnit.key_spelled path written known level offset]
      exact DateUnit.run_computed key.quarterField key.field_plain key.quarterField_plain
        key.quarterField_reserved patterns row
    · intro filled dotless referable
      exact DateUnit.dated_of_computed ⟨low, high⟩
        (DateUnit.Computes.run (.filtered written known referable) filled dotless patterns row)
        instant date

/-- The last instant of 64 bits, and the first one of the era as a text. -/
def lastAndFirst : Document :=
  [("last", .date 9223372036854775807), ("first", .single "$date" (.string "1970-01-01T00:00:00Z"))]

/-- A step back by a number of 54 bits that ends in a zero is exact, the same step ahead is not; from
the first instant to the last one it is all positive numbers. An hour to the east the last instant has
no unit, and an hour to the west the first one still belongs to the year before. -/
theorem dates_move_ends :
    evaluate (.object lastAndFirst) (Term.apply "$add" [Term.field "last", .int (-9007199254740994)]) =
      .ok (.date 9214364837600034813) ∧
    evaluate (.object lastAndFirst)
      (Term.apply "$subtract" [Term.field "last", .int (-9007199254740994)]) ≠
      .ok (.date (9223372036854775807 + 9007199254740994)) ∧
    evaluate (.object lastAndFirst) (Term.apply "$subtract" [Term.field "last", Term.field "first"]) =
      .ok (.int 9223372036854775807) ∧
    (∃ fault, Pipeline.run Pattern.compile
      (GroupKey.ofInterval "last" (some (.named "hour")) 0 (-60)).stages [lastAndFirst] =
        .error fault) ∧
    ∃ out, Pipeline.run Pattern.compile (DateParts.ofFields 60 ["first.Year"]).stages [lastAndFirst] =
      .ok [out] ∧ out.get? "___first_Year" = some (.int 1969) := by
  have epoch : (reference lastAndFirst "first").dateMillis? = some 0 := by decide +kernel
  obtain ⟨arithmetic, units⟩ := dates_move Pattern.compile
  obtain ⟨⟨back, added, _, _, exact⟩, ⟨ahead, taken, _, beyond⟩, ⟨between, apart, _, whole⟩⟩ :=
    arithmetic (.object lastAndFirst) (Term.field "last") (Term.field "first")
      (.int (-9007199254740994)) (.date 9223372036854775807) _ 9223372036854775807 0
      (-9007199254740994) (by decide +kernel) rfl (evaluate_field _ _) epoch rfl (by decide)
  have moves : Moves (-9007199254740994) := Or.inl ⟨4503599627370497, 1, by decide, by decide⟩
  obtain rfl := exact.mpr ⟨by decide, moves⟩
  obtain rfl := whole.mpr (by decide)
  refine ⟨added, fun same => ?_, apart, ?_, ?_⟩
  · have reached : ahead = 9223372036854775807 - -9007199254740994 := by
      simpa [Value.date, Value.single] using taken.symm.trans same
    exact absurd (beyond.mp reached).1 (by decide)
  · have hour := (units (-60) (by decide) (by decide) lastAndFirst "last" "hour" .hour
      9223372036854775807 (by decide) (by decide +kernel)).1 0
    rwa [DateUnit.Dated, if_neg (by decide)] at hour
  · have year := (units 60 (by decide) (by decide) lastAndFirst "first" "Year" .year 0 (by decide)
      epoch).2 (by decide) (by decide) rfl
    rwa [DateUnit.Dated, if_pos (by decide)] at year

/-- A number of 54 bits that ends in a one is rounded before it moves a date. A step over the end of 64
bits, and a difference beyond them, are not refused. -/
theorem dates_move_fails :
    (InRange 9007199254740993 ∧
      evaluate (.object []) (Term.apply "$add" [.date 0, .int 9007199254740993]) ≠
        .ok (.date 9007199254740993)) ∧
    (¬ InRange (9223372036854775807 + 1) ∧
      ¬ ∃ fault, evaluate (.object []) (Term.apply "$add" [.date 9223372036854775807, .int 1]) =
        .error fault) ∧
    (¬ InRange (9223372036854775807 - -1) ∧
      ¬ ∃ fault, evaluate (.object [])
        (Term.apply "$subtract" [.date 9223372036854775807, .date (-1)]) = .error fault) := by
  refine ⟨⟨by decide, by decide +kernel⟩, ⟨by decide, ?_⟩, ⟨by decide, ?_⟩⟩
  · exact fun failed =>
      (failed_iff _).mp failed ⟨.date (-9223372036854775808), by decide +kernel⟩
  · exact fun failed =>
      (failed_iff _).mp failed ⟨.int (-9223372036854775808), by decide +kernel⟩

end Arithmetic

end DataGrid
