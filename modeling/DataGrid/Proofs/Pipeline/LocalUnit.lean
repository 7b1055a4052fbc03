import DataGrid.Proofs.Calendar.Instant
import DataGrid.Proofs.Double
import DataGrid.Proofs.Pipeline.Unit
/-!
Units of the local time at a stored instant. The difference to local time is exact, and it leaves
the 64 bits of an instant only for years that have no calendar parts. What is no date has no unit:
where the expression of a unit succeeds nonetheless, it yields null.
-/
namespace DataGrid

open Result

theorem Arithmetic.wrap_supported (instant : Int) (low : -(2 ^ 63) - 2 ^ 48 ≤ instant)
    (high : instant < 2 ^ 63 + 2 ^ 48) (supported : Calendar.inRange (wrap instant) = true) :
    wrap instant = instant := by
  obtain ⟨above, below⟩ := Calendar.inRange_bounds _ supported
  unfold wrap Int.bmod at above below ⊢
  dsimp only at above below ⊢
  omega

namespace Value

theorem dateMillis_bounds (value : Value) (instant : Int) (date : value.dateMillis? = some instant) :
    -(2 ^ 63) ≤ instant ∧ instant < 2 ^ 63 := by
  unfold dateMillis? at date
  split at date
  · rw [int64?, inInt64] at date
    split at date
    · rename_i bounds
      rw [← Option.some.inj date]
      exact bounds
    · contradiction
  · have bounds := Calendar.Timestamp.millis_bounds _ _ date
    omega
  · contradiction

theorem dateMillis_date (instant millis : Int) (read : (date instant).dateMillis? = some millis) :
    millis = instant := by
  have bounds : (int instant).int64? = some millis := read
  rw [int64?, inInt64] at bounds
  split at bounds
  · exact (Option.some.inj bounds).symm
  · contradiction

theorem dateMillis_ofDouble (x : Double) : (ofDouble x).dateMillis? = none := by
  unfold ofDouble
  cases x.finite? <;> rfl

theorem isNull_iff (value : Value) : value.isNull = true ↔ value = .null := by
  cases value <;> simp [isNull]

/-- Values that comparisons do not tell apart: they may hold one number in two forms. -/
def Alike (a b : Value) : Prop := a = b ∨ ∃ number, a = .double (.ofInt number) ∧ b = .int number

end Value

namespace Term

theorem onNumbers_ok (op : Arithmetic) (a b value : Value) (ran : op.onNumbers a b = .ok value) :
    ∃ x y, a.double? = some x ∧ b.double? = some y ∧
      ((∃ number, value = .int number) ∨ value = .ofDouble (op.onDoubles x y)) := by
  have number (operand : Value) (x : Double) (read : op.number operand = .ok x) :
      operand.double? = some x := by
    unfold Arithmetic.number at read
    split at read
    · rename_i same
      rw [same, Except.ok.inj read]
    · contradiction
  unfold Arithmetic.onNumbers at ran
  obtain ⟨x, first, later⟩ := (bind_ok _ _ _).mp ran
  obtain ⟨y, second, last⟩ := (bind_ok _ _ _).mp later
  refine ⟨x, y, number a x first, number b y second, ?_⟩
  split at last
  · contradiction
  · dsimp only at last
    split at last
    · exact Or.inl ⟨_, (Except.ok.inj last).symm⟩
    · exact Or.inr (Except.ok.inj last).symm

theorem onNumbers_dateless (op : Arithmetic) (a b value : Value)
    (ran : op.onNumbers a b = .ok value) : value.dateMillis? = none := by
  obtain ⟨x, y, _, _, ⟨number, rfl⟩ | rfl⟩ := onNumbers_ok op a b value ran
  · rfl
  · exact Value.dateMillis_ofDouble _

variable (offset : Int) (stored : Value)

theorem localOf_null : localOf offset .null = .ok .null := rfl

theorem localOf_present (present : stored ≠ .null) :
    localOf offset stored =
      match stored.dateMillis? with
      | some instant => (Arithmetic.millis .subtract (.int (offset * 60000))).map fun shift =>
          .date (Arithmetic.wrap (instant - shift))
      | none => Arithmetic.subtract.onNumbers stored (.int (offset * 60000)) := by
  have neither : ¬ (stored.isNull || (Value.int (offset * 60000)).isNull) = true := by
    intro null
    rw [Bool.or_eq_true_iff, Value.isNull_iff] at null
    exact null.elim present Bool.false_ne_true
  have whole : (Value.int (offset * 60000)).dateMillis? = none := rfl
  unfold localOf Arithmetic.apply
  rw [if_neg neither, whole]
  cases stored.dateMillis? <;> rfl

/-- A date is moved by whole minutes, as long as they are few enough for a double to hold them. -/
theorem localOf_date (instant : Int) (date : stored.dateMillis? = some instant)
    (bounds : -(2 ^ 31) ≤ offset ∧ offset < 2 ^ 31) :
    localOf offset stored = .ok (.date (Arithmetic.wrap (instant - offset * 60000))) := by
  have present : stored ≠ .null := by
    rintro rfl
    contradiction
  have cut : Arithmetic.millis .subtract (.int (offset * 60000)) = .ok (offset * 60000) :=
    congrArg Except.ok (Double.toInt64_ofInt (offset * 60000) (by omega))
  rw [localOf_present offset stored present, date, cut]
  rfl

theorem localOf_cases (time : Value) (bounds : -(2 ^ 31) ≤ offset ∧ offset < 2 ^ 31)
    (moved : localOf offset stored = .ok time) :
    (∃ instant, stored.dateMillis? = some instant ∧
      time = .date (Arithmetic.wrap (instant - offset * 60000))) ∨
    (stored.dateMillis? = none ∧ time.dateMillis? = none) := by
  by_cases null : stored = .null
  · rw [null] at moved ⊢
    rw [← Except.ok.inj moved]
    exact Or.inr ⟨rfl, rfl⟩
  · cases date : stored.dateMillis? with
    | none =>
        rw [localOf_present offset stored null, date] at moved
        exact Or.inr ⟨rfl, onNumbers_dateless _ _ _ _ moved⟩
    | some instant =>
        rw [localOf_date offset stored instant date bounds] at moved
        exact Or.inl ⟨instant, rfl, (Except.ok.inj moved).symm⟩

end Term

namespace CalendarPart

theorem apply_moment (part : CalendarPart) (time : Value) (moment : Calendar.Moment)
    (found : time.moment? = some moment) : part.apply time = .ok (.int (part.ofMoment moment)) := by
  have present : ¬ time.isNull = true := by
    intro null
    rw [(Value.isNull_iff time).mp null] at found
    contradiction
  rw [apply, if_neg present, found]
  rfl

theorem apply_refused (part : CalendarPart) (time : Value) (present : time ≠ .null)
    (dateless : time.moment? = none) :
    part.apply time = .error (.invalidExpression (.operand part.name time)) := by
  rw [apply, if_neg fun null => present ((Value.isNull_iff time).mp null), dateless]
  rfl

end CalendarPart

namespace DateUnit

/-- The number of a unit. Days of the week are counted from Sunday, which is 0. -/
def ofMoment (unit : DateUnit) (moment : Calendar.Moment) : Int :=
  match unit with
  | .year => moment.date.year
  | .quarter => (moment.date.month + 2) / 3
  | .month => moment.date.month
  | .day => moment.date.day
  | .dayOfWeek => moment.weekday
  | .hour => moment.hour
  | .minute => moment.minute
  | .second => moment.second

/-- The unit of the local time at a stored instant, null where no date is stored. -/
def readAt (unit : DateUnit) (offset : Int) (stored : Value) : Value :=
  match stored.dateMillis?.bind fun instant => Calendar.moment? (instant - offset * 60000) with
  | some moment => .int (unit.ofMoment moment)
  | none => .null

theorem moment_bounds (time : Value) (moment : Calendar.Moment) (found : time.moment? = some moment) :
    1 ≤ moment.date.month ∧ moment.date.month ≤ 12 ∧ moment.weekday < 7 := by
  obtain ⟨millis, _, read⟩ := Option.bind_eq_some_iff.mp found
  rw [Calendar.moment?] at read
  split at read
  · rw [← Option.some.inj read]
    have months := Calendar.month_bounds (millis / Calendar.millisPerDay)
    exact ⟨months.1, months.2, Calendar.weekday_lt _⟩
  · contradiction

theorem quarter_of_month (month : Nat) (first : 1 ≤ month) (last : month ≤ 12) :
    Arithmetic.apply .add (.int month) (.int 2) = .ok (.int (month + 2)) ∧
      quarterOf (.int (month + 2)) = .ok (.double (.ofInt (((month : Int) + 2) / 3))) := by
  have number : month - 1 < 12 := by omega
  have each : ∀ n : Fin 12,
      Arithmetic.apply .add (.int (n.val + 1 : Nat)) (.int 2) = .ok (.int ((n.val + 1 : Nat) + 2)) ∧
        quarterOf (.int ((n.val + 1 : Nat) + 2)) =
          .ok (.double (.ofInt (((n.val + 1 : Nat) + 2 : Int) / 3))) := by
    decide +kernel
  have this := each ⟨month - 1, number⟩
  rwa [Nat.sub_add_cancel first] at this

theorem weekday_from_zero (weekday : Nat) (inWeek : weekday < 7) :
    Arithmetic.apply .subtract (.int ((weekday : Int) + 1)) (.int 1) = .ok (.int weekday) := by
  have each : ∀ n : Fin 7,
      Arithmetic.apply .subtract (.int ((n.val : Int) + 1)) (.int 1) = .ok (.int n.val) := by
    decide +kernel
  exact each ⟨weekday, inWeek⟩

/-- The number of a unit as it is computed: only the division of a quarter yields a double. -/
def number (unit : DateUnit) (moment : Calendar.Moment) : Value :=
  if unit = .quarter then .double (.ofInt (unit.ofMoment moment)) else .int (unit.ofMoment moment)

theorem number_alike (unit : DateUnit) (moment : Calendar.Moment) :
    Value.Alike (unit.number moment) (.int (unit.ofMoment moment)) := by
  unfold number
  split
  · exact Or.inr ⟨_, rfl, rfl⟩
  · exact Or.inl rfl

theorem ofLocal_null (unit : DateUnit) : unit.ofLocal .null = .ok .null := by
  cases unit <;> rfl

theorem ofLocal_moment (unit : DateUnit) (time : Value) (moment : Calendar.Moment)
    (found : time.moment? = some moment) : unit.ofLocal time = .ok (unit.number moment) := by
  obtain ⟨low, high, inWeek⟩ := moment_bounds time moment found
  have part := fun part => CalendarPart.apply_moment part time moment found
  cases unit with
  | dayOfWeek => exact (bind_ok _ _ _).mpr ⟨_, part _, weekday_from_zero moment.weekday inWeek⟩
  | quarter =>
      obtain ⟨sum, third⟩ := quarter_of_month moment.date.month low high
      exact (bind_ok _ _ _).mpr ⟨_, (bind_ok _ _ _).mpr ⟨_, part _, sum⟩, third⟩
  | _ => exact part _

theorem ofLocal_refused (unit : DateUnit) (time : Value) (present : time ≠ .null)
    (dateless : time.moment? = none) : ∃ fault, unit.ofLocal time = .error fault := by
  have refused := fun part => CalendarPart.apply_refused part time present dateless
  cases unit with
  | dayOfWeek =>
      rw [ofLocal, refused]
      exact ⟨_, rfl⟩
  | quarter =>
      rw [ofLocal, monthPlusTwoOf, refused]
      exact ⟨_, rfl⟩
  | _ => exact ⟨_, refused _⟩

theorem ofLocal_ok (unit : DateUnit) (time value : Value) (ran : unit.ofLocal time = .ok value) :
    (time = .null ∧ value = .null) ∨
      ∃ moment, time.moment? = some moment ∧ Value.Alike value (.int (unit.ofMoment moment)) := by
  by_cases null : time = .null
  · rw [null, ofLocal_null] at ran
    exact Or.inl ⟨null, (Except.ok.inj ran).symm⟩
  · cases found : time.moment? with
    | none =>
        obtain ⟨fault, refused⟩ := unit.ofLocal_refused time null found
        rw [refused] at ran
        contradiction
    | some moment =>
        rw [unit.ofLocal_moment time moment found] at ran
        rw [← Except.ok.inj ran]
        exact Or.inr ⟨moment, rfl, unit.number_alike moment⟩

theorem monthPlusTwo_total (unit : DateUnit) (time value : Value) (ran : unit.ofLocal time = .ok value) :
    ∃ months, monthPlusTwoOf time = .ok months := by
  rcases unit.ofLocal_ok time value ran with ⟨rfl, _⟩ | ⟨moment, found, _⟩
  · exact ⟨.null, rfl⟩
  · obtain ⟨months, known, _⟩ := (bind_ok _ _ _).mp (ofLocal_moment .quarter time moment found)
    exact ⟨months, known⟩

/-- Where the expressions of a unit succeed on a stored value, they yield the unit of the local time
at that instant, or null. -/
theorem ofLocal_localOf (unit : DateUnit) (offset : Int) (stored value : Value)
    (bounds : -(2 ^ 31) ≤ offset ∧ offset < 2 ^ 31)
    (ran : (Term.localOf offset stored).bind unit.ofLocal = .ok value) :
    Value.Alike value (unit.readAt offset stored) := by
  obtain ⟨time, moved, last⟩ := (bind_ok _ _ _).mp ran
  have known := unit.ofLocal_ok time value last
  rcases Term.localOf_cases offset stored time bounds moved with ⟨instant, date, rfl⟩ | ⟨none, dateless⟩
  · rcases known with ⟨null, _⟩ | ⟨moment, found, alike⟩
    · exact absurd null (by simp [Value.date, Value.single])
    · obtain ⟨millis, read, parts⟩ := Option.bind_eq_some_iff.mp found
      rw [Value.dateMillis_date _ _ read] at parts
      have inside := Value.dateMillis_bounds stored instant date
      -- a moment that was found lies in the supported years, where nothing has been wrapped
      have supported : Calendar.inRange (Arithmetic.wrap (instant - offset * 60000)) = true := by
        by_contra out
        rw [Calendar.moment?, if_neg out] at parts
        contradiction
      rw [Arithmetic.wrap_supported _ (by omega) (by omega) supported] at parts
      have read : unit.readAt offset stored = .int (unit.ofMoment moment) := by
        rw [readAt, date, Option.bind_some, parts]
      rw [read]
      exact alike
  · rcases known with ⟨_, null⟩ | ⟨moment, found, _⟩
    · refine Or.inl ?_
      rw [null, readAt, none]
      rfl
    · rw [Value.moment?, dateless] at found
      contradiction

end DateUnit

end DataGrid
