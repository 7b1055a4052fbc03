import DataGrid.Proofs.Load.KeyFields
/-!
The units of a stored date, in filters and in the keys of groups. The stages of either yield the unit
of the calendar at the local time of the instant, which is the instant less the whole offset. Where no
date is stored they yield null, and what is stored there and is no date they refuse.
-/
namespace DataGrid

open Result

/-- What documents hold: a whole number fits 64 bits with a sign or without one, and a double is
finite. -/
def Value.InBits : Value → Prop
  | .int number => -(2 ^ 63) ≤ number ∧ number < 2 ^ 64
  | .double x => x.steps ≤ Double.largest
  | _ => True

theorem Value.double_largest (value : Value) (x : Double) (bits : value.InBits)
    (number : value.double? = some x) : x.steps ≤ Double.largest := by
  cases value with
  | int n =>
      rw [← Option.some.inj number]
      have bounds : -(2 ^ 63) ≤ n ∧ n < 2 ^ 64 := bits
      exact Double.ofInt_le_largest n (by omega)
  | double y =>
      rw [← Option.some.inj number]
      exact bits
  | _ => contradiction

theorem Term.localOf_dateless (offset : Int) (stored time : Value)
    (bounds : -(2 ^ 31) ≤ offset ∧ offset < 2 ^ 31) (bits : stored.InBits) (present : stored ≠ .null)
    (dateless : stored.dateMillis? = none) (moved : localOf offset stored = .ok time) :
    time ≠ .null ∧ time.moment? = none := by
  rw [localOf_present offset stored present, dateless] at moved
  have still := onNumbers_dateless _ _ _ _ moved
  refine ⟨?_, by rw [Value.moment?, still]; rfl⟩
  -- what was moved is a number; only a difference that is not finite would be written as null
  obtain ⟨x, y, first, second, ⟨number, rfl⟩ | rfl⟩ := onNumbers_ok _ _ _ _ moved
  · exact Value.noConfusion
  · obtain rfl := Option.some.inj second
    have finite := Double.sub_ofInt_finite x (offset * 60000)
      (stored.double_largest x bits first) (by omega)
    rw [Arithmetic.onDoubles, Value.ofDouble, Double.finite?, if_pos finite]
    exact Value.noConfusion

namespace DateUnit

section Stored

variable (unit : DateUnit) (offset : Int) (stored : Value)
  (bounds : -(2 ^ 31) ≤ offset ∧ offset < 2 ^ 31)
include bounds

theorem ofStored_date (instant : Int) (date : stored.dateMillis? = some instant)
    (supported : Calendar.inRange (instant - offset * 60000) = true) :
    (Term.localOf offset stored).bind unit.ofLocal =
      .ok (unit.number (.ofMillis (instant - offset * 60000))) := by
  obtain ⟨above, below⟩ := Calendar.inRange_bounds _ supported
  have kept : Arithmetic.wrap (instant - offset * 60000) = instant - offset * 60000 := by
    unfold Arithmetic.wrap Int.bmod
    dsimp only
    omega
  have found : (Value.date (instant - offset * 60000)).moment? =
      some (.ofMillis (instant - offset * 60000)) := by
    have read : (Value.date (instant - offset * 60000)).dateMillis? = some (instant - offset * 60000) :=
      if_pos (by omega)
    rw [Value.moment?, read, Option.bind_some, Calendar.moment?, if_pos supported]
  rw [Term.localOf_date offset stored instant date bounds, kept]
  exact unit.ofLocal_moment _ _ found

theorem ofStored_dateless (bits : stored.InBits) (present : stored ≠ .null)
    (dateless : stored.dateMillis? = none) :
    ∃ fault, (Term.localOf offset stored).bind unit.ofLocal = .error fault := by
  cases moved : Term.localOf offset stored with
  | error fault => exact ⟨fault, rfl⟩
  | ok time =>
      obtain ⟨nonNull, still⟩ :=
        Term.localOf_dateless offset stored time bounds bits present dateless moved
      exact unit.ofLocal_refused time nonNull still

end Stored

/-- The stages that compute a unit of a date field, and the field that they put it into: a filter has
no use for the units of a clock, the key of a level may be any unit. -/
inductive Computes (field : String) (offset : Int) (unit : DateUnit) : Pipeline → String → Prop
  | filtered (written : String) (known : ofName? written = some unit)
      (referable : unit.isReferable = true) :
      Computes field offset unit (DateParts.ofFields offset [field ++ "." ++ written]).stages
        (DatePart.matchName (field ++ "." ++ written))
  | grouped (written : String) (known : ofName? written = some unit) (level : Nat) :
      Computes field offset unit
        (GroupKey.ofInterval field (some (.named written)) level offset).stages
        (GroupKey.fieldOf level)

section Stages

variable {field : String} {offset : Int} {unit : DateUnit} {stages : Pipeline} {name : String}

theorem key_spelled (selector written : String) (known : ofName? written = some unit) (level : Nat)
    (offset : Int) :
    let key := GroupKey.ofInterval selector (some (.named written)) level offset
    key.stages = (unit.computed (GroupKey.fieldOf level) key.quarterField
      (Term.localTime selector offset)).map fun part => .addFields [part] := by
  intro key
  have part : key.rule = .part unit := Interval.rule_unit written unit known
  change key.computed.map _ = _
  rw [GroupKey.computed, part]
  rfl

/-- Either kind of stages computes the unit by the same expressions, under names of its own. -/
theorem Computes.spelled (computes : unit.Computes field offset stages name) (filled : field ≠ "")
    (dotless : '.' ∉ field.toList) :
    ∃ scratch, '.' ∉ name.toList ∧ '.' ∉ scratch.toList ∧ Path.Reserved scratch ∧
      stages = (unit.computed name scratch (Term.localTime field offset)).map
        fun part => .addFields [part] := by
  cases computes with
  | filtered written known referable =>
      have named := DatePart.ofName_append field written unit filled dotless known referable
      have proper := DatePart.proper_of_name _ _ named
      refine ⟨_, ?_, DatePart.quarterName_plain _ proper, DatePart.quarterName_reserved _, ?_⟩
      · rw [Filtering.matchName_eq _ _ named]
        exact DatePart.computedName_plain _ proper
      · rw [(Filtering.ofFields_single offset _).1, Filtering.computed, named,
          Filtering.matchName_eq _ _ named]
  | grouped written known level =>
      let key := GroupKey.ofInterval field (some (.named written)) level offset
      exact ⟨key.quarterField, key.field_plain, key.quarterField_plain, key.quarterField_reserved,
        key_spelled field written known level offset⟩

/-- Fields that compute a unit hold it in the last of them, or fail with it. -/
theorem run_computed (scratch : String) (plain : '.' ∉ name.toList)
    (plainScratch : '.' ∉ scratch.toList) (reserved : Path.Reserved scratch)
    (patterns : PatternCompiler) (doc : Document) :
    let stages : Pipeline := (unit.computed name scratch (Term.localTime field offset)).map
      fun part => .addFields [part]
    (∀ value, (Term.localOf offset (Expression.reference doc field)).bind unit.ofLocal = .ok value →
      ∃ out, Pipeline.run patterns stages [doc] = .ok [out] ∧ out.get? name = some value) ∧
    ∀ fault, (Term.localOf offset (Expression.reference doc field)).bind unit.ofLocal = .error fault →
      ∃ fault, Pipeline.run patterns stages [doc] = .error fault := by
  have extended := unit.extend_eq name scratch plain plainScratch reserved doc field offset
  have valued := unit.value_extend name scratch plain plainScratch reserved doc field offset
  intro stages
  constructor
  · intro value known
    obtain ⟨out, ran, read⟩ := (map_ok _ _ _).mp (valued.trans known)
    refine ⟨out, (Pipeline.run_addFields _ _ _ _).mpr (.cons ran .nil), ?_⟩
    obtain ⟨fields, made, rfl⟩ := (map_ok _ _ _).mp (extended.symm.trans ran)
    obtain ⟨time, _, made⟩ := (bind_ok _ _ _).mp made
    -- the unit is put in last, behind what it is computed from
    obtain ⟨_, front, last, rfl⟩ :=
      unit.fields_shape name scratch (Term.localTime field offset) time _ made
    rw [Document.get?_putAll_last] at read ⊢
    exact congrArg some read
  · intro fault refused
    refine (failed_iff _).mpr ?_
    rintro ⟨outs, ran⟩
    obtain ⟨out, _, one⟩ := exists_right ((Pipeline.run_addFields _ _ _ _).mp ran) doc (by simp)
    rw [one, refused] at valued
    contradiction

theorem Computes.run (computes : unit.Computes field offset stages name) (filled : field ≠ "")
    (dotless : '.' ∉ field.toList) (patterns : PatternCompiler) (doc : Document) :
    (∀ value, (Term.localOf offset (Expression.reference doc field)).bind unit.ofLocal = .ok value →
      ∃ out, Pipeline.run patterns stages [doc] = .ok [out] ∧ out.get? name = some value) ∧
    ∀ fault, (Term.localOf offset (Expression.reference doc field)).bind unit.ofLocal = .error fault →
      ∃ fault, Pipeline.run patterns stages [doc] = .error fault := by
  obtain ⟨scratch, plain, plainScratch, reserved, rfl⟩ := computes.spelled filled dotless
  exact run_computed scratch plain plainScratch reserved patterns doc

end Stages

/-- The numbers that a unit can have: months and quarters are counted from 1, days of the week from
Sunday, which is 0. -/
def Counts : DateUnit → Int → Prop
  | .year, _ | .day, _ => True
  | .quarter, number => 1 ≤ number ∧ number ≤ 4
  | .month, number => 1 ≤ number ∧ number ≤ 12
  | .dayOfWeek, number => 0 ≤ number ∧ number ≤ 6
  | .hour, number => 0 ≤ number ∧ number ≤ 23
  | .minute, number | .second, number => 0 ≤ number ∧ number ≤ 59

theorem counts_ofMillis (unit : DateUnit) (millis : Int) :
    unit.Counts (unit.ofMoment (.ofMillis millis)) := by
  have months := Calendar.month_bounds (millis / Calendar.millisPerDay)
  have days := Calendar.weekday_lt (millis / Calendar.millisPerDay)
  have seconds : millis % Calendar.millisPerDay / 1000 < 86400 := by
    unfold Calendar.millisPerDay
    omega
  cases unit <;> simp only [Counts, ofMoment, Calendar.Moment.ofMillis] <;> omega

/-- Units of stored dates. Whether a filter refers to a unit of a field or a level is grouped by it, a
stored date yields the unit of the calendar at its instant less the whole offset, to the millisecond.
Nothing stored yields null, as null does, and what is stored and is no date fails. -/
theorem unit_of_stored (patterns : PatternCompiler) (field : String) (offset : Int) (unit : DateUnit)
    (stages : Pipeline) (name : String) (doc : Document) (filled : field ≠ "")
    (dotless : '.' ∉ field.toList) (plain : Text.startsWithDollar field = false)
    (bounds : -(2 ^ 31) ≤ offset ∧ offset < 2 ^ 31)
    (computes : unit.Computes field offset stages name) :
    let stored := (doc.get? field).getD .null
    (∀ instant, stored.dateMillis? = some instant →
      Calendar.inRange (instant - offset * 60000) = true →
      let moment := Calendar.Moment.ofMillis (instant - offset * 60000)
      unit.Counts (unit.ofMoment moment) ∧
        ∃ out, Pipeline.run patterns stages [doc] = .ok [out] ∧
          out.get? name = some (unit.number moment)) ∧
    (stored = .null →
      ∃ out, Pipeline.run patterns stages [doc] = .ok [out] ∧ out.get? name = some .null) ∧
    (stored.dateMillis? = none → stored ≠ .null → stored.InBits →
      ∃ fault, Pipeline.run patterns stages [doc] = .error fault) := by
  have part : ¬ Expression.IsWhole field := by
    rintro (rfl | rfl) <;> contradiction
  have read := Expression.reference_of_plain doc field dotless part
  obtain ⟨yields, fails⟩ := computes.run filled dotless patterns doc
  rw [read] at yields fails
  intro stored
  refine ⟨fun instant date supported => ⟨unit.counts_ofMillis _, ?_⟩, fun null => ?_, ?_⟩
  · exact yields _ (unit.ofStored_date offset stored bounds instant date supported)
  · refine yields _ ?_
    rw [show (doc.get? field).getD .null = .null from null, Term.localOf_null]
    exact unit.ofLocal_null
  · intro dateless present bits
    obtain ⟨fault, refused⟩ := unit.ofStored_dateless offset stored bounds bits present dateless
    exact fails fault refused

/-- The last half hour of March in Greenwich, which is April an hour to the east. -/
def springTask : Document := [("due", .single "$date" (.string "2024-03-31T23:30:00Z"))]

theorem unit_of_stored_spring :
    (∃ out, Pipeline.run Pattern.compile (DateParts.ofFields (-60) ["due.Quarter"]).stages [springTask] =
      .ok [out] ∧ out.get? "___due_Quarter" = some (.double (.ofInt 2))) ∧
    (∃ out, Pipeline.run Pattern.compile
      (GroupKey.ofInterval "due" (some (.named "hour")) 1 (-60)).stages [springTask] = .ok [out] ∧
        out.get? "___group_key_1" = some (.int 0)) ∧
    (∃ out, Pipeline.run Pattern.compile
      (GroupKey.ofInterval "due" (some (.named "hour")) 1 (-60)).stages [[]] = .ok [out] ∧
        out.get? "___group_key_1" = some .null) ∧
    ∃ fault, Pipeline.run Pattern.compile (DateParts.ofFields (-60) ["due.Quarter"]).stages
      [[("due", .int 7)]] = .error fault := by
  have filter : Computes "due" (-60) .quarter (DateParts.ofFields (-60) ["due.Quarter"]).stages
      "___due_Quarter" := .filtered "Quarter" (by decide) rfl
  have key : Computes "due" (-60) .hour (GroupKey.ofInterval "due" (some (.named "hour")) 1 (-60)).stages
      "___group_key_1" := .grouped "hour" (by decide) 1
  have date : ((springTask.get? "due").getD .null).dateMillis? = some 1711927800000 := by decide +kernel
  refine ⟨?_, ?_, ?_, ?_⟩
  · exact ((unit_of_stored Pattern.compile "due" (-60) .quarter _ _ springTask (by decide) (by decide)
      (by decide) (by decide) filter).1 _ date (by decide)).2
  · exact ((unit_of_stored Pattern.compile "due" (-60) .hour _ _ springTask (by decide) (by decide)
      (by decide) (by decide) key).1 _ date (by decide)).2
  · exact (unit_of_stored Pattern.compile "due" (-60) .hour _ _ [] (by decide) (by decide)
      (by decide) (by decide) key).2.1 rfl
  · exact (unit_of_stored Pattern.compile "due" (-60) .quarter _ _ [("due", .int 7)] (by decide)
      (by decide) (by decide) (by decide) filter).2.2 rfl (by decide)
      (by simp [Document.get?, Value.InBits])

end DateUnit

end DataGrid
