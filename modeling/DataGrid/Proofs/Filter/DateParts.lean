import DataGrid.Proofs.Filter.DatePart
import DataGrid.Proofs.Pipeline.LocalUnit
import DataGrid.Proofs.Pipeline.Projection
import DataGrid.Proofs.Pipeline.Run
import Mathlib.Data.List.Induction
/-!
The fields that date parts are computed into, stage by stage. Every field of a stage belongs to one
of the parts, the first stage has the months that the second makes quarters of, and all of these
fields are listed to be taken away again. So a row gets, behind what is stored, a field for each part
that holds the unit of its local time.
-/
namespace DataGrid

open Result

namespace DateParts

/-- What the fields of some parts are. -/
structure Computes (offset : Int) (listed : List DatePart) (parts : DateParts) : Prop where
  first : ∀ field ∈ parts.first, ∃ part ∈ listed,
    (field.1 = part.computedName ∧
      part.unit.extract? (Term.localTime part.base offset) = some field.2) ∨
    (field.1 = part.quarterName ∧
      field.2 = DateUnit.monthPlusTwo (Term.localTime part.base offset))
  second : ∀ field ∈ parts.second, ∃ part ∈ listed, part.unit = .quarter ∧
    field.1 = part.computedName ∧ field.2 = DateUnit.quarterFrom part.quarterName
  single : ∀ part ∈ listed, part.unit ≠ .quarter → part.computedName ∈ Document.keys parts.first
  quarter : ∀ part ∈ listed, part.unit = .quarter →
    part.quarterName ∈ Document.keys parts.first ∧ part.computedName ∈ Document.keys parts.second
  named : ∀ name, name ∈ Document.keys parts.first ∨ name ∈ Document.keys parts.second →
    name ∈ parts.names
  names : ∀ name ∈ parts.names, ∃ part ∈ listed, name = part.computedName ∨ name = part.quarterName

theorem mem_track (names : List String) (name other : String) :
    other ∈ track names name ↔ other ∈ names ∨ other = name := by
  unfold track
  split
  · rename_i known
    constructor
    · exact Or.inl
    · rintro (old | rfl)
      · exact old
      · simpa using known
  · simp

theorem mem_tracked (names listed : List String) (other : String) :
    other ∈ names.foldl track listed ↔ other ∈ listed ∨ other ∈ names := by
  induction names generalizing listed with
  | nil => simp
  | cons name rest ih => rw [List.foldl_cons, ih, mem_track, List.mem_cons, or_assoc]

variable {offset : Int} {listed : List DatePart} {parts : DateParts}

theorem listed_append {holds : DatePart → Prop} (part : DatePart)
    (known : ∃ other ∈ listed, holds other) : ∃ other ∈ listed ++ [part], holds other := by
  obtain ⟨other, inListed, shape⟩ := known
  exact ⟨other, List.mem_append_left _ inListed, shape⟩

theorem computes_none : Computes offset [] none := by
  constructor <;> simp [none, Document.keys]

theorem add_single (part : DatePart) (expression : Value)
    (single : part.unit.extract? (Term.localTime part.base offset) = some expression) :
    add offset parts part = ⟨parts.first.put part.computedName expression, parts.second,
      track parts.names part.computedName⟩ := by
  simp only [add, single]

theorem add_quarter (part : DatePart) (quarter : part.unit = .quarter) :
    add offset parts part =
      ⟨parts.first.put part.quarterName (DateUnit.monthPlusTwo (Term.localTime part.base offset)),
        parts.second.put part.computedName (DateUnit.quarterFrom part.quarterName),
        track (track parts.names part.quarterName) part.computedName⟩ := by
  simp only [add, quarter, DateUnit.extract?]

theorem computes_single (part : DatePart) (expression : Value)
    (single : part.unit.extract? (Term.localTime part.base offset) = some expression)
    (computes : Computes offset listed parts) :
    Computes offset (listed ++ [part]) (add offset parts part) := by
  rw [add_single part expression single]
  have other : part.unit ≠ .quarter := by
    intro quarter
    rw [quarter] at single
    contradiction
  -- what the stages have already stays, and the second one is left alone
  constructor
  case first =>
    intro field member
    rcases Document.mem_put _ _ _ field member with old | rfl
    · exact listed_append part (computes.first field old)
    · exact ⟨part, by simp, Or.inl ⟨rfl, single⟩⟩
  case second =>
    exact fun field member => listed_append part (computes.second field member)
  case single =>
    intro known member unit
    rw [Document.mem_keys_put]
    rcases List.mem_append.mp member with old | new
    · exact Or.inl (computes.single known old unit)
    · exact Or.inr (by rw [List.mem_singleton.mp new])
  case quarter =>
    intro known member unit
    rcases List.mem_append.mp member with old | new
    · obtain ⟨month, quarter⟩ := computes.quarter known old unit
      exact ⟨(Document.mem_keys_put _ _ _ _).mpr (Or.inl month), quarter⟩
    · rw [List.mem_singleton.mp new] at unit
      exact absurd unit other
  case named =>
    intro name known
    rw [mem_track]
    rcases known with first | second
    · rcases (Document.mem_keys_put _ _ _ _).mp first with old | new
      · exact Or.inl (computes.named name (Or.inl old))
      · exact Or.inr new
    · exact Or.inl (computes.named name (Or.inr second))
  case names =>
    intro name known
    rcases (mem_track _ _ _).mp known with old | new
    · exact listed_append part (computes.names name old)
    · exact ⟨part, by simp, Or.inl new⟩

theorem computes_quarter (part : DatePart) (unit : part.unit = .quarter)
    (computes : Computes offset listed parts) :
    Computes offset (listed ++ [part]) (add offset parts part) := by
  rw [add_quarter part unit]
  -- what the stages have already stays, and both of them get one field more
  constructor
  case first =>
    intro field member
    rcases Document.mem_put _ _ _ field member with old | rfl
    · exact listed_append part (computes.first field old)
    · exact ⟨part, by simp, Or.inr ⟨rfl, rfl⟩⟩
  case second =>
    intro field member
    rcases Document.mem_put _ _ _ field member with old | rfl
    · exact listed_append part (computes.second field old)
    · exact ⟨part, by simp, unit, rfl, rfl⟩
  case single =>
    intro known member other
    rcases List.mem_append.mp member with old | new
    · exact (Document.mem_keys_put _ _ _ _).mpr (Or.inl (computes.single known old other))
    · rw [List.mem_singleton.mp new] at other
      exact absurd unit other
  case quarter =>
    intro known member isQuarter
    rw [Document.mem_keys_put, Document.mem_keys_put]
    rcases List.mem_append.mp member with old | new
    · obtain ⟨month, quarter⟩ := computes.quarter known old isQuarter
      exact ⟨Or.inl month, Or.inl quarter⟩
    · rw [List.mem_singleton.mp new]
      exact ⟨Or.inr rfl, Or.inr rfl⟩
  case named =>
    intro name known
    rw [mem_track, mem_track]
    rcases known with first | second
    · rcases (Document.mem_keys_put _ _ _ _).mp first with old | new
      · exact Or.inl (Or.inl (computes.named name (Or.inl old)))
      · exact Or.inl (Or.inr new)
    · rcases (Document.mem_keys_put _ _ _ _).mp second with old | new
      · exact Or.inl (Or.inl (computes.named name (Or.inr old)))
      · exact Or.inr new
  case names =>
    intro name known
    rw [mem_track, mem_track] at known
    rcases known with (old | month) | quarter
    · exact listed_append part (computes.names name old)
    · exact ⟨part, by simp, Or.inr month⟩
    · exact ⟨part, by simp, Or.inl quarter⟩

theorem computes_all (offset : Int) (listed : List DatePart) :
    Computes offset listed (listed.foldl (add offset) none) := by
  induction listed using List.reverseRecOn with
  | nil => exact computes_none
  | append_singleton listed part ih =>
      rw [List.foldl_append]
      cases single : part.unit.extract? (Term.localTime part.base offset) with
      | some expression => exact computes_single part expression single ih
      | none => exact computes_quarter part (DateUnit.extract_none _ _ single) ih

theorem computes_fields (offset : Int) (fields : List String) :
    Computes offset (fields.filterMap DatePart.ofName?) (ofFields offset fields) :=
  computes_all offset _

theorem proper_fields (fields : List String) :
    ∀ part ∈ fields.filterMap DatePart.ofName?, part.Proper := by
  intro part member
  obtain ⟨field, _, found⟩ := List.mem_filterMap.mp member
  exact DatePart.proper_of_name field part found

section Rows

/-- The two stages over one row. -/
def extend (parts : DateParts) (doc : Document) : StoreResult Document := do
  let first ← Projection.addFields doc doc parts.first
  Projection.addFields first first parts.second

theorem run_optional (patterns : PatternCompiler) (fields : Document) (rest : List Document)
    (docs : List Document) :
    Pipeline.run patterns (((fields :: rest).filter fun fields => !fields.isEmpty).map .addFields)
        docs =
      docs.mapM (fun doc => Projection.addFields doc doc fields) >>=
        Pipeline.run patterns ((rest.filter fun fields => !fields.isEmpty).map .addFields) := by
  cases fields with
  | nil =>
      have same : docs.mapM (fun doc => Projection.addFields doc doc []) = .ok docs :=
        (mapM_ok _ _ _).mpr (List.forall₂_same.mpr fun doc _ => rfl)
      rw [same]
      rfl
  | cons field fields => rfl

theorem run_stages (patterns : PatternCompiler) (parts : DateParts) (docs out : List Document) :
    Pipeline.run patterns parts.stages docs = .ok out ↔
      List.Forall₂ (fun doc extended => parts.extend doc = .ok extended) docs out := by
  rw [stages, run_optional]
  constructor
  · intro ran
    obtain ⟨middle, first, later⟩ := (bind_ok _ _ _).mp ran
    rw [run_optional] at later
    obtain ⟨final, second, last⟩ := (bind_ok _ _ _).mp later
    obtain rfl := Except.ok.inj last
    exact forall₂_comp ((mapM_ok _ _ _).mp first) ((mapM_ok _ _ _).mp second)
      fun doc between extended one two => (bind_ok _ _ _).mpr ⟨between, one, two⟩
  · intro each
    obtain ⟨middle, first, second⟩ := forall₂_split each fun doc extended both =>
      (bind_ok _ _ _).mp both
    refine (bind_ok _ _ _).mpr ⟨middle, (mapM_ok _ _ _).mpr first, ?_⟩
    rw [run_optional]
    exact (bind_ok _ _ _).mpr ⟨out, (mapM_ok _ _ _).mpr second, rfl⟩

variable {offset : Int} {listed : List DatePart} {parts : DateParts}
  (computes : Computes offset listed parts) (proper : ∀ part ∈ listed, part.Proper)
include computes

theorem names_reserved : ∀ name ∈ parts.names, Path.Reserved name := by
  intro name member
  obtain ⟨part, _, rfl | rfl⟩ := computes.names name member
  · exact part.computedName_reserved
  · exact part.quarterName_reserved

include proper

theorem names_plain : ∀ name ∈ parts.names, '.' ∉ name.toList := by
  intro name member
  obtain ⟨part, inListed, rfl | rfl⟩ := computes.names name member
  · exact part.computedName_plain (proper part inListed)
  · exact part.quarterName_plain (proper part inListed)

theorem first_single (doc known : Document) (part : DatePart) (inListed : part ∈ listed)
    (value : Value) (each : Projection.Yields doc parts.first known)
    (member : (part.computedName, value) ∈ known) :
    (Term.localOf offset (Expression.reference doc part.base)).bind part.unit.ofLocal = .ok value := by
  obtain ⟨field, inFirst, named, evaluated⟩ := exists_left each _ member
  obtain ⟨other, otherListed, ⟨name, single⟩ | ⟨name, _⟩⟩ := computes.first field inFirst
  · have same := part.computedName_inj other (proper part inListed) (proper other otherListed)
      (named.trans name)
    subst same
    rw [DateUnit.evaluate_extract _ _ _ _ single, Term.evaluate_localTime] at evaluated
    exact evaluated
  · exact absurd (name.symm.trans named.symm) (part.quarterName_ne other (proper part inListed))

theorem first_month (doc known : Document) (part : DatePart) (value : Value)
    (each : Projection.Yields doc parts.first known)
    (member : (part.quarterName, value) ∈ known) :
    (Term.localOf offset (Expression.reference doc part.base)).bind DateUnit.monthPlusTwoOf =
      .ok value := by
  obtain ⟨field, inFirst, named, evaluated⟩ := exists_left each _ member
  obtain ⟨other, otherListed, ⟨name, _⟩ | ⟨name, spelled⟩⟩ := computes.first field inFirst
  · exact absurd (named.trans name) (other.quarterName_ne part (proper other otherListed))
  · rw [spelled, ← part.quarterName_inj other (named.trans name), DateUnit.evaluate_monthPlusTwo,
      Term.evaluate_localTime] at evaluated
    exact evaluated

theorem second_quarter (doc known : Document) (part : DatePart) (inListed : part ∈ listed)
    (value : Value) (each : Projection.Yields doc parts.second known)
    (member : (part.computedName, value) ∈ known) :
    part.unit = .quarter ∧
      DateUnit.quarterOf (Expression.reference doc part.quarterName) = .ok value := by
  obtain ⟨field, inSecond, named, evaluated⟩ := exists_left each _ member
  obtain ⟨other, otherListed, unit, name, spelled⟩ := computes.second field inSecond
  have same := part.computedName_inj other (proper part inListed) (proper other otherListed)
    (named.trans name)
  subst same
  rw [spelled, DateUnit.evaluate_quarter] at evaluated
  exact ⟨unit, evaluated⟩

theorem second_only (part : DatePart) (inListed : part ∈ listed)
    (member : part.computedName ∈ Document.keys parts.second) : part.unit = .quarter := by
  obtain ⟨field, inSecond, name⟩ := List.mem_map.mp member
  obtain ⟨other, otherListed, unit, named, _⟩ := computes.second field inSecond
  rwa [part.computedName_inj other (proper part inListed) (proper other otherListed)
    (name.symm.trans named)]

section Units

variable (doc firsts : Document) (each : Projection.Yields doc parts.first firsts)
  (part : DatePart) (inListed : part ∈ listed)
include each inListed

/-- The first stage puts the months of a quarter into the row. -/
theorem found_month (unit : part.unit = .quarter) :
    (Term.localOf offset (Expression.reference doc part.base)).bind DateUnit.monthPlusTwoOf =
      .ok (Expression.reference (doc.putAll firsts) part.quarterName) := by
  obtain ⟨months, found, inMonths⟩ := Document.get?_putAll_listed doc firsts _
    (Projection.keys_yields each ▸ (computes.quarter part inListed unit).1)
  rw [Expression.reference_of_plain _ _ (part.quarterName_plain (proper part inListed))
    (Expression.part_of_reserved _ part.quarterName_reserved), found]
  exact first_month computes proper doc firsts part months each inMonths

variable (seconds : Document)
  (eachLater : Projection.Yields (doc.putAll firsts) parts.second seconds)
include eachLater

/-- All units but quarters are computed by the first stage. -/
theorem unit_single (unit : part.unit ≠ .quarter) :
    ∃ value, ((doc.putAll firsts).putAll seconds).get? part.computedName = some value ∧
      (Term.localOf offset (Expression.reference doc part.base)).bind part.unit.ofLocal =
        .ok value := by
  obtain ⟨value, found, member⟩ := Document.get?_putAll_listed doc firsts _
    (Projection.keys_yields each ▸ computes.single part inListed unit)
  refine ⟨value, ?_, first_single computes proper doc firsts part inListed value each member⟩
  rw [Document.get?_putAll_other _ _ _ ?_, found]
  rw [Projection.keys_yields eachLater]
  exact fun later => unit (second_only computes proper part inListed later)

/-- A quarter is made by the second stage, of the months that the first has put into the row. -/
theorem unit_quarter (unit : part.unit = .quarter) :
    ∃ value, ((doc.putAll firsts).putAll seconds).get? part.computedName = some value ∧
      (Term.localOf offset (Expression.reference doc part.base)).bind part.unit.ofLocal =
        .ok value := by
  obtain ⟨value, found, member⟩ := Document.get?_putAll_listed _ seconds _
    (Projection.keys_yields eachLater ▸ (computes.quarter part inListed unit).2)
  obtain ⟨_, third⟩ := second_quarter computes proper _ _ part inListed value eachLater member
  obtain ⟨time, moved, added⟩ := (bind_ok _ _ _).mp
    (found_month computes proper doc firsts each part inListed unit)
  refine ⟨value, found, ?_⟩
  rw [unit]
  exact (bind_ok _ _ _).mpr ⟨time, moved, (bind_ok _ _ _).mpr ⟨_, added, third⟩⟩

end Units

section Extending

variable (doc : Document)

theorem dotless_fields (fields : Document)
    (named : ∀ name ∈ Document.keys fields, name ∈ parts.names) :
    ∀ field ∈ fields, '.' ∉ field.1.toList :=
  fun _ member => names_plain computes proper _ (named _ (List.mem_map_of_mem member))

/-- The stages put fields into a row twice, the second time with the first ones at hand. -/
theorem extend_yields (out : Document) (ran : parts.extend doc = .ok out) :
    ∃ firsts seconds, out = (doc.putAll firsts).putAll seconds ∧
      Projection.Yields doc parts.first firsts ∧
      Projection.Yields (doc.putAll firsts) parts.second seconds := by
  obtain ⟨middle, one, two⟩ := (bind_ok _ _ _).mp ran
  obtain ⟨firsts, rfl, each⟩ := Projection.addFields_ok _ _ _ _
    (dotless_fields computes proper _ fun name member => computes.named name (Or.inl member)) one
  obtain ⟨seconds, rfl, eachLater⟩ := Projection.addFields_ok _ _ _ _
    (dotless_fields computes proper _ fun name member => computes.named name (Or.inr member)) two
  exact ⟨firsts, seconds, rfl, each, eachLater⟩

/-- What is computed into a row stands behind what is stored in it. -/
theorem extend_behind (absent : ∀ name ∈ parts.names, name ∉ Document.keys doc) (out : Document)
    (ran : parts.extend doc = .ok out) : Document.Behind parts.names doc out := by
  obtain ⟨firsts, seconds, rfl, each, eachLater⟩ := extend_yields computes proper doc out ran
  have behind := Document.behind_putAll absent (Document.behind_self _ doc) firsts
    fun name member => computes.named name (Or.inl (Projection.keys_yields each ▸ member))
  exact Document.behind_putAll absent behind seconds
    fun name member => computes.named name (Or.inr (Projection.keys_yields eachLater ▸ member))

theorem extend_units (out : Document) (ran : parts.extend doc = .ok out) :
    ∀ part ∈ listed, ∃ value, out.get? part.computedName = some value ∧
      (Term.localOf offset (Expression.reference doc part.base)).bind part.unit.ofLocal =
        .ok value := by
  obtain ⟨firsts, seconds, rfl, each, eachLater⟩ := extend_yields computes proper doc out ran
  intro part inListed
  by_cases unit : part.unit = .quarter
  · exact unit_quarter computes proper doc firsts each part inListed seconds eachLater unit
  · exact unit_single computes proper doc firsts each part inListed seconds eachLater unit

theorem extend_total
    (valued : ∀ part ∈ listed, ∃ value,
      (Term.localOf offset (Expression.reference doc part.base)).bind part.unit.ofLocal = .ok value) :
    ∃ out, parts.extend doc = .ok out := by
  have early : ∀ field ∈ parts.first, ∃ value,
      Expression.evaluate (.object doc) field.2 = .ok value := by
    intro field member
    obtain ⟨part, inListed, ⟨_, single⟩ | ⟨_, spelled⟩⟩ := computes.first field member
    · rw [DateUnit.evaluate_extract _ _ _ _ single, Term.evaluate_localTime]
      exact valued part inListed
    · obtain ⟨value, known⟩ := valued part inListed
      obtain ⟨time, moved, last⟩ := (bind_ok _ _ _).mp known
      obtain ⟨months, added⟩ := part.unit.monthPlusTwo_total time value last
      rw [spelled, DateUnit.evaluate_monthPlusTwo, Term.evaluate_localTime]
      exact ⟨months, (bind_ok _ _ _).mpr ⟨time, moved, added⟩⟩
  obtain ⟨middle, one⟩ := Projection.addFields_total doc doc parts.first early
  obtain ⟨firsts, rfl, each⟩ := Projection.addFields_ok _ _ _ _
    (dotless_fields computes proper _ fun name member => computes.named name (Or.inl member)) one
  have late : ∀ field ∈ parts.second, ∃ value,
      Expression.evaluate (.object (doc.putAll firsts)) field.2 = .ok value := by
    intro field member
    obtain ⟨part, inListed, unit, _, spelled⟩ := computes.second field member
    obtain ⟨value, known⟩ := valued part inListed
    obtain ⟨time, moved, last⟩ := (bind_ok _ _ _).mp known
    rw [unit] at last
    obtain ⟨months, same, third⟩ := (bind_ok _ _ _).mp last
    -- the months that are there are those that the quarter is made of
    have added := found_month computes proper doc firsts each part inListed unit
    rw [moved] at added
    obtain rfl := Except.ok.inj (same.symm.trans added)
    rw [spelled, DateUnit.evaluate_quarter]
    exact ⟨value, third⟩
  obtain ⟨out, two⟩ := Projection.addFields_total _ (doc.putAll firsts) parts.second late
  exact ⟨out, (bind_ok _ _ _).mpr ⟨_, one, two⟩⟩

end Extending

end Rows

end DateParts

end DataGrid
