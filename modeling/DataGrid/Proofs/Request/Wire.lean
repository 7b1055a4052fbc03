import DataGrid.Plan.Basic
import DataGrid.Proofs.Pipeline.Grouping
import DataGrid.Request.Builder
import DataGrid.Request.Wire
/-!
Requests and options on the wire. What is written is described field by field, by the name under
which each field is found; a reader that finds every field so gives the record back. Only null is
not told apart from nothing, and only where a request carries a value of its caller.
-/
namespace DataGrid

namespace Document

theorem get?_append (doc rest : Document) (name : String) :
    get? (doc ++ rest) name = (get? doc name).or (get? rest name) := by
  induction doc with
  | nil => rfl
  | cons field doc ih =>
      by_cases same : field.1 = name <;> simp [get?, same, ih]

end Document

namespace Value

theorem filter_notNull (value : Option Value) :
    (value.filter fun value => !value.isNull).filter (fun value => !value.isNull) =
      value.filter fun value => !value.isNull := by
  cases value with
  | none => rfl
  | some value => cases value <;> rfl

theorem getD_notNull (value : Option Value) :
    (value.filter fun value => !value.isNull).getD .null = value.getD .null := by
  cases value with
  | none => rfl
  | some value => cases value <;> rfl

end Value

/-! Fields of a record. -/

namespace Record

variable {α : Type} {fields : Document} {name : String} (read : Value → Option α) (write : α → Value)

theorem get?_present (other : String) (value : Option α) :
    (present name write value).get? other = if name = other then value.map write else none := by
  cases value with
  | none => simp [present, Document.get?]
  | some value => simp [present, Document.get?]

theorem withDefault_written (value default : α) (told : fields.get? name = some (write value))
    (reads : read (write value) = some value) :
    withDefault fields name read default = some value := by
  rw [withDefault, told]
  exact reads

theorem optional_written (value : Option α) (told : fields.get? name = value.map write)
    (reads : ∀ content ∈ value, read (write content) = some content)
    (shown : ∀ content ∈ value, write content ≠ .null) : optional fields name read = some value := by
  rw [optional, told]
  cases value with
  | none => rfl
  | some content =>
      have apart := shown content rfl
      simp only [Option.map_some, reads content rfl]

theorem optional_any (value : Option Value) (told : fields.get? name = value) :
    optional fields name some = some (value.filter fun value => !value.isNull) := by
  rw [optional, told]
  cases value with
  | none => rfl
  | some value => cases value <;> rfl

theorem list_written (values : List α)
    (reads : ∀ value ∈ values, read (write value) = some value) :
    list read (.array (values.map write)) = some values := by
  rw [list]
  induction values with
  | nil => rfl
  | cons value rest ih =>
      have later := ih fun other member => reads other (List.mem_cons_of_mem _ member)
      rw [List.map_cons, List.mapM_cons, reads value List.mem_cons_self, later]
      rfl

theorem withDefault_list (values : List α)
    (told : fields.get? name = some (.array (values.map write)))
    (reads : ∀ value ∈ values, read (write value) = some value) :
    withDefault fields name (list read) [] = some values :=
  withDefault_written (list read) (fun values => .array (values.map write)) values [] told
    (list_written read write values reads)

end Record

open Record

theorem SortKey.ofValue?_toValue (key : SortKey) : ofValue? key.toValue = some key := rfl

theorem SearchFields.ofValue?_toValue (fields : SearchFields) :
    ofValue? fields.toValue = some fields := by
  cases fields with
  | one field => rfl
  | several fields =>
      have names : list Value.string? (strings fields) = some fields :=
        list_written Value.string? .string fields fun _ _ => rfl
      rw [ofValue?, toValue, names]
      rfl

theorem Search.ofValue?_toValue (search : Search) : ofValue? search.toValue = some search := by
  have names := SearchFields.ofValue?_toValue search.fields
  simp [ofValue?, toValue, fields?, required, withDefault, Document.get?, names, Value.string?]

/-- Widths are whole numbers of 64 bits with a sign. -/
def Interval.Fits : Interval → Prop
  | .width number => -0x8000000000000000 ≤ number ∧ number < 0x8000000000000000
  | .named _ => True

instance : DecidablePred Interval.Fits
  | .width _ => inferInstanceAs (Decidable (_ ∧ _))
  | .named _ => inferInstanceAs (Decidable True)

theorem Interval.ofValue?_toValue (interval : Interval) (fits : interval.Fits) :
    ofValue? interval.toValue = some interval := by
  cases interval with
  | width number =>
      have within : (Value.int number).int64? = some number := if_pos fits
      rw [ofValue?, toValue, within]
      rfl
  | named name => rfl

def GroupLevel.Fits (level : GroupLevel) : Prop := ∀ interval ∈ level.interval, interval.Fits

instance (level : GroupLevel) : Decidable level.Fits :=
  inferInstanceAs (Decidable (∀ interval ∈ level.interval, interval.Fits))

theorem Interval.toValue_ne_null (interval : Interval) : interval.toValue ≠ .null := by
  cases interval <;> exact nofun

theorem GroupLevel.ofValue?_toValue (level : GroupLevel) (fits : level.Fits) :
    ofValue? level.toValue = some level := by
  have interval (fields : Document)
      (told : fields.get? "groupInterval" = level.interval.map Interval.toValue) :
      optional fields "groupInterval" Interval.ofValue? = some level.interval :=
    optional_written Interval.ofValue? Interval.toValue level.interval told
      (fun interval member => interval.ofValue?_toValue (fits interval member))
      fun interval _ => interval.toValue_ne_null
  rw [ofValue?, toValue]
  simp [fields?, required, withDefault, interval, Document.get?, get?_present, Value.string?, bool?]

theorem Summary.ofValue?_toValue (summary : Summary) : ofValue? summary.toValue = some summary := by
  have selector (fields : Document)
      (told : fields.get? "selector" = summary.selector.map Value.string) :
      optional fields "selector" Value.string? = some summary.selector :=
    optional_written Value.string? .string summary.selector told (fun _ _ => rfl) fun _ _ => nofun
  rw [ofValue?, toValue]
  simp [fields?, required, selector, Document.get?, get?_present, Value.string?]

theorem Record.uint64?_number (number : UInt64) :
    uint64? (Request.number number) = some number := by
  rw [uint64?, Request.number, Value.nat64?_small _ number.toNat_lt]
  simp

namespace Request

/-- Every width among the levels is one. -/
def Fits (request : Request) : Prop := ∀ level ∈ request.group, level.Fits

instance (request : Request) : Decidable request.Fits :=
  inferInstanceAs (Decidable (∀ level ∈ request.group, level.Fits))

/-- The request with nothing where it carries null. -/
def settled (request : Request) : Request :=
  { request with
    filter := request.filter.filter fun value => !value.isNull
    searchOperand := request.searchOperand.filter fun value => !value.isNull }

/-- Every field of the request stands under its name, whatever the order. -/
structure Written (request : Request) (fields : Document) : Prop where
  filter : fields.get? "filter" = request.filter
  search : fields.get? "search" = request.search.map Search.toValue
  searchFields : fields.get? "searchExpr" = request.searchFields.map SearchFields.toValue
  searchOperation : fields.get? "searchOperation" = request.searchOperation.map .string
  searchOperand : fields.get? "searchValue" = request.searchOperand
  sort : fields.get? "sort" = some (.array (request.sort.map SortKey.toValue))
  group : fields.get? "group" = some (.array (request.group.map GroupLevel.toValue))
  select : fields.get? "select" = some (.array (request.select.map .string))
  skip : fields.get? "skip" = request.skip.map number
  take : fields.get? "take" = request.take.map number
  totalCount : fields.get? "requireTotalCount" = some (.bool request.totalCount)
  groupCount : fields.get? "requireGroupCount" = some (.bool request.groupCount)
  totalSummary :
    fields.get? "totalSummary" = some (.array (request.totalSummary.map Summary.toValue))
  groupSummary :
    fields.get? "groupSummary" = some (.array (request.groupSummary.map Summary.toValue))

theorem toValue_written (request : Request) :
    ∃ fields, request.toValue = .object fields ∧ request.Written fields := by
  refine ⟨_, rfl, ?_⟩
  constructor <;> simp [Document.get?_append, get?_present, Document.get?, strings]

theorem ofValue?_written (request : Request) (fields : Document) (fits : request.Fits)
    (written : request.Written fields) : ofValue? (.object fields) = some request.settled := by
  have filter := optional_any request.filter written.filter
  have search := optional_written Search.ofValue? Search.toValue request.search written.search
    (fun search _ => search.ofValue?_toValue) fun _ _ => nofun
  have searchFields := optional_written SearchFields.ofValue? SearchFields.toValue
    request.searchFields written.searchFields (fun fields _ => fields.ofValue?_toValue)
    fun fields _ => by cases fields <;> exact nofun
  have searchOperation := optional_written Value.string? .string request.searchOperation
    written.searchOperation (fun _ _ => rfl) fun _ _ => nofun
  have searchOperand := optional_any request.searchOperand written.searchOperand
  have sort := withDefault_list SortKey.ofValue? SortKey.toValue request.sort written.sort
    fun key _ => key.ofValue?_toValue
  have group := withDefault_list GroupLevel.ofValue? GroupLevel.toValue request.group written.group
    fun level member => level.ofValue?_toValue (fits level member)
  have select := withDefault_list Value.string? .string request.select written.select
    fun _ _ => rfl
  have skip := optional_written uint64? number request.skip written.skip
    (fun skip _ => uint64?_number skip) fun _ _ => nofun
  have take := optional_written uint64? number request.take written.take
    (fun take _ => uint64?_number take) fun _ _ => nofun
  have totalCount := withDefault_written bool? .bool request.totalCount false
    written.totalCount rfl
  have groupCount := withDefault_written bool? .bool request.groupCount false
    written.groupCount rfl
  have totalSummary := withDefault_list Summary.ofValue? Summary.toValue request.totalSummary
    written.totalSummary fun summary _ => summary.ofValue?_toValue
  have groupSummary := withDefault_list Summary.ofValue? Summary.toValue request.groupSummary
    written.groupSummary fun summary _ => summary.ofValue?_toValue
  -- the reader asks for the fields in the order of the record, and stops at the first it misses
  refine Option.bind_eq_some_iff.mpr ⟨_, filter, ?_⟩
  rw [search, searchFields, searchOperation, searchOperand, sort, group, select, skip, take,
    totalCount, groupCount, totalSummary, groupSummary]
  rfl

/-- Null carried by a request is a filter of nothing and a search for nothing, so every call is
compiled as before. -/
theorem recipe_settled (request : Request) (options : Options) :
    Recipe.ofRequest request.settled options = Recipe.ofRequest request options := by
  have operand : request.settled.searchOperand.getD .null = request.searchOperand.getD .null :=
    Value.getD_notNull request.searchOperand
  have search : request.settled.effectiveSearch? = request.effectiveSearch? := by
    rw [effectiveSearch?, effectiveSearch?, operand]
    rfl
  have combined :
      Search.combine? request.settled.filter request.effectiveSearch? =
        Search.combine? request.filter request.effectiveSearch? := by
    rw [Search.combine?, Search.combine?, settled, Value.filter_notNull]
  rw [Recipe.ofRequest, Recipe.ofRequest, search, combined]
  rfl

theorem plan_settled (request : Request) (options : Options) :
    Plan.ofRequest request.settled options = Plan.ofRequest request options := by
  rw [Plan.ofRequest, Plan.ofRequest, recipe_settled]
  rfl

end Request

namespace Stage

theorem toValue_eq_tagged (stage : Stage) : stage.toValue = stage.tagged := by
  cases stage <;> rfl

theorem ofValue?_tagged (stage : Stage) : ofValue? stage.tagged = some stage := by
  cases stage with
  -- only a number is read anew, and it has to be one of 64 bits
  | skip number | limit number =>
      simp [ofValue?, tagged, Value.single, Value.nat64?_small _ number.toNat_lt]
  | matching doc | sort doc | project doc | addFields doc | group doc => rfl
  | count name => rfl

end Stage

namespace Options

/-- The limit is a number of 64 bits, the offset one of 32 bits with a sign. -/
def Fits (options : Options) : Prop :=
  options.summaryLimit < 0x10000000000000000 ∧
    -0x80000000 ≤ options.offset ∧ options.offset < 0x80000000

instance (options : Options) : Decidable options.Fits := inferInstanceAs (Decidable (_ ∧ _))

/-- Every option stands under its name, whatever the order. -/
structure Written (options : Options) (fields : Document) : Prop where
  replaceIds : fields.get? "replaceIds" = some (.bool options.replaceIds)
  summaryLimit : fields.get? "summaryQueryLimit" = some (.int options.summaryLimit)
  offset : fields.get? "timezoneOffset" = some (.int options.offset)
  ignoreCase : fields.get? "caseInsensitiveRegex" = some (.bool options.ignoreCase)
  before : fields.get? "preProcessingPipeline" = some options.before.tagged

theorem toValue_written (options : Options) :
    ∃ fields, options.toValue = .object fields ∧ options.Written fields := by
  refine ⟨_, rfl, ?_⟩
  constructor <;> simp [Document.get?]

theorem ofValue?_written (options : Options) (fields : Document) (fits : options.Fits)
    (written : options.Written fields) : ofValue? (.object fields) = some options := by
  let standard : Options := {}
  obtain ⟨limited, placed⟩ := fits
  have replaceIds := withDefault_written bool? .bool options.replaceIds standard.replaceIds
    written.replaceIds rfl
  have summaryLimit := withDefault_written Value.nat64? (fun number : Nat => .int number)
    options.summaryLimit standard.summaryLimit written.summaryLimit (Value.nat64?_small _ limited)
  have offset := withDefault_written int32? .int options.offset standard.offset
    written.offset (by rw [int32?, if_pos placed])
  have ignoreCase := withDefault_written bool? .bool options.ignoreCase standard.ignoreCase
    written.ignoreCase rfl
  have before := withDefault_list Stage.ofValue? Stage.tagged options.before written.before
    fun stage _ => stage.ofValue?_tagged
  refine Option.bind_eq_some_iff.mpr ⟨_, replaceIds, ?_⟩
  rw [summaryLimit, offset, ignoreCase, before]
  rfl

end Options

/-- What is written of a request, of options or of a stage is read back: the request but for null in
place of nothing, which no pipeline of a call shows, the options and the stage as they are. Whatever the
order, every field stands under its name. -/
theorem Request.toValue_restores :
    (∀ request : Request, request.Fits →
      (∃ fields, request.toValue = .object fields ∧ request.Written fields) ∧
        Request.ofValue? request.toValue = some request.settled ∧
        ∀ options, Plan.ofRequest request.settled options = Plan.ofRequest request options) ∧
    (∀ options : Options, options.Fits →
      (∃ fields, options.toValue = .object fields ∧ options.Written fields) ∧
        Options.ofValue? options.toValue = some options) ∧
    ∀ stage : Stage, stage.toValue = stage.tagged ∧ Stage.ofValue? stage.toValue = some stage := by
  refine ⟨fun request fits => ?_, fun options fits => ?_, fun stage => ?_⟩
  · obtain ⟨fields, shown, written⟩ := request.toValue_written
    refine ⟨⟨fields, shown, written⟩, ?_, request.plan_settled⟩
    rw [shown]
    exact request.ofValue?_written fields fits written
  · obtain ⟨fields, shown, written⟩ := options.toValue_written
    refine ⟨⟨fields, shown, written⟩, ?_⟩
    rw [shown]
    exact options.ofValue?_written fields fits written
  · rw [stage.toValue_eq_tagged]
    exact ⟨rfl, stage.ofValue?_tagged⟩

namespace Request

/-- Built step by step: a filter of null, an interval of each form and the last number of rows. -/
def ticketsByPrice : Request :=
  let level : GroupLevel := { selector := "price" }
  let searched := (({} : Request).withFilter .null).withSearch ⟨.one "title", "contains", .null⟩
  ((searched.groupBy (level.bucket (-5))).groupBy (level.unit "10").expand).skipping
    0xffffffffffffffff

def openOnly : Options :=
  { summaryLimit := 0xffffffffffffffff
    offset := -0x80000000
    before := [.matching [("open", .bool true)], .skip 0xffffffffffffffff, .count "null"] }

theorem toValue_restores_tickets :
    ticketsByPrice.Fits ∧ openOnly.Fits ∧
      ofValue? ticketsByPrice.toValue = some { ticketsByPrice with filter := none } ∧
      Plan.ofRequest { ticketsByPrice with filter := none } openOnly =
        Plan.ofRequest ticketsByPrice openOnly ∧
      Options.ofValue? openOnly.toValue = some openOnly := by
  obtain ⟨requests, options, _⟩ := toValue_restores
  have widths : ticketsByPrice.Fits := by decide
  have numbers : openOnly.Fits := by decide
  obtain ⟨_, restored, compiled⟩ := requests ticketsByPrice widths
  exact ⟨widths, numbers, restored, compiled openOnly, (options openOnly numbers).2⟩

end Request

end DataGrid
