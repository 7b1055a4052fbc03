import DataGrid.Pattern.Reader
import DataGrid.Proofs.Filter.Joining
import DataGrid.Proofs.Filter.Spelling
import DataGrid.Request.Search
/-!
Searches beside filters. Both are spelled as arrays again before they are read: the filter and the
search around a token, and the conditions of a search on several fields with tokens between them. No
other shape captures these spellings, so what is kept is what both keep, or what one of the fields
keeps. What does not compile keeps everything.
-/
namespace DataGrid

open Result
open Text (SameLetters)

namespace Filter

/-- A filter of any shape in front of an array is an operand of its own. -/
theorem read?_both (filter : Value) (elements : List Value) :
    read? (.array [filter, .string "and", .array elements]) =
      chainOf? .and [read? filter, read? (.array elements)] := by
  have whole : Chain.isIncomplete [filter, .string "and", .array elements] = false := by
    cases filter <;> rfl
  rw [read?_odd _ _ _ [] rfl whole]
  simp only [ofOdd?, Connective.ofName?_token .and "and" rfl]
  rfl

end Filter

/-- No field of the filter that a value spells has a reserved name. -/
def Filter.Stored (value : Option Value) : Prop :=
  ∀ filter, value.bind read? = some filter → ∀ field ∈ filter.fields, ¬ Path.Reserved field

theorem Filter.fieldsOf_compares (comparison : Comparison) (operand : Value) (fields : List String) :
    fieldsOf (fields.map fun field => .compare field comparison operand) = fields := by
  induction fields with
  | nil => rfl
  | cons field rest ih => exact congrArg (field :: ·) ih

namespace Condition

variable (ignoreCase : Bool)

theorem ofFilters_eq (filters : List Filter) :
    ofFilters ignoreCase filters = filters.filterMap (ofFilter? ignoreCase) := by
  induction filters with
  | nil => rfl
  | cons filter rest ih =>
      rw [ofFilters, List.filterMap_cons, ih]
      cases ofFilter? ignoreCase filter <;> rfl

/-- The operands of a chain that spell nothing or do not compile are left out of it. -/
theorem ofFilter?_chainOf (connective : Connective) (inner : List (Option Filter)) :
    (Filter.chainOf? connective inner).bind (ofFilter? ignoreCase) =
      joined? connective (inner.filterMap fun filter => filter.bind (ofFilter? ignoreCase)) := by
  have compiled : inner.filterMap (fun filter => filter.bind (ofFilter? ignoreCase)) =
      ofFilters ignoreCase (inner.filterMap id) := by
    rw [ofFilters_eq, List.filterMap_filterMap]
    rfl
  rw [compiled, Filter.chainOf?]
  cases inner.filterMap id with
  | nil => rfl
  | cons filter rest => rfl

theorem ofValue?_both (filter : Value) (elements : List Value) :
    ofValue? ignoreCase (.array [filter, .string "and", .array elements]) =
      joined? .and
        ([ofValue? ignoreCase filter, ofValue? ignoreCase (.array elements)].filterMap id) := by
  rw [ofValue?, Filter.read?_both, ofFilter?_chainOf]
  rfl

end Condition

namespace Search

theorem one_or_several (fields : List String) (filled : fields ≠ []) :
    (∃ field, fields = [field]) ∨ 2 ≤ fields.length := by
  cases fields with
  | nil => contradiction
  | cons first rest =>
      cases rest with
      | nil => exact Or.inl ⟨first, rfl⟩
      | cons second rest => exact Or.inr (by simp)

section Reading

variable (search : Search) (comparison : Comparison)
  (named : SameLetters search.operation comparison.name)
include named

theorem read?_condition (field : String) :
    Filter.read? (search.condition field) = some (.compare field comparison search.operand) :=
  Filter.read?_compare field search.operation comparison search.operand named

theorem joins_alternatives (fields : List String) (filled : fields ≠ []) :
    Filter.Joins .or (fields.map fun field => .compare field comparison search.operand)
      (alternatives (fields.map search.condition)) := by
  have spelled (field : String) : Filter.Spells (.compare field comparison search.operand)
      (search.condition field) := .compare field search.operation comparison search.operand named
  induction fields with
  | nil => contradiction
  | cons field rest ih =>
      cases rest with
      | nil => exact .last _ _ _ (spelled field)
      | cons next rest =>
          exact .next _ _ _ "or" _ _ (spelled field) rfl (ih (List.cons_ne_nil next rest))

theorem read?_alone (field : String) :
    Filter.read? (.array (alternatives ([field].map search.condition))) =
      some (.compare field comparison search.operand) :=
  (Filter.read?_wrapped _).trans (search.read?_condition comparison named field)

theorem read?_several (fields : List String) (several : 2 ≤ fields.length) :
    Filter.read? (.array (alternatives (fields.map search.condition))) =
      some (.chain .or (fields.map fun field => .compare field comparison search.operand)) := by
  have filled : fields ≠ [] := by
    rintro rfl
    simp at several
  have distinct : ∀ fields : List String, Filter.areDistinct
      (fields.map fun field => .compare field comparison search.operand) = true := by
    intro fields
    induction fields with
    | nil => rfl
    | cons field rest ih => exact ih
  have joined := search.joins_alternatives comparison named fields filled
  refine Filter.read?_spelled _ _ (.chain _ _ _ joined) ?_
  simp [Filter.isDistinct, several, distinct]

theorem ofValue?_several (ignoreCase : Bool) (fields : List String) (several : 2 ≤ fields.length) :
    Condition.ofValue? ignoreCase (.array (alternatives (fields.map search.condition))) =
      Condition.joined? .or
        (fields.filterMap fun field => Condition.ofValue? ignoreCase (search.condition field)) := by
  rw [Condition.ofValue?, search.read?_several comparison named fields several, Option.bind_some,
    Condition.ofFilter?, Condition.ofFilters_eq, List.filterMap_map]
  congr 1
  refine List.filterMap_congr fun field _ => ?_
  rw [Condition.ofValue?, search.read?_condition comparison named]
  rfl

end Reading

end Search

namespace Filtering

variable (patterns : PatternCompiler) (offset : Int)

/-- A condition that is compiled of a filter without reserved names, if there is one. -/
def Usual (condition : Option Condition) : Prop :=
  ∀ known, condition = some known → Condition.Local patterns known ∧
    ∀ field ∈ known.fields, ¬ Path.Reserved field

theorem usual_ofValue (ignoreCase : Bool) (value : Option Value)
    (stored : Filter.Stored value) :
    Usual patterns (value.bind (Condition.ofValue? ignoreCase)) := by
  intro condition known
  obtain ⟨given, rfl, ofGiven⟩ := Option.bind_eq_some_iff.mp known
  obtain ⟨filter, read, compiled⟩ := Option.bind_eq_some_iff.mp ofGiven
  refine ⟨Condition.local_ofFilter patterns ignoreCase filter condition compiled, ?_⟩
  exact fun field member => stored filter read field
    (Filter.fields_subset ignoreCase filter condition compiled field member)

section Judging

variable (row : Document) (plain : row.Plain)
include plain

theorem judge_both (first second : Option Condition) (one two : Bool)
    (usual : Usual patterns first) (usualToo : Usual patterns second)
    (said : judge patterns offset first row = .ok one)
    (saidToo : judge patterns offset second row = .ok two) :
    judge patterns offset (Condition.joined? .and ([first, second].filterMap id)) row =
      .ok (one && two) := by
  rw [judge_joined patterns offset .and _ row plain]
  -- a condition that is missing says yes, which settles nothing
  · cases first with
    | none =>
        obtain rfl := Except.ok.inj said
        cases second with
        | none =>
            obtain rfl := Except.ok.inj saidToo
            rfl
        | some second =>
            change verdict patterns offset second row = .ok two at saidToo
            simp [Connective.settle, saidToo]
    | some first =>
        change verdict patterns offset first row = .ok one at said
        cases second with
        | none =>
            obtain rfl := Except.ok.inj saidToo
            simp [Connective.settle, said]
        | some second =>
            change verdict patterns offset second row = .ok two at saidToo
            simp [Connective.settle, said, saidToo]
  · intro condition member
    obtain ⟨option, inBoth, known⟩ := List.mem_filterMap.mp member
    obtain rfl : option = some condition := known
    rcases List.mem_cons.mp inBoth with rfl | later
    · exact ⟨(usual condition rfl).1, (usual condition rfl).2, one, said⟩
    · obtain rfl := List.mem_singleton.mp later
      exact ⟨(usualToo condition rfl).1, (usualToo condition rfl).2, two, saidToo⟩

theorem judge_either (conditions : List Condition) (filled : conditions ≠ [])
    (usual : ∀ condition ∈ conditions, Usual patterns (some condition))
    (said : ∀ condition ∈ conditions, ∃ said, judge patterns offset (some condition) row = .ok said) :
    judge patterns offset (Condition.joined? .or conditions) row =
      .ok (conditions.any fun condition =>
        decide (judge patterns offset (some condition) row = .ok true)) := by
  have several : conditions.isEmpty = false := by simpa using filled
  rw [judge_joined patterns offset .or conditions row plain, several, Bool.false_or, Connective.settle,
    List.any_map]
  · rfl
  · intro condition member
    exact ⟨(usual condition member condition rfl).1, (usual condition member condition rfl).2,
      said condition member⟩

variable (search : Search) (comparison : Comparison)
  (named : SameLetters search.operation comparison.name) (ignoreCase : Bool) (fields : List String)
include named

/-- One of the conditions has to hold, where they compile; they all do or none does. -/
theorem judge_several (filled : fields ≠ [])
    (usual : ∀ field ∈ fields,
      Usual patterns (Condition.ofValue? ignoreCase (search.condition field)))
    (said : ∀ field ∈ fields, ∃ said, judge patterns offset
      (Condition.ofValue? ignoreCase (search.condition field)) row = .ok said) :
    judge patterns offset (Condition.ofValue? ignoreCase
        (.array (Search.alternatives (fields.map search.condition)))) row =
      .ok (fields.any fun field => decide (judge patterns offset
        (Condition.ofValue? ignoreCase (search.condition field)) row = .ok true)) := by
  -- the field has no part in whether a condition compiles
  have compiled (field : String) : Condition.ofValue? ignoreCase (search.condition field) =
      (Condition.test? comparison search.operand ignoreCase).map (Condition.onField field) := by
    rw [Condition.ofValue?, search.read?_condition comparison named]
    rfl
  rcases Search.one_or_several fields filled with ⟨field, rfl⟩ | several
  · have alone : Condition.ofValue? ignoreCase (.array (Search.alternatives
        ([field].map search.condition))) = Condition.ofValue? ignoreCase (search.condition field) := by
      rw [Condition.ofValue?, search.read?_alone comparison named field,
        ← search.read?_condition comparison named, Condition.ofValue?]
    obtain ⟨verdict, known⟩ := said field (by simp)
    simp only [alone, known, List.any_cons, List.any_nil]
    cases verdict <;> rfl
  · rw [search.ofValue?_several comparison named ignoreCase fields several]
    simp only [compiled] at said usual ⊢
    cases known : Condition.test? comparison search.operand ignoreCase with
    | none => simp [judge, Condition.joined?, List.exists_mem_of_ne_nil fields filled]
    | some test =>
        have listed : fields.filterMap (fun field => some (Condition.onField field test)) =
            fields.map (Condition.onField · test) := congrFun List.filterMap_eq_map fields
        simp only [known, Option.map_some] at said usual ⊢
        rw [listed, judge_either patterns offset row plain _ (by simpa using filled), List.any_map]
        · rfl
        · exact List.forall_mem_map.mpr usual
        · exact List.forall_mem_map.mpr said

end Judging

end Filtering

namespace Search

/-- The same search on another field. -/
def onField (search : Search) (field : String) : Search := { search with fields := .one field }

/-- The same search on several fields. -/
def onFields (search : Search) (fields : List String) : Search :=
  { search with fields := .several fields }

/-- The fields of a search. -/
def names (search : Search) : List String :=
  match search.fields with
  | .one field => [field]
  | .several fields => fields

theorem toFilter?_cases (search : Search) (value : Value) (spelled : search.toFilter? = some value) :
    (∃ field, search.fields = .one field ∧ value = search.condition field) ∨
      ∃ fields, search.fields = .several fields ∧ fields ≠ [] ∧
        value = .array (alternatives (fields.map search.condition)) := by
  unfold toFilter? at spelled
  split at spelled
  · contradiction
  · split at spelled
    · rename_i field known
      split at spelled
      · contradiction
      · exact Or.inl ⟨field, known, (Option.some.inj spelled).symm⟩
    · rename_i fields known
      split at spelled
      · contradiction
      · rename_i filled
        exact Or.inr ⟨fields, known, by simpa using filled, (Option.some.inj spelled).symm⟩

/-- A search without an operation or an operand is incomplete on any field. -/
def Incomplete (search : Search) : Prop := search.operation = "" ∨ search.operand.isNull = true

theorem toFilter?_incomplete (search : Search) (incomplete : search.Incomplete) :
    search.toFilter? = none := if_pos incomplete

theorem toFilter?_onField (search : Search) (complete : ¬ search.Incomplete) (field : String)
    (filled : field ≠ "") : (search.onField field).toFilter? = some (search.condition field) :=
  (if_neg complete).trans (if_neg filled)

theorem toFilter?_onFields (search : Search) (complete : ¬ search.Incomplete) (fields : List String)
    (filled : fields ≠ []) : (search.onFields fields).toFilter? =
      some (.array (alternatives (fields.map search.condition))) :=
  (if_neg complete).trans (if_neg (by simpa using filled))

theorem toFilter?_array (search : Search) (value : Value) (spelled : search.toFilter? = some value) :
    ∃ elements, value = .array elements := by
  rcases search.toFilter?_cases value spelled with ⟨field, _, rfl⟩ | ⟨fields, _, _, rfl⟩
  · exact ⟨_, rfl⟩
  · exact ⟨_, rfl⟩

/-- Of a filter and a search one may be missing; otherwise both stand around a token. -/
theorem combine?_cases (search : Search) (ignoreCase : Bool) (filter : Option Value) :
    (filter.bind (Condition.ofValue? ignoreCase) = none ∧
        combine? filter (some search) = search.toFilter?) ∨
      (search.toFilter? = none ∧ combine? filter (some search) = filter) ∨
      ∃ value elements, filter = some value ∧ search.toFilter? = some (.array elements) ∧
        combine? filter (some search) = some (.array [value, .string "and", .array elements]) := by
  cases filter with
  | none => exact Or.inl ⟨rfl, rfl⟩
  | some value =>
      -- a filter of null counts as none
      cases null : value.isNull with
      | true =>
          obtain rfl := (Value.isNull_iff value).mp null
          exact Or.inl ⟨rfl, rfl⟩
      | false =>
          have present : (some value).filter (fun value => !value.isNull) = some value := by
            simp [null]
          have given : (some search).bind toFilter? = search.toFilter? := rfl
          rw [combine?, present, given]
          cases spelled : search.toFilter? with
          | none => exact Or.inr (Or.inl ⟨rfl, rfl⟩)
          | some spelling =>
              obtain ⟨elements, rfl⟩ := search.toFilter?_array spelling spelled
              exact Or.inr (Or.inr ⟨value, elements, rfl, rfl, rfl⟩)

theorem stored_search (search : Search) (comparison : Comparison)
    (named : SameLetters search.operation comparison.name)
    (stored : ∀ field ∈ search.names, ¬ Path.Reserved field) : Filter.Stored search.toFilter? := by
  intro filter read
  obtain ⟨value, spelled, read⟩ := Option.bind_eq_some_iff.mp read
  unfold names at stored
  rcases search.toFilter?_cases value spelled with ⟨field, one, rfl⟩ | ⟨fields, several, filled, rfl⟩
  · rw [one] at stored
    rw [search.read?_condition comparison named] at read
    rw [← Option.some.inj read]
    exact stored
  · rw [several] at stored
    rcases one_or_several fields filled with ⟨field, rfl⟩ | two
    · rw [search.read?_alone comparison named] at read
      rw [← Option.some.inj read]
      exact stored
    · rw [search.read?_several comparison named _ two] at read
      rw [← Option.some.inj read, Filter.fields, Filter.fieldsOf_compares]
      exact stored

section Keeping

variable (patterns : PatternCompiler) (offset : Int) (ignoreCase : Bool) (search : Search)

theorem judge_combined (filter : Option Value) (row : Document) (plain : row.Plain) (one two : Bool)
    (stored : Filter.Stored filter) (storedToo : Filter.Stored search.toFilter?)
    (said : Filtering.judge patterns offset (filter.bind (Condition.ofValue? ignoreCase)) row = .ok one)
    (saidToo : Filtering.judge patterns offset
      (search.toFilter?.bind (Condition.ofValue? ignoreCase)) row = .ok two) :
    Filtering.judge patterns offset
        ((combine? filter (some search)).bind (Condition.ofValue? ignoreCase)) row =
      .ok (one && two) := by
  have usual := Filtering.usual_ofValue patterns ignoreCase filter stored
  have usualToo := Filtering.usual_ofValue patterns ignoreCase search.toFilter? storedToo
  rcases search.combine?_cases ignoreCase filter with ⟨missing, alone⟩ | ⟨present, alone⟩ |
    ⟨value, elements, rfl, spelled, both⟩
  · rw [missing] at said
    rw [alone, saidToo, ← Except.ok.inj said, Bool.true_and]
  · rw [present] at saidToo
    rw [alone, said, ← Except.ok.inj saidToo, Bool.and_true]
  · rw [spelled] at saidToo usualToo
    rw [both, Option.bind_some, Condition.ofValue?_both]
    exact Filtering.judge_both patterns offset row plain _ _ one two usual usualToo said saidToo

variable (docs : List Document) (plain : ∀ doc ∈ docs, Document.Plain doc)
include plain

theorem run_combined (filter : Option Value) (kept found : List Document)
    (stored : Filter.Stored filter) (storedToo : Filter.Stored search.toFilter?)
    (ran : Pipeline.run patterns (Filtering.ofFilter filter offset ignoreCase).stages docs = .ok kept)
    (ranToo : Pipeline.run patterns (Filtering.ofFilter search.toFilter? offset ignoreCase).stages docs =
      .ok found) :
    Pipeline.run patterns
        (Filtering.ofFilter (combine? filter (some search)) offset ignoreCase).stages docs =
      .ok (docs.filter fun doc => doc ∈ kept ∧ doc ∈ found) := by
  obtain ⟨said, rfl⟩ := (Filtering.run_ofFilter patterns offset _ ignoreCase docs _ plain).mp ran
  obtain ⟨saidToo, rfl⟩ := (Filtering.run_ofFilter patterns offset _ ignoreCase docs _ plain).mp ranToo
  have judged (doc : Document) (member : doc ∈ docs) (one two : Bool) :=
    search.judge_combined patterns offset ignoreCase filter doc (plain doc member) one two stored
      storedToo
  refine (Filtering.run_ofFilter patterns offset _ ignoreCase docs _ plain).mpr ⟨?_, ?_⟩
  · intro doc member
    obtain ⟨one, first⟩ := said doc member
    obtain ⟨two, second⟩ := saidToo doc member
    exact ⟨_, judged doc member one two first second⟩
  · refine List.filter_congr fun doc member => ?_
    obtain ⟨one, first⟩ := said doc member
    obtain ⟨two, second⟩ := saidToo doc member
    rw [judged doc member one two first second]
    simp only [List.mem_filter, member, first, second]
    cases one <;> cases two <;> rfl

theorem run_onFields (comparison : Comparison)
    (named : SameLetters search.operation comparison.name) (fields : List String)
    (filled : fields ≠ []) (nonempty : "" ∉ fields)
    (stored : ∀ field ∈ fields, ¬ Path.Reserved field) (found : String → List Document)
    (ran : ∀ field ∈ fields, Pipeline.run patterns
      (Filtering.ofFilter (search.onField field).toFilter? offset ignoreCase).stages docs =
        .ok (found field)) :
    Pipeline.run patterns
        (Filtering.ofFilter (search.onFields fields).toFilter? offset ignoreCase).stages docs =
      .ok (docs.filter fun doc => ∃ field ∈ fields, doc ∈ found field) := by
  have kept (field : String) (member : field ∈ fields) :=
    (Filtering.run_ofFilter patterns offset _ ignoreCase docs _ plain).mp (ran field member)
  have listed (doc : Document) (member : doc ∈ docs) (field : String) (inFields : field ∈ fields) :
      doc ∈ found field ↔ Filtering.judge patterns offset
        ((search.onField field).toFilter?.bind (Condition.ofValue? ignoreCase)) doc = .ok true := by
    rw [(kept field inFields).2, List.mem_filter, decide_eq_true_eq]
    exact and_iff_right member
  refine (Filtering.run_ofFilter patterns offset _ ignoreCase docs _ plain).mpr ?_
  by_cases incomplete : search.Incomplete
  · -- an incomplete search keeps everything on any field
    rw [toFilter?_incomplete (search.onFields fields) incomplete]
    refine ⟨fun doc _ => ⟨true, rfl⟩, List.filter_congr fun doc member => ?_⟩
    obtain ⟨field, inFields⟩ := List.exists_mem_of_ne_nil fields filled
    have all := (listed doc member field inFields).mpr (by
      rw [toFilter?_incomplete (search.onField field) incomplete]
      rfl)
    simp only [Option.bind_none, Filtering.judge, decide_true, decide_eq_true_eq]
    exact ⟨field, inFields, all⟩
  -- any other search asks the same comparison of each field
  · have single (field : String) (member : field ∈ fields) :
        (search.onField field).toFilter? = some (search.condition field) :=
      search.toFilter?_onField incomplete field fun empty => nonempty (empty ▸ member)
    have usual (field : String) (member : field ∈ fields) : Filtering.Usual patterns
        (Condition.ofValue? ignoreCase (search.condition field)) := by
      have alone := (search.onField field).stored_search comparison named
        (List.forall_mem_singleton.mpr (stored field member))
      rw [single field member] at alone
      exact Filtering.usual_ofValue patterns ignoreCase _ alone
    have either (doc : Document) (member : doc ∈ docs) :=
      Filtering.judge_several patterns offset doc (plain doc member) search comparison named ignoreCase
        fields filled usual fun field inFields => by
          have said := (kept field inFields).1 doc member
          rwa [single field inFields] at said
    rw [search.toFilter?_onFields incomplete fields filled, Option.bind_some]
    refine ⟨fun doc member => ⟨_, either doc member⟩, List.filter_congr fun doc member => ?_⟩
    rw [either doc member]
    refine decide_eq_decide.mpr ?_
    rw [Except.ok.injEq, List.any_eq_true]
    refine exists_congr fun field => and_congr_right fun inFields => ?_
    rw [listed doc member field inFields, single field inFields, decide_eq_true_eq]
    rfl

end Keeping

/-- Filters and searches together. Where the stages of a filter and those of a search succeed, those
of the two together succeed and keep what both keep, in its order. A search on several fields keeps
what the search on one of them keeps, where all of these succeed. What does not compile, as an
incomplete search, keeps everything. -/
theorem combine_keeps (patterns : PatternCompiler) (offset : Int) (ignoreCase : Bool)
    (docs : List Document) (plain : ∀ doc ∈ docs, Document.Plain doc) (search : Search)
    (comparison : Comparison) (named : SameLetters search.operation comparison.name) :
    (∀ filter kept found, Filter.Stored filter → (∀ field ∈ search.names, ¬ Path.Reserved field) →
      Pipeline.run patterns (Filtering.ofFilter filter offset ignoreCase).stages docs = .ok kept →
      Pipeline.run patterns (Filtering.ofFilter search.toFilter? offset ignoreCase).stages docs =
        .ok found →
      Pipeline.run patterns
          (Filtering.ofFilter (combine? filter (some search)) offset ignoreCase).stages docs =
        .ok (docs.filter fun doc => doc ∈ kept ∧ doc ∈ found)) ∧
    (∀ (fields : List String) (found : String → List Document), fields ≠ [] → "" ∉ fields →
      (∀ field ∈ fields, ¬ Path.Reserved field) →
      (∀ field ∈ fields, Pipeline.run patterns
        (Filtering.ofFilter (search.onField field).toFilter? offset ignoreCase).stages docs =
          .ok (found field)) →
      Pipeline.run patterns
          (Filtering.ofFilter (search.onFields fields).toFilter? offset ignoreCase).stages docs =
        .ok (docs.filter fun doc => ∃ field ∈ fields, doc ∈ found field)) ∧
    ∀ value : Option Value, value.bind (Condition.ofValue? ignoreCase) = none →
      Pipeline.run patterns (Filtering.ofFilter value offset ignoreCase).stages docs = .ok docs := by
  refine ⟨?_, ?_, ?_⟩
  · intro filter kept found stored storedToo ran ranToo
    exact run_combined patterns offset ignoreCase search docs plain filter kept found stored
      (search.stored_search comparison named storedToo) ran ranToo
  · intro fields found filled nonempty stored ran
    exact run_onFields patterns offset ignoreCase search docs plain comparison named fields filled
      nonempty stored found ran
  · intro value nothing
    rw [Filtering.ofFilter, nothing]
    rfl

/-- Tickets with the days on which they were opened. -/
def tickets : List Document :=
  [[("title", .string "open door"), ("opened", .date 1488326400000)],
    [("title", .string "Lamp"), ("note", .string "cannot be opened"),
      ("opened", .single "$date" (.string "2017-11-05T12:00:00Z"))],
    [("title", .string "Window"), ("opened", .date 1485907200000)],
    [("title", .string "opener"), ("opened", .null)]]

/-- Tickets of one year, in a chain with its token left out and an operand that spells nothing. -/
def openedIn (year : Int) : Value :=
  .array [.array [.string "opened.year", .string "=", .int year], .array [.int 1]]

def openSearch : Search := ⟨.several ["title", "note"], "Contains", .string "open"⟩

theorem combine_keeps_tickets :
    Pipeline.run Pattern.compile
        (Filtering.ofFilter (combine? (some (openedIn 2017)) (some openSearch)) 60 false).stages
        tickets = .ok (tickets.take 2) ∧
    Pipeline.run Pattern.compile (Filtering.ofFilter openSearch.toFilter? 60 false).stages tickets =
      .ok (tickets.take 2 ++ tickets.drop 3) ∧
    Pipeline.run Pattern.compile (Filtering.ofFilter (some (.int 2017)) 60 false).stages tickets =
      .ok tickets := by
  obtain ⟨both, either, nothing⟩ := combine_keeps Pattern.compile 60 false tickets (by decide)
    openSearch .contains (by decide)
  have title : Pipeline.run Pattern.compile
      (Filtering.ofFilter (openSearch.onField "title").toFilter? 60 false).stages tickets =
        .ok [tickets[0], tickets[3]] := by
    decide +kernel
  have note : Pipeline.run Pattern.compile
      (Filtering.ofFilter (openSearch.onField "note").toFilter? 60 false).stages tickets =
        .ok [tickets[1]] := by
    decide +kernel
  have year : Pipeline.run Pattern.compile
      (Filtering.ofFilter (some (openedIn 2017)) 60 false).stages tickets = .ok (tickets.take 3) := by
    decide +kernel
  have searched := either ["title", "note"]
    (fun field => if field = "title" then [tickets[0], tickets[3]] else [tickets[1]]) (by decide)
    (by decide) (by decide) (List.forall_mem_cons.mpr ⟨title, List.forall_mem_singleton.mpr note⟩)
  have spelled : Filter.read? (openedIn 2017) =
      some (.chain .and [.compare "opened.year" .eq (.int 2017)]) := rfl
  have stored : Filter.Stored (some (openedIn 2017)) := by
    intro filter read
    rw [Option.bind_some, spelled] at read
    rw [← Option.some.inj read]
    decide
  refine ⟨?_, searched.trans (by decide +kernel), nothing _ rfl⟩
  exact (both (some (openedIn 2017)) _ _ stored (by decide) year searched).trans (by decide +kernel)

end Search

end DataGrid
