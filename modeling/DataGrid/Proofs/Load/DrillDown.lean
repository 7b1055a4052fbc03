import DataGrid.Proofs.Load.KeyFields
import DataGrid.Proofs.Load.Pages
/-!
Drilling down into a group. The key of a level and the filter that asks for one of its keys are
compiled apart from each other, into fields of other names, and look at the rows at other times: a
group collects rows that are sorted already, and a filter leaves rows to be sorted. They find the
same rows nonetheless, in the same order, and where the keys are calendar units, one of them fails
where the other does.
-/
namespace DataGrid

open Result

namespace Request

/-- A request for the rows of one level, which neither filters nor cuts nor shapes them. -/
structure Opens (request : Request) (level : GroupLevel) : Prop where
  levels : request.group = [level]
  expanded : level.expanded = true
  unfiltered : request.filter = none
  unsearched : request.effectiveSearch? = none
  uncut : request.skip = none ∧ request.take = none
  whole : request.select = []

/-- The same request for the rows that a filter leaves, without groups. -/
def narrowed (request : Request) (elements : List Value) : Request :=
  { request with group := [], filter := some (.array elements) }

/-- The same request for the rows under one key, without groups. -/
def drillDown (request : Request) (field : String) (key : Value) : Request :=
  { request with group := [], filter := some (Filter.equality field key) }

end Request

namespace Recipe

variable {request : Request} {level : GroupLevel} (opens : request.Opens level) (options : Options)
include opens

theorem filtered_opens : (ofRequest request options).filtered = options.before := by
  have nothing : Search.combine? request.filter request.effectiveSearch? = none := by
    rw [opens.unfiltered, opens.unsearched]
    rfl
  change options.before ++ (Filtering.ofFilter (Search.combine? request.filter
    request.effectiveSearch?) options.offset options.ignoreCase).stages = _
  rw [nothing]
  exact List.append_nil _

theorem paging_opens : (ofRequest request options).paging = [] := by
  change Paging.stages request.skip request.take = []
  rw [opens.uncut.1, opens.uncut.2]
  rfl

theorem rowForm_opens : (ofRequest request options).rowForm = none := by
  change GroupShape.rowForm? request.select = none
  rw [opens.whole]
  rfl

theorem levels_opens : (ofRequest request options).levels =
    [⟨level.keyAt options 0, level.descending, true, true⟩] := by
  change RecipeLevel.ofLevels options.offset 0 request.group = _
  rw [opens.levels, RecipeLevel.ofLevels, opens.expanded, RecipeLevel.ofLevels]
  rfl

section Narrowed

variable (elements : List Value)

theorem filtered_narrowed : (ofRequest (request.narrowed elements) options).filtered =
    options.before ++
      (Filtering.ofFilter (some (.array elements)) options.offset options.ignoreCase).stages := by
  have combined : Search.combine? (some (.array elements)) request.effectiveSearch? =
      some (.array elements) := by
    rw [opens.unsearched]
    rfl
  change options.before ++ (Filtering.ofFilter (Search.combine? (some (.array elements))
    request.effectiveSearch?) options.offset options.ignoreCase).stages = _
  rw [combined]

theorem flatStages_narrowed : (ofRequest (request.narrowed elements) options).flatStages =
    (ofRequest (request.narrowed elements) options).filtered ++ SortKey.stages request.sort := by
  have whole : Select.stages request.select = [] := by
    rw [opens.whole]
    rfl
  change (ofRequest (request.narrowed elements) options).filtered ++ SortKey.stages request.sort ++
    (ofRequest request options).paging ++ Select.stages request.select = _
  rw [paging_opens opens, whole, List.append_nil, List.append_nil]

end Narrowed

variable (field : String) (key : Value)

theorem filtered_drillDown : (ofRequest (request.drillDown field key) options).filtered =
    options.before ++ (Filtering.ofCondition options.offset (Filtering.equals field key)).stages := by
  have narrowed := filtered_narrowed opens options [.string field, .string Comparison.eq.name, key]
  rw [show (Value.array _) = Filter.equality field key from rfl, Filtering.ofFilter_equality] at narrowed
  exact narrowed

theorem flatStages_drillDown : (ofRequest (request.drillDown field key) options).flatStages =
    options.before ++ (Filtering.ofCondition options.offset (Filtering.equals field key)).stages ++
      SortKey.stages request.sort := by
  rw [← filtered_drillDown opens]
  exact flatStages_narrowed opens options [.string field, .string Comparison.eq.name, key]

end Recipe

namespace Load

variable (patterns : PatternCompiler) (collection : Collection)

section Flat

variable (request : Request) (options : Options) (ungrouped : request.group = [])
include ungrouped

theorem loadData_flat (store : Store) : loadData store (.ofRequest request options) request options =
    (fun rows => .rows (rows.map (RowCleaner.shown options.replaceIds))) <$>
      send store (Recipe.ofRequest request options).flatStages := by
  have flat : request.isGrouped = false := by simp [Request.isGrouped, ungrouped]
  rw [loadData_def, flat, if_neg (by decide)]
  rfl

theorem flat_rows (result : LoadResult)
    (loaded : (LoadResult.ofRequest (collection.store patterns) request options).1 = .ok result) :
    ∃ docs, collection.run patterns (Recipe.ofRequest request options).flatStages = .ok docs ∧
      result.rows? = some (docs.map (RowCleaner.shown options.replaceIds)) := by
  obtain ⟨data, _, _⟩ := returns_load _ _ _ _ loaded
  rw [loadData_flat request options ungrouped] at data
  obtain ⟨docs, sent, same⟩ := returns_map _ _ _ data
  refine ⟨docs, returns_send patterns collection _ docs sent, ?_⟩
  rw [LoadResult.rows?, ← same]

theorem flat_loads (rows docs : List Document)
    (small : request.needsTotalCount = true → rows.length < 2 ^ 64)
    (filtered : collection.run patterns (Recipe.ofRequest request options).filtered = .ok rows)
    (ran : collection.run patterns (Recipe.ofRequest request options).flatStages = .ok docs) :
    ∃ result, (LoadResult.ofRequest (collection.store patterns) request options).1 = .ok result := by
  refine parts_succeed patterns collection request options rows filtered ?_ ?_
    (loadTotalCount_succeeds patterns collection _ request rows filtered small)
  · rw [loadData_flat request options ungrouped]
    exact succeeds_map _ _ (send_succeeds patterns collection _ docs ran)
  · have none : (Recipe.ofRequest request options).groupCountStages? = none := by
      simp [Recipe.groupCountStages?, Recipe.ofRequest, ungrouped, RecipeLevel.ofLevels]
    rw [loadGroupCount_def, none]
    exact succeeds_pure _

end Flat

section Expanded

variable (recipe : Recipe) (whole : recipe.rowForm = none) (level : RecipeLevel)

section Entries

variable (cleaner : RowCleaner) (docs : List Document) (items : Value → List Value) (key : Value)
  (collected : List.Forall₂ (fun doc item =>
    Expression.evaluate (.object doc) (recipe.shape level).collected = .ok item)
    (Grouping.members level.key.carried docs key) (items key))
include whole collected

theorem cleanItems_total : ∃ rows, cleaner.cleanItems (.array (items key)) = .ok rows := by
  refine mapM_total cleaner.cleanItem (items key) fun item member => ?_
  obtain ⟨doc, _, evaluated⟩ := exists_left collected item member
  rw [GroupShape.collected, show (recipe.shape level).rowForm = none from whole] at evaluated
  obtain rfl := Except.ok.inj evaluated
  exact ⟨cleaner.clean doc, rfl⟩

theorem ownGroup_total (expanded : level.withItems = true) :
    ∃ group, ownGroup level cleaner key ((recipe.shape level).entryOf level.key docs items key) =
      .ok group := by
  obtain ⟨rows, cleaned⟩ := cleanItems_total recipe whole level cleaner docs items key collected
  refine ⟨.ofRows key rows, ?_⟩
  rw [ownGroup, if_pos expanded, GroupShape.entryOf, GroupShape.entry_items _ _ _ _ expanded]
  exact (bind_ok _ _ _).mpr ⟨rows, cleaned, rfl⟩

theorem entryGroup_total (last : level.last = true) (expanded : level.withItems = true)
    (summaries : List Summary) (deeper : List RecipeLevel) (scope : Pipeline) (rows : List Document)
    (reached : collection.run patterns (recipe.filtered ++ Recipe.keyScope level scope key) = .ok rows) :
    Succeeds (entryGroup (collection.store patterns) recipe summaries cleaner level deeper scope
      ((recipe.shape level).entryOf level.key docs items key)) := by
  obtain ⟨own, read⟩ :=
    ownGroup_total recipe whole level cleaner docs items key collected expanded
  refine succeeds_bind _ _ ?_ fun group _ =>
    summarized_succeeds patterns collection recipe summaries _ rows group reached
  rw [content, if_pos last]
  exact fun before => ⟨own, before, Prod.ext read rfl⟩

end Entries

variable (unpaged : recipe.paging = []) (rows : List Document)
  (filtered : collection.run patterns recipe.filtered = .ok rows)

include whole unpaged in
theorem levelStages_total (scope : Pipeline) (extended : List Document)
    (within : collection.run patterns (recipe.filtered ++ recipe.sort ++ scope) = .ok rows)
    (computed : rows.mapM level.key.extend = .ok extended) :
    ∃ entries, collection.run patterns (recipe.levelStages level scope) = .ok entries := by
  have collects := (recipe.shape level).collects_whole whole
  obtain ⟨entries, shaped⟩ := (recipe.shape level).stages_total collects patterns level.key extended
  refine ⟨entries, ?_⟩
  rw [Recipe.levelStages, unpaged, ite_self, List.append_nil]
  refine (Pipeline.run_append_ok _ _ _ _ _).mpr ⟨extended, ?_, shaped⟩
  exact (Pipeline.run_append_ok _ _ _ _ _).mpr
    ⟨rows, within, (level.key.run_stages patterns rows extended).mpr computed⟩

include whole unpaged filtered in
/-- The groups of one level are loaded if every row has a key, which no match takes for operators. -/
theorem loadGroups_total (last : level.last = true) (expanded : level.withItems = true)
    (summaries : List Summary) (cleaner : RowCleaner) (sorted : List Document)
    (within : collection.run patterns (recipe.filtered ++ recipe.sort ++ []) = .ok sorted)
    (order : sorted.Perm rows)
    (valued : ∀ row ∈ rows, ∃ value, level.key.valueOf row = .ok value ∧
      Predicate.isOperators value = false) :
    Succeeds (loadGroups (collection.store patterns) recipe summaries cleaner [level] []) := by
  have keyed : ∀ row ∈ sorted, ∃ value, level.key.valueOf row = .ok value := fun row member =>
    (valued row (order.mem_iff.mp member)).imp fun _ known => known.1
  obtain ⟨extended, computed⟩ := level.key.extend_total sorted keyed
  obtain ⟨inOrder, computed', _⟩ := mapM_perm _ sorted rows extended order computed
  obtain ⟨entries, ran⟩ := levelStages_total patterns collection recipe whole level unpaged sorted []
    extended within computed
  obtain ⟨again, keys, items, computed'', siblings, collected, rfl⟩ := level_entries patterns
    collection recipe none none unpaged level [] sorted entries within ran
  obtain rfl := Except.ok.inj (computed.symm.trans computed'')
  rw [loadGroups_cons]
  refine succeeds_bind _ _ (send_succeeds patterns collection _ _ ran) fun docs sent => ?_
  obtain rfl := Except.ok.inj (ran.symm.trans (returns_send patterns collection _ docs sent))
  refine succeeds_mapM _ _ fun entry member => ?_
  rw [Paging.page_none, ite_self] at member
  obtain ⟨key, listed, rfl⟩ := List.mem_map.mp member
  -- a key is that of some row, so the scope of its group can be rebuilt
  obtain ⟨row, inSorted, known⟩ :=
    level.key.valueOf_classes sorted extended keys computed siblings.toClasses key listed
  obtain ⟨value, same, plain⟩ := valued row (order.mem_iff.mp inSorted)
  obtain rfl := Except.ok.inj (known.symm.trans same)
  have reached := keyScope_ok patterns collection recipe.filtered level [] rows inOrder key
    (by rwa [List.append_nil]) computed' plain
  exact entryGroup_total patterns collection recipe whole level cleaner extended items key
    (collected expanded key) last expanded summaries [] [] _ reached

end Expanded

end Load

namespace LoadResult

section Opened

variable (patterns : PatternCompiler) (collection : Collection) {request : Request}
  {level : GroupLevel} (opens : request.Opens level) (options : Options) {field : String}
  (searched : level.Searched field) (keys : Sorting.Keys)
  (sorts : ∀ patterns docs,
    Pipeline.run patterns (SortKey.stages request.sort) docs = .ok (Sorting.sort keys docs))
include opens

section Flat

include sorts in
theorem narrowed_loads (elements : List Value) (rows kept : List Document)
    (before : collection.run patterns options.before = .ok rows)
    (small : request.needsTotalCount = true → kept.length < 2 ^ 64)
    (filters : Pipeline.run patterns (Filtering.ofFilter (some (.array elements)) options.offset
      options.ignoreCase).stages rows = .ok kept) :
    ∃ flat,
      (ofRequest (collection.store patterns) (request.narrowed elements) options).1 = .ok flat ∧
      flat.rows? = some ((Sorting.sort keys kept).map (RowCleaner.shown options.replaceIds)) := by
  have filtered : collection.run patterns
      (Recipe.ofRequest (request.narrowed elements) options).filtered = .ok kept := by
    rw [Recipe.filtered_narrowed opens]
    exact (Pipeline.run_append_ok _ _ _ _ _).mpr ⟨rows, before, filters⟩
  have ran : collection.run patterns
      (Recipe.ofRequest (request.narrowed elements) options).flatStages =
        .ok (Sorting.sort keys kept) := by
    rw [Recipe.flatStages_narrowed opens]
    exact (Pipeline.run_append_ok _ _ _ _ _).mpr ⟨kept, filtered, sorts patterns kept⟩
  obtain ⟨flat, loaded⟩ := Load.flat_loads patterns collection (request.narrowed elements) options rfl
    kept _ small filtered ran
  obtain ⟨docs, again, shown⟩ := Load.flat_rows patterns collection _ options rfl flat loaded
  obtain rfl := Except.ok.inj (ran.symm.trans again)
  exact ⟨flat, loaded, shown⟩

include searched sorts in
theorem drillDown_loads (rows : List Document)
    (before : collection.run patterns options.before = .ok rows)
    (plain : ∀ row ∈ rows, Document.Plain row)
    (small : request.needsTotalCount = true → rows.length < 2 ^ 64)
    (valued : ∀ row ∈ rows, ∃ value, Filtering.valueOf options.offset field row = .ok value)
    (key : Value) :
    ∃ flat, (ofRequest (collection.store patterns) (request.drillDown field key) options).1 =
        .ok flat ∧
      flat.rows? = some ((Sorting.sort keys (Grouping.members
        (Filtering.subjectOf options.offset field) rows key)).map
          (RowCleaner.shown options.replaceIds)) := by
  have fewer : (Grouping.members (Filtering.subjectOf options.offset field) rows key).length ≤
      rows.length := List.length_filter_le _ _
  refine narrowed_loads patterns collection opens options keys sorts
    [.string field, .string Comparison.eq.name, key] rows _ before
    (fun counted => fewer.trans_lt (small counted)) ?_
  rw [show (Value.array _) = Filter.equality field key from rfl, Filtering.ofFilter_equality]
  exact Filtering.run_equals patterns options.offset field key rows searched.searchable plain valued

/-- A drill-down that is loaded has found a value of the field in every row. -/
theorem drillDown_valued (key : Value) (flat : LoadResult)
    (loaded : (ofRequest (collection.store patterns) (request.drillDown field key) options).1 =
      .ok flat) :
    ∃ rows, collection.run patterns options.before = .ok rows ∧
      ∀ row ∈ rows, ∃ value, Filtering.valueOf options.offset field row = .ok value := by
  obtain ⟨docs, ran, _⟩ := Load.flat_rows patterns collection _ options rfl flat loaded
  rw [Recipe.flatStages_drillDown opens] at ran
  obtain ⟨kept, filtered, _⟩ := (Pipeline.run_append_ok _ _ _ _ _).mp ran
  obtain ⟨rows, before, matched⟩ := (Pipeline.run_append_ok _ _ _ _ _).mp filtered
  exact ⟨rows, before,
    Filtering.valued_of_run patterns options.offset field key rows kept matched⟩

end Flat

section Grouped

include sorts in
/-- The groups of a single level show the rows under their keys, sorted. -/
theorem grouped_rows (result : LoadResult)
    (loaded : (ofRequest (collection.store patterns) request options).1 = .ok result) :
    ∃ rows groups, collection.run patterns options.before = .ok rows ∧
      (∀ row ∈ rows, ∃ value, (level.keyAt options 0).valueOf row = .ok value) ∧
      result.data = .groups groups ∧
      ((∀ row ∈ rows, Document.Plain row) → ∀ group ∈ groups, group.rows? = some
        ((Grouping.members (level.keyAt options 0).keyOf (Sorting.sort keys rows) group.key).map
          (RowCleaner.shown options.replaceIds))) := by
  obtain ⟨groups, sorted, isGroups, within, returned⟩ :=
    grouped_returns patterns collection request options level [] opens.levels result loaded
  have start := within
  rw [List.append_nil, Recipe.filtered_opens opens] at start
  obtain ⟨rows, before, ordered⟩ := (Pipeline.run_append_ok _ _ _ _ _).mp start
  obtain rfl := Except.ok.inj ((sorts patterns rows).symm.trans ordered)
  have unpaged : (Recipe.ofRequest request options).paging = Paging.stages none none :=
    Recipe.paging_opens opens options
  -- there is one level only, so that its groups hold the rows themselves
  obtain ⟨extended, values, computed, _, each⟩ := Load.loadGroups_covers_last patterns collection _
    options _ none none unpaged _ level 0 [] _ groups within returned
  refine ⟨rows, groups, before, ?_, isGroups, ?_⟩
  · intro row member
    obtain ⟨doc, _, one⟩ := exists_right ((mapM_ok _ _ _).mp computed) row
      ((Sorting.sort_perm keys rows).mem_iff.mpr member)
    exact ⟨_, GroupKey.valueOf_ok _ row doc one⟩
  · intro plain group member
    have reserved := (Recipe.ofRequest request options).cleaner_reserved options
    have listed := (Recipe.ofRequest request options).cleaner_listed options
    rw [Recipe.levels_opens opens] at listed
    have plainSorted : ∀ row ∈ Sorting.sort keys rows, Document.Plain row := fun row inSorted =>
      plain row ((Sorting.sort_perm keys rows).mem_iff.mp inSorted)
    have reached := Load.reaches_stored reserved plainSorted (listed _ List.mem_cons_self) computed
    obtain ⟨value, _, covers⟩ := exists_left each group member
    have gathers := Load.gathers_last _ options _ reserved rfl (Recipe.rowForm_opens opens options)
      level 0 _ extended value group plainSorted reached covers
    unfold Group.Gathers at gathers
    dsimp only at gathers
    rw [if_pos opens.expanded] at gathers
    obtain ⟨summary, rfl⟩ := gathers
    rfl

theorem opened_loads (rows : List Document)
    (before : collection.run patterns options.before = .ok rows)
    (few : request.groupCount = true → rows.length < 2 ^ 64)
    (small : request.needsTotalCount = true → rows.length < 2 ^ 64)
    (keyed : ∀ row ∈ rows, ∃ value, (level.keyAt options 0).valueOf row = .ok value ∧
      Predicate.isOperators value = false) :
    ∃ result, (ofRequest (collection.store patterns) request options).1 = .ok result := by
  have filtered : collection.run patterns (Recipe.ofRequest request options).filtered = .ok rows := by
    rwa [Recipe.filtered_opens opens]
  obtain ⟨keys, sorts⟩ := SortKey.stages_sort request.sort
  have within : collection.run patterns ((Recipe.ofRequest request options).filtered ++
      (Recipe.ofRequest request options).sort ++ []) = .ok (Sorting.sort keys rows) := by
    rw [List.append_nil]
    exact (Pipeline.run_append_ok _ _ _ _ _).mpr ⟨rows, filtered, sorts patterns rows⟩
  obtain ⟨extended, computed⟩ := (level.keyAt options 0).extend_total rows fun row member =>
    (keyed row member).imp fun _ known => known.1
  refine Load.parts_succeed patterns collection request options rows filtered ?_
    (Load.loadGroupCount_succeeds patterns collection _ request rows filtered _ []
      (Recipe.levels_opens opens options) extended computed few)
    (Load.loadTotalCount_succeeds patterns collection _ request rows filtered small)
  have isGrouped : request.isGrouped = true := by simp [Request.isGrouped, opens.levels]
  rw [Load.loadData_def, if_pos isGrouped, Recipe.levels_opens opens]
  exact Load.succeeds_map _ _ (Load.loadGroups_total patterns collection _
    (Recipe.rowForm_opens opens options) _ (Recipe.paging_opens opens options) rows filtered rfl rfl
    _ _ _ within (Sorting.sort_perm keys rows) keyed)

include searched in
theorem grouped_loads (rows : List Document)
    (before : collection.run patterns options.before = .ok rows) (small : rows.length < 2 ^ 64)
    (dated : level.interval ≠ none)
    (valued : ∀ row ∈ rows, ∃ value, Filtering.valueOf options.offset field row = .ok value) :
    ∃ result, (ofRequest (collection.store patterns) request options).1 = .ok result := by
  refine opened_loads patterns collection opens options rows before (fun _ => small) (fun _ => small)
    fun row member => ?_
  obtain ⟨value, known⟩ := valued row member
  rw [← searched.valueOf options row] at known
  exact ⟨value, known, searched.unit_value dated options row value known⟩

end Grouped

include searched sorts in
/-- Where groups are loaded, so are the rows under any key, and under the key of a group its own. -/
theorem grouped_drillDown (result : LoadResult)
    (plain : ∀ rows, collection.run patterns options.before = .ok rows →
      ∀ row ∈ rows, Document.Plain row)
    (loaded : (ofRequest (collection.store patterns) request options).1 = .ok result) :
    ∃ groups, result.data = .groups groups ∧ ∀ key, ∃ flat items,
      (ofRequest (collection.store patterns) (request.drillDown field key) options).1 = .ok flat ∧
      flat.rows? = some items ∧ ∀ group ∈ groups, group.key = key → group.rows? = some items := by
  obtain ⟨rows, groups, before, valued, isGroups, each⟩ :=
    grouped_rows patterns collection opens options keys sorts result loaded
  refine ⟨groups, isGroups, fun key => ?_⟩
  obtain ⟨_, _, counted⟩ := Load.returns_load _ _ _ _ loaded
  have small := Load.loadTotalCount_small patterns collection _ request rows
    (by rwa [Recipe.filtered_opens opens]) _ counted
  obtain ⟨flat, found, items⟩ := drillDown_loads patterns collection opens options searched keys
    sorts rows before (plain rows before) small
    (fun row member => searched.valueOf options row ▸ valued row member) key
  refine ⟨flat, _, found, items, ?_⟩
  rintro group member rfl
  -- a group collects rows that are sorted, and the rows under its key are sorted last
  rw [each (plain rows before) group member, searched.subjectOf options, Grouping.members,
    Sorting.filter_sort]
  rfl

end Opened

/-- The rows of each group are the rows that its key is searched for, in the same order. Where keys
are units of dates, the groups fail to load if and only if the rows under any key do, as long as
64 bits can hold the number of rows. -/
theorem ofRequest_drillDown (patterns : PatternCompiler) (collection : Collection)
    (request : Request) (level : GroupLevel) (options : Options) (field : String)
    (opens : request.Opens level) (searched : level.Searched field)
    (plain : ∀ rows, collection.run patterns options.before = .ok rows →
      ∀ row ∈ rows, Document.Plain row) :
    (∀ result, (ofRequest (collection.store patterns) request options).1 = .ok result →
      ∃ groups, result.data = .groups groups ∧ ∀ group ∈ groups, ∃ flat items,
        (ofRequest (collection.store patterns) (request.drillDown field group.key) options).1 =
          .ok flat ∧ flat.rows? = some items ∧ group.rows? = some items) ∧
    (level.interval ≠ none →
      (∀ rows, collection.run patterns options.before = .ok rows → rows.length < 2 ^ 64) →
      ∀ key, (∃ fault, (ofRequest (collection.store patterns) request options).1 = .error fault) ↔
        ∃ fault, (ofRequest (collection.store patterns) (request.drillDown field key) options).1 =
          .error fault) := by
  obtain ⟨keys, sorts⟩ := SortKey.stages_sort request.sort
  have shown := grouped_drillDown patterns collection opens options searched keys sorts
  refine ⟨fun result loaded => ?_, fun dated small key => ?_⟩
  · obtain ⟨groups, isGroups, each⟩ := shown result plain loaded
    refine ⟨groups, isGroups, fun group member => ?_⟩
    obtain ⟨flat, items, found, rows, same⟩ := each group.key
    exact ⟨flat, items, found, rows, same group member rfl⟩
  · rw [failed_iff, failed_iff, not_iff_not]
    constructor
    · rintro ⟨result, loaded⟩
      obtain ⟨groups, _, each⟩ := shown result plain loaded
      obtain ⟨flat, _, found, _⟩ := each key
      exact ⟨flat, found⟩
    · rintro ⟨flat, loaded⟩
      obtain ⟨rows, before, valued⟩ :=
        drillDown_valued patterns collection opens options key flat loaded
      exact grouped_loads patterns collection opens options searched rows before (small rows before)
        dated valued

/-- Orders of some days, which begin two hours ahead of UTC. One of them has no day. -/
def orders : Collection :=
  .ofDocuments
    [[("day", .single "$date" (.string "2024-03-31T22:30:00Z")), ("city", .string "Oslo")],
      [("day", .single "$date" (.string "2024-02-29T12:00:00Z")), ("city", .string "Rome")],
      [("city", .string "Oslo")],
      [("day", .single "$date" (.string "2023-12-31T23:30:00Z")), ("city", .string "Bern")]]

def eastern : Options := { offset := -120 }

def ordersBy (level : GroupLevel) : Request :=
  { sort := [⟨"city", true⟩], group := [level], totalCount := true }

def byCity : GroupLevel := { selector := "city", expanded := true }

def byQuarter : GroupLevel :=
  { selector := "day", descending := true, expanded := true, interval := some (.named "QUARTER") }

/-- A day that is no date. -/
def misdated : Collection := .ofDocuments [[("day", .bool true)]]

theorem ofRequest_drillDown_orders :
    (∃ result groups,
      (ofRequest (orders.store Pattern.compile) (ordersBy byCity) eastern).1 = .ok result ∧
      result.data = .groups groups ∧ result.groups.length = 3 ∧ ∀ group ∈ groups, ∃ flat items,
        (ofRequest (orders.store Pattern.compile) ((ordersBy byCity).drillDown "city" group.key)
          eastern).1 = .ok flat ∧ flat.rows? = some items ∧ group.rows? = some items) ∧
    (∃ result groups,
      (ofRequest (orders.store Pattern.compile) (ordersBy byQuarter) eastern).1 = .ok result ∧
      result.data = .groups groups ∧ result.groups.length = 3 ∧ ∀ group ∈ groups, ∃ flat items,
        (ofRequest (orders.store Pattern.compile)
          ((ordersBy byQuarter).drillDown "day.Quarter" group.key) eastern).1 = .ok flat ∧
        flat.rows? = some items ∧ group.rows? = some items) ∧
    ∀ key, ∃ fault, (ofRequest (misdated.store Pattern.compile)
      ((ordersBy byQuarter).drillDown "day.Quarter" key) eastern).1 = .error fault := by
  have city : byCity.Searched "city" := .stored rfl (by decide) (by decide +kernel)
  have quarter : byQuarter.Searched "day.Quarter" :=
    .unit "QUARTER" "Quarter" .quarter rfl (by decide +kernel) (by decide +kernel) rfl (by decide)
      (by decide)
  have plain : ∀ rows, orders.run Pattern.compile eastern.before = .ok rows →
      ∀ row ∈ rows, Document.Plain row := by
    intro rows ran
    obtain rfl := Except.ok.inj ran
    decide +kernel
  have single : ∀ rows, misdated.run Pattern.compile eastern.before = .ok rows →
      (∀ row ∈ rows, Document.Plain row) ∧ rows.length < 2 ^ 64 := by
    intro rows ran
    obtain rfl := Except.ok.inj ran
    decide +kernel
  refine ⟨?_, ?_, ?_⟩
  · obtain ⟨result, loaded, three⟩ := (toOption_map_ok (ofRequest (orders.store Pattern.compile)
      (ordersBy byCity) eastern).1 (fun result => result.groups.length) 3).mp (by decide +kernel)
    obtain ⟨groups, isGroups, each⟩ := (ofRequest_drillDown Pattern.compile orders (ordersBy byCity)
      byCity eastern "city" ⟨rfl, rfl, rfl, rfl, ⟨rfl, rfl⟩, rfl⟩ city plain).1 result loaded
    exact ⟨result, groups, loaded, isGroups, three, each⟩
  · obtain ⟨result, loaded, three⟩ := (toOption_map_ok (ofRequest (orders.store Pattern.compile)
      (ordersBy byQuarter) eastern).1 (fun result => result.groups.length) 3).mp (by decide +kernel)
    obtain ⟨groups, isGroups, each⟩ := (ofRequest_drillDown Pattern.compile orders
      (ordersBy byQuarter) byQuarter eastern "day.Quarter" ⟨rfl, rfl, rfl, rfl, ⟨rfl, rfl⟩, rfl⟩
      quarter plain).1 result loaded
    exact ⟨result, groups, loaded, isGroups, three, each⟩
  · have refused := (failed_iff (ofRequest (misdated.store Pattern.compile) (ordersBy byQuarter)
      eastern).1).mpr fun ⟨result, loaded⟩ => absurd
        ((toOption_map_ok _ (fun _ => true) true).mpr ⟨result, loaded, rfl⟩) (by decide +kernel)
    exact fun key => ((ofRequest_drillDown Pattern.compile misdated (ordersBy byQuarter) byQuarter
      eastern "day.Quarter" ⟨rfl, rfl, rfl, rfl, ⟨rfl, rfl⟩, rfl⟩ quarter
      fun rows ran => (single rows ran).1).2 (by decide) (fun rows ran => (single rows ran).2)
        key).mp refused

end LoadResult

end DataGrid
