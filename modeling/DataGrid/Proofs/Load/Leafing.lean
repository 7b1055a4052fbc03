import DataGrid.Proofs.Load.Pages
/-!
Going through a request page by page. Every page of a call is loaded where the whole call is, and it is
the part of the whole data that it asks for, with the counts and the summary of the whole call. Put
together up to the first empty one, the pages are the whole data again. A page of groups asks for the
groups below them anew, which gives the same groups as long as no summaries compete for slots.
-/
namespace DataGrid

open Result

namespace Paging

variable {α β : Type} (size : UInt64)

/-- The skip of a page, where pages of one size are counted from 0. -/
def skipTo (number : Nat) : Option UInt64 := some (.ofNat (number * size.toNat))

variable (positive : 0 < size)

include positive in
theorem page_window (number : Nat) (fits : number * size.toNat < 2 ^ 64) (items : List α) :
    page (skipTo size number) (some size) items =
      (items.drop (number * size.toNat)).take size.toNat := by
  have skipped := skipped_eq (skipTo size number)
  have taken : Paging.positive (some size) = some size := by
    simp [Paging.positive, Option.filter, positive]
  simp only [page, skipped, taken]
  rw [skipTo, Option.map_some, Option.getD_some, UInt64.toNat_ofNat_of_lt' fits]

include positive in
theorem length_skipTo (number : Nat) (fits : number * size.toNat < 2 ^ 64) (items : List α) :
    (page (skipTo size number) (some size) items).length =
      min size.toNat (items.length - number * size.toNat) := by
  rw [page_window size positive number fits, List.length_take, List.length_drop]

/-- Windows side by side cover the list up to their end. -/
theorem flatten_windows (width : Nat) (items : List α) (last : Nat) :
    ((List.range last).map fun number => (items.drop (number * width)).take width).flatten =
      items.take (last * width) := by
  induction last with
  | zero => simp
  | succ last ih =>
      rw [List.range_succ, List.map_append, List.flatten_append, ih, List.map_singleton,
        List.flatten_singleton, Nat.succ_mul, List.take_add]

include positive in
/-- The pages in front of an empty one are the whole list. -/
theorem flatten_pages (items : List α) (last : Nat) (fits : last * size.toNat < 2 ^ 64)
    (ends : page (skipTo size last) (some size) items = []) :
    ((List.range last).map fun number => page (skipTo size number) (some size) items).flatten =
      items := by
  have windows : (List.range last).map (fun number => page (skipTo size number) (some size) items) =
      (List.range last).map fun number => (items.drop (number * size.toNat)).take size.toNat := by
    refine List.map_congr_left fun number member => page_window size positive number ?_ items
    have before := Nat.mul_le_mul_right size.toNat (List.mem_range.mp member).le
    omega
  have above : 0 < size.toNat := UInt64.lt_iff_toNat_lt.mp positive
  rw [page_window size positive last fits, List.take_eq_nil_iff, List.drop_eq_nil_iff] at ends
  rw [windows, flatten_windows, List.take_of_length_le (by omega)]

theorem page_forall₂ (related : α → β → Prop) (skip take : Option UInt64) (items : List α)
    (results : List β) (each : List.Forall₂ related items results) :
    List.Forall₂ related (page skip take items) (page skip take results) := by
  unfold page
  cases Paging.positive take with
  | none => exact List.forall₂_drop _ each
  | some number => exact List.forall₂_take _ (List.forall₂_drop _ each)

end Paging

namespace LoadData

/-- How many rows or top-level groups there are. -/
def size : LoadData → Nat
  | .rows items => items.length
  | .groups items => items.length

/-- The part of the data that a request asks for. -/
def page (skip take : Option UInt64) : LoadData → LoadData
  | .rows items => .rows (Paging.page skip take items)
  | .groups items => .groups (Paging.page skip take items)

theorem size_page (data : LoadData) (width : UInt64) (positive : 0 < width) (number : Nat)
    (fits : number * width.toNat < 2 ^ 64) :
    (data.page (Paging.skipTo width number) (some width)).size =
      min width.toNat (data.size - number * width.toNat) := by
  cases data with
  | rows items => exact Paging.length_skipTo width positive number fits items
  | groups items => exact Paging.length_skipTo width positive number fits items

/-- Data put together from parts of one kind. -/
inductive Joins : List LoadData → LoadData → Prop
  | rows (parts : List (List Document)) : Joins (parts.map .rows) (.rows parts.flatten)
  | groups (parts : List (List Group)) : Joins (parts.map .groups) (.groups parts.flatten)

theorem joins_pages (data : LoadData) (width : UInt64) (positive : 0 < width) (last : Nat)
    (fits : last * width.toNat < 2 ^ 64)
    (ends : (data.page (Paging.skipTo width last) (some width)).size = 0) :
    Joins ((List.range last).map fun number => data.page (Paging.skipTo width number) (some width))
      data := by
  cases data with
  | rows items =>
      have whole := Paging.flatten_pages width positive items last fits
        (List.eq_nil_of_length_eq_zero ends)
      have joined := Joins.rows
        ((List.range last).map fun number => Paging.page (Paging.skipTo width number) (some width) items)
      rwa [whole, List.map_map] at joined
  | groups items =>
      have whole := Paging.flatten_pages width positive items last fits
        (List.eq_nil_of_length_eq_zero ends)
      have joined := Joins.groups
        ((List.range last).map fun number => Paging.page (Paging.skipTo width number) (some width) items)
      rwa [whole, List.map_map] at joined

end LoadData

/-- The levels below the top one are not cut into pages. -/
theorem RecipeLevel.ofLevels_below (offset : Int) (index : Nat) (levels : List GroupLevel) :
    ∀ level ∈ ofLevels offset (index + 1) levels, level.key.level ≠ 0 := by
  induction levels generalizing index with
  | nil => simp [ofLevels]
  | cons first rest ih =>
      intro level member
      rcases List.mem_cons.mp member with rfl | later
      · exact Nat.succ_ne_zero index
      · exact ih (index + 1) level later

namespace Load

variable (patterns : PatternCompiler) (collection : Collection)

theorem send_yields (pipeline : Pipeline) (docs : List Document)
    (ran : collection.run patterns pipeline = .ok docs) :
    Yields (send (collection.store patterns) pipeline) docs := by
  intro before
  refine ⟨{ before with sent := before.sent ++ [pipeline] }, ?_, rfl⟩
  exact (run_send_ok _ _ _ _ _).mpr ⟨ran, rfl⟩

section Counts

theorem asked_yields (wanted : Bool) (pipeline : Pipeline) (field : String) (found : Option Nat)
    (returned : Returns (asked (collection.store patterns) wanted pipeline field) found) :
    Yields (asked (collection.store patterns) wanted pipeline field) found := by
  cases wanted with
  | false =>
      rw [returns_pure none found returned]
      exact yields_pure none
  | true =>
      obtain ⟨number, rfl, counted⟩ := returns_asked _ _ _ _ returned
      obtain ⟨docs, ran, read⟩ := returns_counted patterns collection pipeline field number counted
      refine yields_map some _ number ?_
      rw [count_eq]
      refine yields_bind _ _ docs number (send_yields patterns collection pipeline docs ran) ?_
      rw [read]
      exact yields_pure number

theorem loadGroupCount_yields (recipe : Recipe) (request : Request) (found : Option Nat)
    (returned : Returns (loadGroupCount (collection.store patterns) recipe request) found) :
    Yields (loadGroupCount (collection.store patterns) recipe request) found := by
  cases compiled : recipe.groupCountStages? with
  | none =>
      rw [loadGroupCount_def, compiled] at returned ⊢
      rw [returns_pure none found returned]
      exact yields_pure none
  | some pipeline =>
      rw [loadGroupCount_eq recipe request _ pipeline compiled] at returned ⊢
      exact asked_yields patterns collection _ _ _ found returned

theorem loadTotalCount_yields (recipe : Recipe) (request : Request) (found : Option Nat)
    (returned : Returns (loadTotalCount (collection.store patterns) recipe request) found) :
    Yields (loadTotalCount (collection.store patterns) recipe request) found := by
  rw [loadTotalCount_eq] at returned ⊢
  exact asked_yields patterns collection _ _ _ found returned

/-- A total summary depends on the slots that are left, and on nothing else in a session. -/
theorem loadTotalSummary_again (recipe : Recipe) (request : Request) (total : Option Nat)
    (before other after : Session) (found : Option (List Value))
    (same : other.limiter = before.limiter)
    (ran : run (loadTotalSummary (collection.store patterns) recipe request total) before =
      (.ok found, after)) :
    ∃ later, run (loadTotalSummary (collection.store patterns) recipe request total) other =
      (.ok found, later) := by
  rw [loadTotalSummary_def] at ran ⊢
  split at ran
  · rename_i asked
    rw [if_pos asked]
    rw [run_summarize] at ran ⊢
    rw [same]
    -- a slot is free in both sessions or in none, and the answer does not depend on which one it is
    cases slot : before.limiter.acquire? with
    | none =>
        rw [slot] at ran
        exact ⟨other, Prod.ext (Prod.mk.inj ran).1 rfl⟩
    | some limiter =>
        rw [slot] at ran
        exact ⟨_, Prod.ext (Prod.mk.inj ran).1 rfl⟩
  · rename_i silent
    rw [if_neg silent]
    exact ⟨other, (run_pure_ok _ _ _ _).mpr ⟨((run_pure_ok _ _ _ _).mp ran).1, rfl⟩⟩

end Counts

section Data

variable (recipe : Recipe) (whole : recipe.paging = []) (skip take : Option UInt64)

theorem select_page (select : List String) (rows docs : List Document)
    (ran : Pipeline.run patterns (Select.stages select) rows = .ok docs) :
    Pipeline.run patterns (Select.stages select) (Paging.page skip take rows) =
      .ok (Paging.page skip take docs) := by
  unfold Select.stages at ran ⊢
  split at ran
  · rename_i nothing
    rw [if_pos nothing, ← Except.ok.inj ran]
    rfl
  · rename_i some
    rw [if_neg some, Pipeline.run_single]
    rw [Pipeline.run_single] at ran
    exact (mapM_ok _ _ _).mpr (Paging.page_forall₂ _ skip take rows docs ((mapM_ok _ _ _).mp ran))

include whole in
theorem flatStages_page (select : List String) (compiled : recipe.select = Select.stages select)
    (docs : List Document) (ran : collection.run patterns recipe.flatStages = .ok docs) :
    collection.run patterns (recipe.paged skip take).flatStages =
      .ok (Paging.page skip take docs) := by
  rw [Recipe.flatStages, whole, List.append_nil, compiled] at ran
  obtain ⟨rows, sorted, selected⟩ := (Pipeline.run_append_ok _ _ _ _ _).mp ran
  have spelled : (recipe.paged skip take).flatStages =
      (recipe.filtered ++ recipe.sort ++ Paging.stages skip take) ++ Select.stages select := by
    rw [← compiled]
    rfl
  rw [spelled]
  refine (Pipeline.run_append_ok _ _ _ _ _).mpr ⟨Paging.page skip take rows, ?_, ?_⟩
  · exact (Pipeline.run_append_ok _ _ _ _ _).mpr ⟨rows, sorted, Paging.run_stages _ _ _ _⟩
  · exact select_page patterns skip take select rows docs selected

variable (cleaner : RowCleaner)

/-- Without summaries, a group is loaded again where the groups below it are. -/
theorem entryGroup_yields (level : RecipeLevel) (deeper : List RecipeLevel) (scope : Pipeline)
    (entry : Document) (group : Group)
    (returned : Returns (entryGroup (collection.store patterns) recipe [] cleaner level deeper scope
      entry) group)
    (nested : ∀ scope children,
      Returns (loadGroups (collection.store patterns) recipe [] cleaner deeper scope) children →
      Yields (loadGroups (collection.store patterns) (recipe.paged skip take) [] cleaner deeper scope)
        children) :
    Yields (entryGroup (collection.store patterns) (recipe.paged skip take) [] cleaner level deeper
      scope entry) group := by
  obtain ⟨own, first, later⟩ := returns_bind _ _ _ returned
  obtain rfl := returns_pure _ _ later
  refine yields_bind _ _ group _ ?_ (yields_pure group)
  unfold content at first ⊢
  split at first
  · rename_i last
    rw [if_pos last, returns_give _ _ first]
    exact yields_pure group
  · rename_i inner
    rw [if_neg inner]
    obtain ⟨children, loaded, rfl⟩ := returns_map _ _ _ first
    exact yields_map _ _ children (nested _ children loaded)

/-- The levels below the top one load the same groups for every page. -/
theorem loadGroups_below (levels : List RecipeLevel)
    (below : ∀ level ∈ levels, level.key.level ≠ 0) (scope : Pipeline) (groups : List Group)
    (returned : Returns (loadGroups (collection.store patterns) recipe [] cleaner levels scope)
      groups) :
    Yields (loadGroups (collection.store patterns) (recipe.paged skip take) [] cleaner levels scope)
      groups := by
  induction levels generalizing scope groups with
  | nil =>
      rw [loadGroups_nil] at returned ⊢
      rw [returns_pure [] groups returned]
      exact yields_pure []
  | cons level deeper ih =>
      -- the pipeline of this level is the same for every page, and so are its entries
      rw [loadGroups_cons] at returned ⊢
      obtain ⟨entries, sent, mapped⟩ := returns_bind _ _ _ returned
      have ran := returns_send patterns collection _ entries sent
      rw [Recipe.levelStages, if_neg (below level List.mem_cons_self)] at ran
      have again : collection.run patterns ((recipe.paged skip take).levelStages level scope) =
          .ok entries := by
        rw [Recipe.levelStages, if_neg (below level List.mem_cons_self)]
        exact ran
      refine yields_bind _ _ entries groups (send_yields patterns collection _ entries again) ?_
      refine yields_mapM _ _ _ ((returns_mapM _ _ _ mapped).imp fun entry group made => ?_)
      exact entryGroup_yields patterns collection recipe skip take cleaner level deeper scope entry
        group made fun scope children =>
          ih (fun other member => below other (List.mem_cons_of_mem level member)) scope children

include whole in
/-- The groups of a page are a page of the groups, each with all that is below it. -/
theorem loadGroups_page (level : RecipeLevel) (deeper : List RecipeLevel)
    (top : level.key.level = 0) (below : ∀ level ∈ deeper, level.key.level ≠ 0) (scope : Pipeline)
    (groups : List Group)
    (returned : Returns (loadGroups (collection.store patterns) recipe [] cleaner (level :: deeper)
      scope) groups) :
    Yields (loadGroups (collection.store patterns) (recipe.paged skip take) [] cleaner
      (level :: deeper) scope) (Paging.page skip take groups) := by
  rw [loadGroups_cons] at returned ⊢
  obtain ⟨entries, sent, mapped⟩ := returns_bind _ _ _ returned
  have ran := returns_send patterns collection _ entries sent
  rw [Recipe.levelStages, whole, ite_self, List.append_nil] at ran
  have cut : collection.run patterns ((recipe.paged skip take).levelStages level scope) =
      .ok (Paging.page skip take entries) := by
    rw [Recipe.levelStages, if_pos top]
    exact (Pipeline.run_append_ok _ _ _ _ _).mpr ⟨entries, ran, Paging.run_stages _ _ _ _⟩
  refine yields_bind _ _ _ _ (send_yields patterns collection _ _ cut) (yields_mapM _ _ _ ?_)
  have each := Paging.page_forall₂ _ skip take entries groups (returns_mapM _ _ _ mapped)
  refine each.imp fun entry group made => ?_
  exact entryGroup_yields patterns collection recipe skip take cleaner level deeper scope entry group
    made fun scope children =>
      loadGroups_below patterns collection recipe skip take cleaner deeper below scope children

end Data

section Request

variable (request : Request) (options : Options) (skip take : Option UInt64)

theorem loadData_page (bare : request.groupSummary = []) (start : request.skip = none)
    (stop : request.take = none) (data : LoadData)
    (returned : Returns (loadData (collection.store patterns) (.ofRequest request options) request
      options) data) :
    Yields (loadData (collection.store patterns) (.ofRequest (request.paged skip take) options)
      (request.paged skip take) options) (data.page skip take) := by
  have whole : (Recipe.ofRequest request options).paging = [] := by
    change Paging.stages request.skip request.take = []
    rw [start, stop]
    rfl
  have same : (request.paged skip take).isGrouped = request.isGrouped := rfl
  rw [loadData_def] at returned ⊢
  rw [same]
  split at returned
  · rename_i grouped
    -- only the entries of the top level are cut, and with them their groups
    rw [if_pos grouped]
    obtain ⟨groups, loaded, rfl⟩ := returns_map _ _ _ returned
    rw [bare] at loaded
    rw [show (request.paged skip take).groupSummary = [] from bare]
    refine yields_map LoadData.groups _ (Paging.page skip take groups) ?_
    cases levels : request.group with
    | nil => simp [Request.isGrouped, levels] at grouped
    | cons level deeper =>
        have compiled : (Recipe.ofRequest request options).levels =
            RecipeLevel.ofLevels options.offset 0 (level :: deeper) := levels ▸ rfl
        have paged : (Recipe.ofRequest (request.paged skip take) options).levels =
            (Recipe.ofRequest request options).levels := rfl
        rw [paged, compiled, RecipeLevel.ofLevels]
        rw [compiled, RecipeLevel.ofLevels] at loaded
        exact loadGroups_page patterns collection _ whole skip take _ _ _ rfl
          (RecipeLevel.ofLevels_below _ 0 deeper) [] groups loaded
  · rename_i flat
    -- the rows are cut behind the sort, before they are selected
    rw [if_neg flat]
    obtain ⟨docs, sent, rfl⟩ := returns_map _ _ _ returned
    have ran := returns_send patterns collection _ docs sent
    have cut := flatStages_page patterns collection _ whole skip take request.select rfl docs ran
    have shown := yields_map (fun rows => LoadData.rows
      (RowCleaner.cleanAll (RowCleaner.stripNothing options.replaceIds) rows)) _ _
        (send_yields patterns collection _ _ cut)
    rw [RowCleaner.cleanAll, ← Paging.page_map] at shown
    exact shown

/-- Where a whole call is loaded, every page of it is: a part of its data, with its counts and its
summary. -/
theorem load_page (bare : request.groupSummary = []) (whole : LoadResult)
    (loaded : (LoadResult.ofRequest (collection.store patterns) (request.paged none none) options).1 =
      .ok whole) :
    (LoadResult.ofRequest (collection.store patterns) (request.paged skip take) options).1 =
      .ok { whole with data := whole.data.page skip take } := by
  obtain ⟨first, second, third, data, groups, total, summed⟩ :=
    load_ok _ (request.paged none none) options (Load.start options) _ whole (Prod.ext loaded rfl)
  have dataPage (skip take : Option UInt64) : Yields (loadData (collection.store patterns)
      (.ofRequest (request.paged skip take) options) (request.paged skip take) options)
      (whole.data.page skip take) :=
    loadData_page patterns collection (request.paged none none) options skip take bare rfl rfl
      whole.data ⟨_, _, data⟩
  have groupsPage := loadGroupCount_yields patterns collection _ _ _ ⟨_, _, groups⟩
  have totalPage := loadTotalCount_yields patterns collection _ _ _ ⟨_, _, total⟩
  -- the whole call is a page of its own, so it has left the limiter alone before its summary
  obtain ⟨_, keptData⟩ := yields_ran _ _ _ (dataPage none none) _ _ data
  obtain ⟨_, keptGroups⟩ := yields_ran _ _ _ groupsPage _ _ groups
  obtain ⟨_, keptTotal⟩ := yields_ran _ _ _ totalPage _ _ total
  obtain ⟨first', ranData, keptData'⟩ := dataPage skip take (Load.start options)
  obtain ⟨second', ranGroups, keptGroups'⟩ := groupsPage first'
  obtain ⟨third', ranTotal, keptTotal'⟩ := totalPage second'
  have sameSlots : third'.limiter = third.limiter := by
    rw [keptTotal', keptGroups', keptData', keptTotal, keptGroups, keptData]
  obtain ⟨later, ranSummary⟩ := loadTotalSummary_again patterns collection _ _ whole.totalCount third
    third' _ whole.summary sameSlots summed
  have ran : run (load (collection.store patterns) (request.paged skip take) options)
      (Load.start options) = (.ok { whole with data := whole.data.page skip take }, later) := by
    rw [load_def]
    refine (run_bind_ok _ _ _ _ _).mpr ⟨_, first', ranData, ?_⟩
    refine (run_bind_ok _ _ _ _ _).mpr ⟨_, second', ranGroups, ?_⟩
    refine (run_bind_ok _ _ _ _ _).mpr ⟨_, third', ranTotal, ?_⟩
    exact (run_bind_ok _ _ _ _ _).mpr ⟨_, later, ranSummary, rfl⟩
  exact congrArg Prod.fst ran

end Request

end Load

namespace LoadResult

/-- The pages of a request, as far as 64 bits can skip to them. All of them are loaded, with the counts
and the summary of the whole call, and up to the first empty one they are the whole data: no row and
no group is left out, shown twice or changed at the edge of a page. -/
theorem ofRequest_pages (patterns : PatternCompiler) (collection : Collection) (request : Request)
    (options : Options) (bare : request.groupSummary = []) (size : UInt64) (positive : 0 < size)
    (whole : LoadResult)
    (loaded : (ofRequest (collection.store patterns) (request.paged none none) options).1 = .ok whole) :
    ∃ pages : Nat → LoadResult,
      (∀ number, number * size.toNat < 2 ^ 64 →
        (ofRequest (collection.store patterns)
          (request.paged (Paging.skipTo size number) (some size)) options).1 = .ok (pages number) ∧
        (pages number).groupCount = whole.groupCount ∧
        (pages number).totalCount = whole.totalCount ∧ (pages number).summary = whole.summary ∧
        (pages number).data.size = min size.toNat (whole.data.size - number * size.toNat)) ∧
      ∀ last, last * size.toNat < 2 ^ 64 → (pages last).data.size = 0 →
        LoadData.Joins ((List.range last).map fun number => (pages number).data) whole.data := by
  refine ⟨fun number => { whole with data := whole.data.page (Paging.skipTo size number) (some size) },
    fun number fits => ⟨?_, rfl, rfl, rfl, ?_⟩, ?_⟩
  · exact Load.load_page patterns collection request options _ _ bare whole loaded
  · exact LoadData.size_page whole.data size positive number fits
  · exact LoadData.joins_pages whole.data size positive

/-- The visits of some cities, and how many there are. -/
def visitsInOrder : Request :=
  { visitsByCity with totalSummary := [⟨"count", none⟩] }

/-- The three cities on pages of two: one page is full, and the third one is empty. -/
theorem ofRequest_pages_visits :
    ∃ whole first second,
      (ofRequest (visits.store Pattern.compile) (visitsInOrder.paged none none) {}).1 = .ok whole ∧
      (ofRequest (visits.store Pattern.compile) (visitsInOrder.paged (some 0) (some 2)) {}).1 =
        .ok first ∧
      (ofRequest (visits.store Pattern.compile) (visitsInOrder.paged (some 2) (some 2)) {}).1 =
        .ok second ∧
      first.data.size = 2 ∧ second.data.size = 1 ∧ second.totalCount = some 5 ∧
      second.summary = some [.int 5] ∧ LoadData.Joins [first.data, second.data] whole.data := by
  obtain ⟨whole, loaded, shown⟩ := (Result.toOption_map_ok (ofRequest (visits.store Pattern.compile)
    (visitsInOrder.paged none none) {}).1 (fun result =>
      (result.data.size, result.totalCount, result.summary)) (3, some 5, some [.int 5])).mp
        (by decide +kernel)
  obtain ⟨three, five, summed⟩ : whole.data.size = 3 ∧ whole.totalCount = some 5 ∧
      whole.summary = some [.int 5] := by simpa using shown
  obtain ⟨pages, each, joins⟩ :=
    ofRequest_pages Pattern.compile visits visitsInOrder {} rfl 2 (by decide) whole loaded
  obtain ⟨firstLoaded, _, _, _, full⟩ := each 0 (by decide)
  obtain ⟨secondLoaded, _, total, summary, rest⟩ := each 1 (by decide)
  obtain ⟨_, _, _, _, empty⟩ := each 2 (by decide)
  rw [three] at full rest empty
  exact ⟨whole, pages 0, pages 1, loaded, firstLoaded, secondLoaded, full, rest, total.trans five,
    summary.trans summed, joins 2 (by decide) empty⟩

end LoadResult

end DataGrid
