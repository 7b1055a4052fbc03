import DataGrid.Pattern.Reader
import DataGrid.Proofs.Load.Counts
/-!
Pages of a grouped call. A page asks for some of the entries that the whole call asks for, and each
of them for the same groups and summaries below it. So where the whole call succeeds, every page of
it does, and counts the same.
-/
namespace DataGrid

open Result

namespace Request

/-- The same request for another page. -/
def paged (request : Request) (skip take : Option UInt64) : Request :=
  { request with skip := skip, take := take }

end Request

namespace Recipe

def paged (recipe : Recipe) (skip take : Option UInt64) : Recipe :=
  { recipe with paging := Paging.stages skip take }

theorem keyScope_rowwise (level : RecipeLevel) (scope : Pipeline) (key : Value)
    (rowwise : Pipeline.Rowwise scope) : Pipeline.Rowwise (keyScope level scope key) := by
  refine Pipeline.rowwise_append _ _ (Pipeline.rowwise_append _ _ rowwise ?_) ?_
  · intro stage member
    obtain ⟨part, _, rfl⟩ := List.mem_map.mp member
    exact Or.inr ⟨_, rfl⟩
  · intro stage member
    rw [List.mem_singleton.mp member]
    exact Or.inl ⟨_, rfl⟩

end Recipe

namespace Group

theorem keys_withSummary (group : Group) (summary : Option (List Value)) :
    keys (group.withSummary summary) = keys group := by
  cases group <;> rfl

end Group

namespace Load

section Again

variable (patterns : PatternCompiler) (collection : Collection) (recipe : Recipe)
  (sort : List SortKey) (compiled : recipe.sort = SortKey.stages sort)

include compiled in
/-- The rows of a scope can be reached in any order. -/
theorem unsorted_ok (scope : Pipeline) (rows : List Document) (rowwise : Pipeline.Rowwise scope)
    (within : collection.run patterns (recipe.filtered ++ recipe.sort ++ scope) = .ok rows) :
    ∃ others, collection.run patterns (recipe.filtered ++ scope) = .ok others ∧ rows.Perm others := by
  rw [Collection.run, Pipeline.run_append_ok] at within
  obtain ⟨sorted, start, narrowed⟩ := within
  obtain ⟨filtered, first, _⟩ := (Pipeline.run_append_ok _ _ _ _ _).mp start
  have order := sorted_perm patterns collection recipe sort compiled filtered sorted first start
  obtain ⟨others, reached, same⟩ := Pipeline.rowwise_perm patterns scope rowwise sorted filtered rows
    order narrowed
  exact ⟨others, (Pipeline.run_append_ok _ _ _ _ _).mpr ⟨filtered, first, reached⟩, same⟩

theorem summarize_succeeds (scope : Pipeline) (summaries : List Summary) (rows : List Document)
    (reached : collection.run patterns (recipe.filtered ++ scope) = .ok rows) :
    Succeeds (summarize (collection.store patterns) recipe scope summaries) := by
  obtain ⟨out, computed⟩ := Summary.run_stages summaries patterns rows
  have ran : collection.run patterns (recipe.summaryStages scope summaries) = .ok out :=
    (Pipeline.run_append_ok _ _ _ _ _).mpr ⟨rows, reached, computed⟩
  rw [summarize_def]
  exact succeeds_bind _ _ (succeeds_limited _ (send_succeeds patterns collection _ out ran))
    fun found _ => succeeds_pure _

variable (skip take : Option UInt64) (whole : recipe.paging = [])

include whole in
theorem page_entries (level : RecipeLevel) (scope : Pipeline) (entries : List Document)
    (ran : collection.run patterns (recipe.levelStages level scope) = .ok entries) :
    ∃ shown, collection.run patterns ((recipe.paged skip take).levelStages level scope) = .ok shown ∧
      shown.Sublist entries := by
  rw [Recipe.levelStages, whole, ite_self, List.append_nil] at ran
  by_cases top : level.key.level = 0
  · refine ⟨Paging.page skip take entries, ?_, Paging.page_sublist skip take entries⟩
    rw [Recipe.levelStages, if_pos top]
    exact (Pipeline.run_append_ok _ _ _ _ _).mpr ⟨entries, ran, Paging.run_stages _ _ _ _⟩
  · refine ⟨entries, ?_, List.Sublist.refl entries⟩
    rw [Recipe.levelStages, if_neg top, List.append_nil]
    exact ran

variable (summaries : List Summary) (cleaner : RowCleaner)

/-- The keys of a group are the key of its entry and those of the groups below it. -/
theorem returns_keys (store : Store) (level : RecipeLevel) (deeper : List RecipeLevel)
    (scope : Pipeline) (entry : Document) (group : Group)
    (returned : Returns (entryGroup store recipe summaries cleaner level deeper scope entry) group) :
    entryKey entry ∈ Group.keys group ∧
      ∃ own, Returns (content level cleaner entry (loadGroups store recipe summaries cleaner deeper
        (Recipe.keyScope level scope (entryKey entry)))) own ∧ Group.keys own = Group.keys group := by
  obtain ⟨own, first, later⟩ := returns_bind _ _ _ returned
  have same : Group.keys own = Group.keys group := by
    rcases returns_summarized recipe _ _ _ _ _ later with rfl | ⟨summary, rfl⟩
    · rfl
    · rw [Group.keys_withSummary]
  refine ⟨?_, own, first, same⟩
  obtain ⟨before, after, ran⟩ := first
  rw [← same, ← (content_own cleaner level entry before after _ own ran).1]
  exact Group.key_mem_keys own

/-- A group that had its content once has it again, where the groups below it are loaded. -/
theorem content_succeeds (level : RecipeLevel) (entry : Document) (below again : Load (List Group))
    (own : Group) (first : Returns (content level cleaner entry below) own)
    (nested : ∀ children, Returns below children →
      own = Group.ofGroups (entryKey entry) children → Succeeds again) :
    Succeeds (content level cleaner entry again) := by
  unfold content at first ⊢
  split at first
  · rename_i last
    rw [if_pos last, returns_give _ _ first]
    exact succeeds_pure own
  · rename_i deeper
    rw [if_neg deeper]
    obtain ⟨children, loaded, same⟩ := returns_map _ _ _ first
    exact succeeds_map _ _ (nested children loaded same.symm)

theorem summarized_succeeds (scope : Pipeline) (rows : List Document) (group : Group)
    (reached : collection.run patterns (recipe.filtered ++ scope) = .ok rows) :
    Succeeds (summarized (collection.store patterns) recipe summaries scope group) := by
  unfold summarized
  split
  · exact succeeds_pure group
  · exact succeeds_bind _ _ (summarize_succeeds patterns collection recipe scope summaries rows reached)
      fun summary _ => succeeds_pure _

theorem loadTotalSummary_succeeds (request : Request) (totalCount : Option Nat) (rows : List Document)
    (filtered : collection.run patterns recipe.filtered = .ok rows) :
    Succeeds (loadTotalSummary (collection.store patterns) recipe request totalCount) := by
  rw [loadTotalSummary_def]
  split
  · refine summarize_succeeds patterns collection recipe [] _ rows ?_
    rwa [List.append_nil]
  · exact succeeds_pure _

include compiled whole in
/-- Where all groups of some levels are loaded, those of a page are. -/
theorem loadGroups_succeeds (levels : List RecipeLevel) (scope : Pipeline) (rows : List Document)
    (groups : List Group) (rowwise : Pipeline.Rowwise scope)
    (within : collection.run patterns (recipe.filtered ++ recipe.sort ++ scope) = .ok rows)
    (returned : Returns (loadGroups (collection.store patterns) recipe summaries cleaner levels scope)
      groups)
    (plain : ∀ key ∈ Group.keysOf groups, Predicate.isOperators key = false) :
    Succeeds (loadGroups (collection.store patterns) (recipe.paged skip take) summaries cleaner levels
      scope) := by
  induction levels generalizing scope rows groups with
  | nil =>
      rw [loadGroups_nil]
      exact succeeds_pure []
  | cons level deeper ih =>
      rw [loadGroups_cons] at returned
      obtain ⟨entries, sent, mapped⟩ := returns_bind _ _ _ returned
      have ran := returns_send patterns collection _ entries sent
      obtain ⟨extended, _, computed, _⟩ := levelStages_ok patterns collection recipe level scope rows
        within entries ran
      obtain ⟨shown, pageRan, among⟩ := page_entries patterns collection recipe skip take whole level
        scope entries ran
      rw [loadGroups_cons]
      refine succeeds_bind _ _ (send_succeeds patterns collection _ shown pageRan) ?_
      intro others again
      obtain rfl := Except.ok.inj (pageRan.symm.trans (returns_send patterns collection _ others again))
      refine succeeds_mapM _ _ fun entry member => ?_
      -- the whole call has made a group of every entry that the page shows
      obtain ⟨group, inGroups, made⟩ :=
        exists_right (returns_mapM _ _ _ mapped) entry (among.subset member)
      obtain ⟨keyed, own, first, sameKeys⟩ := returns_keys recipe summaries cleaner _ level deeper scope
        entry group made
      have inner (key : Value) (found : key ∈ Group.keys group) : Predicate.isOperators key = false :=
        plain key (Group.keysOf_mem groups group inGroups key found)
      have narrowed := Recipe.keyScope_rowwise level scope (entryKey entry) rowwise
      have reached := keyScope_ok patterns collection _ level scope rows extended (entryKey entry)
        within computed (inner _ keyed)
      obtain ⟨others, unsorted, _⟩ :=
        unsorted_ok patterns collection recipe sort compiled _ _ narrowed reached
      refine succeeds_bind _ _ ?_ fun group _ => summarized_succeeds patterns collection
        (recipe.paged skip take) summaries _ others group unsorted
      refine content_succeeds cleaner level entry _ _ own first ?_
      rintro children below rfl
      refine ih _ _ children narrowed reached below ?_
      intro key found
      exact inner key (sameKeys ▸ List.mem_cons_of_mem _ found)

end Again

/-- A call succeeds where its data and its counts do: what it sums up then are rows that it filters
for. -/
theorem parts_succeed (patterns : PatternCompiler) (collection : Collection) (request : Request)
    (options : Options) (rows : List Document)
    (filtered : collection.run patterns (Recipe.ofRequest request options).filtered = .ok rows)
    (data : Succeeds (loadData (collection.store patterns) (.ofRequest request options) request options))
    (groupCount : Succeeds (loadGroupCount (collection.store patterns) (.ofRequest request options)
      request))
    (totalCount : Succeeds (loadTotalCount (collection.store patterns) (.ofRequest request options)
      request)) :
    ∃ result, (LoadResult.ofRequest (collection.store patterns) request options).1 = .ok result := by
  apply load_succeeds
  rw [load_def]
  exact succeeds_bind _ _ data fun _ _ => succeeds_bind _ _ groupCount fun _ _ =>
    succeeds_bind _ _ totalCount fun total _ => succeeds_bind _ _
      (loadTotalSummary_succeeds patterns collection _ request total rows filtered) fun _ _ =>
        succeeds_pure _

end Load

namespace LoadResult

variable (patterns : PatternCompiler) (collection : Collection) (request : Request)
  (options : Options)

theorem groupCountStages_cons (level : GroupLevel) (deeper : List GroupLevel)
    (levels : request.group = level :: deeper) :
    (Recipe.ofRequest request options).groupCountStages? =
      some ((Recipe.ofRequest request options).before ++
        (Recipe.ofRequest request options).filtering.keyCountStages (level.keyAt options 0)) := by
  simp only [Recipe.groupCountStages?, Recipe.ofRequest, levels]
  rfl

theorem page_length (grouped : request.group ≠ []) (counted : request.groupCount = true)
    (page : LoadResult)
    (loaded : (ofRequest (collection.store patterns) request options).1 = .ok page) :
    ∃ groups number, page.data = .groups groups ∧ page.groupCount = some number ∧
      groups.length = Paging.shown request.skip request.take number := by
  obtain ⟨level, deeper, levels⟩ := List.exists_cons_of_ne_nil grouped
  obtain ⟨groups, sorted, isGroups, within, returned⟩ :=
    grouped_returns patterns collection request options level deeper levels page loaded
  obtain ⟨_, groupCount, _⟩ := Load.returns_load _ _ _ _ loaded
  rw [Load.loadGroupCount_eq _ _ _ _ (groupCountStages_cons request options level deeper levels),
    counted] at groupCount
  obtain ⟨number, isNumber, answered⟩ := Load.returns_asked _ _ _ _ groupCount
  obtain ⟨rows, extended, keys, filtered, computed, classes, rfl⟩ :=
    Load.groupCount_classes patterns collection _ _ number answered
  obtain ⟨extended', keys', _, computed', siblings, _, each⟩ := Load.returns_level patterns collection
    _ _ request.skip request.take rfl _ _ _ [] sorted groups within returned
  rw [List.append_nil] at within
  have order := Load.sorted_perm patterns collection _ request.sort rfl rows sorted filtered within
  obtain ⟨reordered, again, same⟩ := mapM_perm _ sorted rows extended' order computed'
  obtain rfl := Except.ok.inj (computed.symm.trans again)
  have shown : (Paging.page request.skip request.take keys').length = groups.length := each.length_eq
  refine ⟨groups, keys.length, isGroups, isNumber, ?_⟩
  rw [← shown, Paging.length_page, siblings.toClasses.length_eq classes fun row => same.mem_iff]

/-- The deepest groups of a whole call count the rows that the total count tells of. -/
theorem whole_sizesAt (grouped : request.group ≠ []) (counted : request.totalCount = true)
    (start : request.skip = none) (stop : request.take = none) (whole : LoadResult)
    (groups : List Group)
    (loaded : (ofRequest (collection.store patterns) request options).1 = .ok whole)
    (isGroups : whole.data = .groups groups)
    (plain : ∀ key ∈ Group.innerKeysOf groups, Predicate.isOperators key = false) :
    whole.totalCount = some (Group.sizesAt (request.group.length - 1) groups) := by
  obtain ⟨level, deeper, levels⟩ := List.exists_cons_of_ne_nil grouped
  obtain ⟨others, sorted, isOthers, within, returned⟩ :=
    grouped_returns patterns collection request options level deeper levels whole loaded
  obtain rfl := LoadData.groups.inj (isOthers.symm.trans isGroups)
  obtain ⟨_, _, totalCount⟩ := Load.returns_load _ _ _ _ loaded
  have needed : request.needsTotalCount = true := by simp [Request.needsTotalCount, counted]
  rw [Load.loadTotalCount_eq, needed] at totalCount
  obtain ⟨number, isNumber, answered⟩ := Load.returns_asked _ _ _ _ totalCount
  obtain ⟨rows, filtered, rfl⟩ := Load.totalCount_rows patterns collection _ number answered
  obtain ⟨extended, keys, computed, siblings, each⟩ := Load.loadGroups_covers patterns collection _
    options _ request.skip request.take rfl _ level deeper 0 [] sorted others within returned plain
  rw [if_pos rfl, start, stop, Paging.page_none] at each
  rw [List.append_nil] at within
  -- the levels group the sorted rows, the count was taken of the unsorted ones
  have order := Load.sorted_perm patterns collection _ request.sort rfl rows sorted filtered within
  have leaves := each.imp fun key group covers =>
    Group.covers_sizeAt _ _ _ level deeper 0 extended key group covers
  rw [isNumber, levels, List.length_cons, Nat.add_sub_cancel,
    Group.sizesAt_classes _ _ extended keys others siblings.toClasses leaves,
    ← ((mapM_ok _ _ _).mp computed).length_eq, order.length_eq]

theorem page_loads (grouped : request.group ≠ []) (start : request.skip = none)
    (stop : request.take = none) (whole : LoadResult) (groups : List Group)
    (loaded : (ofRequest (collection.store patterns) request options).1 = .ok whole)
    (isGroups : whole.data = .groups groups)
    (plain : ∀ key ∈ Group.keysOf groups, Predicate.isOperators key = false)
    (skip take : Option UInt64) :
    ∃ page, (ofRequest (collection.store patterns) (request.paged skip take) options).1 = .ok page := by
  obtain ⟨level, deeper, levels⟩ := List.exists_cons_of_ne_nil grouped
  obtain ⟨others, sorted, isOthers, within, returned⟩ :=
    grouped_returns patterns collection request options level deeper levels whole loaded
  obtain rfl := LoadData.groups.inj (isOthers.symm.trans isGroups)
  obtain ⟨_, groupCount, totalCount⟩ := Load.returns_load _ _ _ _ loaded
  have unpaged : (Recipe.ofRequest request options).paging = [] := by
    change Paging.stages request.skip request.take = []
    rw [start, stop]
    rfl
  have anywhere : Pipeline.Rowwise [] := by simp [Pipeline.Rowwise]
  obtain ⟨rows, unsorted, _⟩ :=
    Load.unsorted_ok patterns collection _ request.sort rfl [] sorted anywhere
    within
  -- the groups of the page are groups of the whole call, whose scopes were answered
  have groupsAgain := Load.loadGroups_succeeds patterns collection _ request.sort rfl skip take unpaged
    _ _ _ [] sorted others anywhere within returned plain
  rw [Load.loadGroupCount_eq _ _ _ _ (groupCountStages_cons request options level deeper levels)]
    at groupCount
  rw [Load.loadTotalCount_eq] at totalCount
  rw [List.append_nil] at unsorted
  refine Load.parts_succeed patterns collection (request.paged skip take) options rows unsorted ?_ ?_
    (Load.loadTotalCount_eq _ _ _ ▸ Load.asked_again patterns collection _ _ _ _ totalCount)
  · have isGrouped : (request.paged skip take).isGrouped = true := by
      simp [Request.isGrouped, Request.paged, grouped]
    have compiled : (Recipe.ofRequest (request.paged skip take) options).levels =
      RecipeLevel.ofLevels options.offset 0 (level :: deeper) := levels ▸ rfl
    rw [Load.loadData_def, if_pos isGrouped, compiled]
    exact Load.succeeds_map _ _ groupsAgain
  · rw [Load.loadGroupCount_eq _ _ _ _
      (groupCountStages_cons (request.paged skip take) options level deeper levels)]
    exact Load.asked_again patterns collection _ _ _ _ groupCount

theorem page_counts (grouped : request.group ≠ []) (skip take : Option UInt64)
    (whole page : LoadResult)
    (loaded : (ofRequest (collection.store patterns) request options).1 = .ok whole)
    (cut : (ofRequest (collection.store patterns) (request.paged skip take) options).1 = .ok page) :
    page.groupCount = whole.groupCount ∧ page.totalCount = whole.totalCount := by
  obtain ⟨level, deeper, levels⟩ := List.exists_cons_of_ne_nil grouped
  obtain ⟨_, groupCount, totalCount⟩ := Load.returns_load _ _ _ _ loaded
  obtain ⟨_, groupCount', totalCount'⟩ := Load.returns_load _ _ _ _ cut
  rw [Load.loadGroupCount_eq _ _ _ _ (groupCountStages_cons request options level deeper levels)]
    at groupCount
  rw [Load.loadGroupCount_eq _ _ _ _
    (groupCountStages_cons (request.paged skip take) options level deeper levels)] at groupCount'
  rw [Load.loadTotalCount_eq] at totalCount totalCount'
  exact ⟨Load.asked_unique patterns collection _ _ _ _ _ groupCount' groupCount,
    Load.asked_unique patterns collection _ _ _ _ _ totalCount' totalCount⟩

/-- The two counts of a grouped call. A page shows as many groups as the group count lets it. What a
whole call counts are its top-level groups and the rows of its deepest groups, and each of its pages
counts the same. -/
theorem ofRequest_counts (grouped : request.group ≠ []) (groups : request.groupCount = true)
    (total : request.totalCount = true) :
    (∀ skip take page,
      (ofRequest (collection.store patterns) (request.paged skip take) options).1 = .ok page →
      ∃ items number, page.data = .groups items ∧ page.groupCount = some number ∧
        items.length = Paging.shown skip take number) ∧
    (∀ whole items,
      (ofRequest (collection.store patterns) (request.paged none none) options).1 = .ok whole →
      whole.data = .groups items →
      (∀ key ∈ Group.keysOf items, Predicate.isOperators key = false) →
      whole.groupCount = some items.length ∧
      whole.totalCount = some (Group.sizesAt (request.group.length - 1) items) ∧
      ∀ skip take, ∃ page,
        (ofRequest (collection.store patterns) (request.paged skip take) options).1 = .ok page ∧
        page.groupCount = whole.groupCount ∧ page.totalCount = whole.totalCount) := by
  refine ⟨fun skip take page => page_length patterns collection (request.paged skip take) options
    grouped groups page, ?_⟩
  intro whole items loaded isGroups plain
  refine ⟨?_, ?_, ?_⟩
  · obtain ⟨others, number, isOthers, isNumber, shown⟩ := page_length patterns collection
      (request.paged none none) options grouped groups whole loaded
    obtain rfl := LoadData.groups.inj (isOthers.symm.trans isGroups)
    rw [isNumber, shown]
    rfl
  · exact whole_sizesAt patterns collection (request.paged none none) options grouped total rfl rfl
      whole items loaded isGroups fun key inner => plain key (Group.innerKeysOf_subset items key inner)
  · intro skip take
    obtain ⟨page, cut⟩ := page_loads patterns collection (request.paged none none) options grouped rfl
      rfl whole items loaded isGroups plain skip take
    exact ⟨page, cut, page_counts patterns collection (request.paged none none) options grouped skip
      take whole page loaded cut⟩

/-- Visits by city, some of them without a device. -/
def visits : Collection :=
  .ofDocuments
    [[("city", .string "Oslo"), ("device", .string "phone")],
      [("city", .string "Rome"), ("device", .null)],
      [("city", .string "Oslo")],
      [("city", .string "Bern"), ("device", .string "tablet")],
      [("device", .string "phone"), ("city", .string "Oslo")]]

def visitsByCity : Request :=
  { sort := [⟨"device", false⟩]
    group := [{ selector := "city" }, { selector := "device", descending := true, expanded := true }]
    totalCount := true
    groupCount := true }

theorem ofRequest_counts_visits :
    ∃ whole page items,
      (ofRequest (visits.store Pattern.compile) (visitsByCity.paged none none) {}).1 = .ok whole ∧
      whole.groupCount = some 3 ∧ whole.totalCount = some 5 ∧
      (ofRequest (visits.store Pattern.compile) (visitsByCity.paged (some 1) (some 7)) {}).1 = .ok page ∧
      page.groupCount = some 3 ∧ page.totalCount = some 5 ∧
      page.data = .groups items ∧ items.length = 2 := by
  have answer : ((ofRequest (visits.store Pattern.compile)
      (visitsByCity.paged none none) {}).1.toOption.map fun result =>
        ((Group.keysOf result.groups).all (fun key => !Predicate.isOperators key),
          result.groups.length, Group.sizesAt 1 result.groups)) = some (true, 3, 5) := by
    decide +kernel
  obtain ⟨pages, counts⟩ := ofRequest_counts Pattern.compile visits visitsByCity {} (by decide) rfl rfl
  cases loaded : (ofRequest (visits.store Pattern.compile) (visitsByCity.paged none none) {}).1 with
  | error fault =>
      rw [loaded] at answer
      exact absurd answer.symm (Option.some_ne_none _)
  | ok whole =>
      obtain ⟨all, _, isGroups, _, _⟩ := pages none none whole loaded
      obtain ⟨data, groupCount, totalCount, summary⟩ := whole
      obtain rfl : data = .groups all := isGroups
      rw [loaded] at answer
      obtain ⟨plain, three, five⟩ : (∀ key ∈ Group.keysOf all, Predicate.isOperators key = false) ∧
          all.length = 3 ∧ Group.sizesAt 1 all = 5 := by
        simpa [LoadResult.groups] using Option.some.inj answer
      obtain ⟨first, second, cut⟩ := counts _ all loaded rfl plain
      rw [three] at first
      rw [show Group.sizesAt (visitsByCity.group.length - 1) all = 5 from five] at second
      obtain ⟨page, paged, sameGroups, sameTotal⟩ := cut (some 1) (some 7)
      rw [first] at sameGroups
      rw [second] at sameTotal
      obtain ⟨items, number, isItems, isNumber, shown⟩ := pages (some 1) (some 7) page paged
      obtain rfl := Option.some.inj (isNumber.symm.trans sameGroups)
      exact ⟨_, page, items, rfl, first, second, paged, sameGroups, sameTotal, isItems, shown⟩

end LoadResult

end DataGrid
