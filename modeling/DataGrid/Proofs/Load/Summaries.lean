import DataGrid.Proofs.Load.Gathering
import DataGrid.Proofs.Load.Opening
import DataGrid.Proofs.Load.Pages
/-!
What the summaries of a call tell. The summary of a group is computed over a scope, whose documents
carry the keys that were computed on the way. They show the stored values of the rows that have the
keys of the group and of all groups above it, in their stored order, so every value of a summary is
the fold of its kind over these rows, as if nothing else had been asked for.
-/
namespace DataGrid

open Result

namespace Expression

/-- Paths that are neither kept for computed fields nor spelled like the whole document. -/
def Stored (path : String) : Prop := ¬ Path.Reserved path ∧ ¬ IsWhole path

instance (path : String) : Decidable (Stored path) := by
  unfold Stored
  infer_instance

end Expression

namespace Document

/-- A document that shows what a row has at every path to stored fields. -/
def Mirrors (row doc : Document) : Prop :=
  ∀ path, ¬ Path.Reserved path → (Value.object doc).get? path = (Value.object row).get? path

end Document

namespace GroupKey

/-- The stages of a level change no stored value, and give a document the key of its row. -/
theorem mirrors_extend (key : GroupKey) (stored : Expression.Stored key.selector)
    (row doc out : Document) (mirrors : row.Mirrors doc) (extended : key.extend doc = .ok out) :
    row.Mirrors out ∧ key.keyOf row = key.carried out := by
  have same : Expression.reference doc key.selector = Expression.reference row key.selector := by
    rw [Expression.reference_of_path doc _ stored.2, Expression.reference_of_path row _ stored.2,
      mirrors key.selector stored.1]
  refine ⟨fun path unreserved => ?_, key.keyOf_ok row _ (key.valueOf_same row doc out same extended)⟩
  obtain ⟨fields, computed, rfl⟩ := (key.extend_ok doc out).mp extended
  obtain ⟨added, _⟩ := key.fields_shape _ fields computed
  rw [Value.get?_putAll_reserved doc fields path (added ▸ key.names_reserved) unreserved,
    mirrors path unreserved]

theorem mirrors_members (key : GroupKey) (stored : Expression.Stored key.selector)
    (rows docs extended : List Document) (mirrors : List.Forall₂ Document.Mirrors rows docs)
    (computed : docs.mapM key.extend = .ok extended) (value : Value) :
    List.Forall₂ Document.Mirrors (Grouping.members key.keyOf rows value)
      (Grouping.members key.carried extended value) := by
  have each : List.Forall₂ (fun row out => row.Mirrors out ∧ key.keyOf row = key.carried out)
      rows extended :=
    forall₂_comp mirrors ((mapM_ok _ _ _).mp computed)
      fun row doc out one more => key.mirrors_extend stored row doc out one more
  exact (Grouping.members_forall₂ _ rows extended each (fun _ _ one => one.2) value).imp
    fun _ _ one => one.1

end GroupKey

namespace Summary

/-- The paths of summaries are paths to stored fields. -/
def AllStored (summaries : List Summary) : Prop :=
  ∀ summary ∈ summaries, ∀ path ∈ summary.selector, Expression.Stored path

instance (summaries : List Summary) : Decidable (AllStored summaries) := by
  unfold AllStored
  infer_instance

/-- A summary is taken over stored values, which mirrored documents show alike. -/
theorem aggregate?_mirrors (summary : Summary)
    (stored : ∀ path, summary.selector = some path → Expression.Stored path)
    (rows docs : List Document) (mirrors : List.Forall₂ Document.Mirrors rows docs) :
    summary.aggregate? docs = summary.aggregate? rows := by
  unfold aggregate?
  split
  · rfl
  · rw [mirrors.length_eq]
  · cases given : summary.selector with
    | none => rfl
    | some path =>
        have unreserved := (stored path given).1
        have values : docs.map (fun doc => ((Value.object doc).get? path).getD .null) =
            rows.map fun row => ((Value.object row).get? path).getD .null := by
          rw [← List.forall₂_eq_eq_eq, List.forall₂_map_left_iff, List.forall₂_map_right_iff]
          exact mirrors.flip.imp fun doc row one => by rw [one path unreserved]
        rw [Option.map_some, Option.map_some, values]

theorem aggregates_mirrors (summaries : List Summary) (stored : AllStored summaries)
    (rows docs : List Document) (mirrors : List.Forall₂ Document.Mirrors rows docs) :
    aggregates summaries docs = aggregates summaries rows :=
  List.map_congr_left fun summary member => by
    rw [aggregate?_mirrors summary (stored summary member) rows docs mirrors]

/-- A summary tells nothing where its kind is unknown, where it has no path to fold over, and where
its fold is null. -/
theorem aggregate?_null (summary : Summary) (rows : List Document) :
    (summary.aggregate? rows).getD .null = .null ↔
      SummaryKind.ofName? summary.kind = none ∨
        (SummaryKind.ofName? summary.kind ≠ some .number ∧ summary.selector = none) ∨
        summary.aggregate? rows = some .null := by
  unfold aggregate?
  cases SummaryKind.ofName? summary.kind with
  | none => simp
  | some kind => cases kind <;> cases summary.selector <;> simp

end Summary

namespace Group

/-- Every summary at a group and below it tells of the rows that have the keys of the group and of
all groups above it, in their order. -/
def Tells (options : Options) (summaries : List Summary) :
    (index : Nat) → List GroupLevel → List Document → Group → Prop
  | _, [], _, _ => False
  | index, level :: deeper, above, group =>
      let members := Grouping.members (level.keyAt options index).keyOf above group.key
      (∀ values, group.summary = some values → values = Summary.aggregates summaries members) ∧
        ∀ child ∈ group.groups?.getD [], Tells options summaries (index + 1) deeper members child

end Group

namespace Load

variable (patterns : PatternCompiler) (collection : Collection) (recipe : Recipe)

theorem summarize_tells (scope : Pipeline) (summaries : List Summary) (listed : summaries ≠ [])
    (stored : Summary.AllStored summaries) (docs : List Document)
    (reached : collection.run patterns (recipe.filtered ++ scope) = .ok docs) (values : List Value)
    (returned : Returns (summarize (collection.store patterns) recipe scope summaries) (some values)) :
    values = Summary.aggregates summaries docs := by
  obtain ⟨before, after, ran⟩ := returned
  rcases summarize_ok _ _ _ _ _ _ _ ran with ⟨_, nothing, _⟩ | ⟨_, out, _, sent, found, _⟩
  · contradiction
  · have computed : Pipeline.run patterns (Summary.stages summaries) docs = .ok out := by
      obtain ⟨middle, first, later⟩ := (Pipeline.run_append_ok _ _ _ _ _).mp sent
      rwa [Except.ok.inj (reached.symm.trans first)]
    by_cases filled : docs = []
    · -- without documents there is no group, and no summary of it
      rw [filled, Summary.run_stages_empty summaries patterns listed] at computed
      rw [← Except.ok.inj computed] at found
      contradiction
    · obtain ⟨doc, single, reads⟩ := Summary.run_stages_filled summaries patterns listed docs filled
      rw [← Except.ok.inj (single.symm.trans computed)] at found
      rw [← reads fun summary member path given => (stored summary member path given).2]
      exact Option.some.inj found

/-- A scope that can be reached with or without the sort, and without it shows some rows in their
order. -/
structure Shows (scope : Pipeline) (rows : List Document) : Prop where
  rowwise : Pipeline.Rowwise scope
  sorted : ∃ docs, collection.run patterns (recipe.filtered ++ recipe.sort ++ scope) = .ok docs
  stored : ∃ docs, collection.run patterns (recipe.filtered ++ scope) = .ok docs ∧
    List.Forall₂ Document.Mirrors rows docs

variable (sort : List SortKey) (compiled : recipe.sort = SortKey.stages sort)

include compiled in
theorem shows_keyScope (level : RecipeLevel) (selected : Expression.Stored level.key.selector)
    (scope : Pipeline) (rows sorted extended : List Document)
    (outer : Shows patterns collection recipe scope rows)
    (within : collection.run patterns (recipe.filtered ++ recipe.sort ++ scope) = .ok sorted)
    (computed : sorted.mapM level.key.extend = .ok extended) (key : Value)
    (plain : Predicate.isOperators key = false) :
    Shows patterns collection recipe (Recipe.keyScope level scope key)
      (Grouping.members level.key.keyOf rows key) := by
  obtain ⟨docs, reached, mirrors⟩ := outer.stored
  obtain ⟨others, unsorted, order⟩ :=
    unsorted_ok patterns collection recipe sort compiled scope sorted outer.rowwise within
  obtain rfl := Except.ok.inj (reached.symm.trans unsorted)
  -- the documents in their stored order are given the same keys as the sorted ones
  obtain ⟨extended', again, _⟩ := mapM_perm _ sorted docs extended order computed
  exact ⟨Recipe.keyScope_rowwise level scope key outer.rowwise,
    ⟨_, keyScope_ok patterns collection _ level scope sorted extended key within computed plain⟩,
    _, keyScope_ok patterns collection _ level scope docs extended' key reached again plain,
    level.key.mirrors_members selected rows docs extended' mirrors again key⟩

variable (options : Options) (cleaner : RowCleaner) (summaries : List Summary)
  (asked : Summary.AllStored summaries)
  (skip take : Option UInt64) (paging : recipe.paging = Paging.stages skip take)

include asked compiled paging in
/-- Down the levels, the scope of a group shows the rows of the group. -/
theorem loadGroups_tells (levels : List GroupLevel) (index : Nat) (scope : Pipeline)
    (rows : List Document) (groups : List Group)
    (stored : ∀ level ∈ levels, Expression.Stored level.selector)
    (outer : Shows patterns collection recipe scope rows)
    (returned : Returns (loadGroups (collection.store patterns) recipe summaries cleaner
      (RecipeLevel.ofLevels options.offset index levels) scope) groups)
    (plain : ∀ key ∈ Group.keysOf groups, Predicate.isOperators key = false) :
    ∀ group ∈ groups, Group.Tells options summaries index levels rows group := by
  induction levels generalizing index scope rows groups with
  | nil =>
      rw [RecipeLevel.ofLevels, loadGroups_nil] at returned
      rw [returns_pure _ _ returned]
      simp
  | cons level deeper ih =>
      obtain ⟨sorted, within⟩ := outer.sorted
      obtain ⟨extended, keys, _, computed, _, _, each⟩ := returns_level patterns collection recipe
        cleaner skip take paging summaries _ _ scope sorted groups within returned
      intro group member
      obtain ⟨key, _, before, after, ran⟩ := exists_left each group member
      obtain ⟨named, middle, content, summed⟩ := entryGroup_ok _ _ _ _ _ _ _ _ _ _ _ ran
      change group.key = key at named
      have inner := shows_keyScope patterns collection recipe sort compiled _
        (stored level List.mem_cons_self) scope rows sorted extended outer within computed key
        (plain key (Group.keysOf_mem groups group member key (named ▸ Group.key_mem_keys group)))
      obtain ⟨docs, reached, mirrors⟩ := inner.stored
      -- its summary is taken over the scope of its key, in which also the groups below it lie
      rw [Group.Tells, named]
      refine ⟨fun values shown => ?_, fun child inChildren => ?_⟩
      · rcases summed with ⟨_, bare, _⟩ | ⟨listed, sent⟩
        · rw [bare] at shown
          contradiction
        · rw [shown] at sent
          rw [summarize_tells patterns collection recipe _ summaries listed asked docs reached values
            ⟨_, _, sent⟩]
          exact Summary.aggregates_mirrors summaries asked _ _ mirrors
      · rcases content with ⟨_, _, alone, _⟩ | ⟨_, children, loaded, below, _⟩
        · simp [alone] at inChildren
        · rw [below] at inChildren
          refine ih (index + 1) _ _ children
            (fun other later => stored other (List.mem_cons_of_mem level later)) inner
            ⟨_, _, loaded⟩ ?_ child inChildren
          intro other found
          exact plain other (Group.keysOf_mem groups group member other
            (group.keys_of_groups? children below ▸ List.mem_cons_of_mem _ found))

/-- A pipeline that has an answer has one as far as its opening goes. -/
theorem run_opening (opening pipeline : Pipeline) (opened : opening <+: pipeline)
    (out : List Document) (ran : collection.run patterns pipeline = .ok out) :
    ∃ docs, collection.run patterns opening = .ok docs := by
  obtain ⟨rest, rfl⟩ := opened
  obtain ⟨docs, first, _⟩ := (Pipeline.run_append_ok _ _ _ _ _).mp ran
  exact ⟨docs, first⟩

end Load

namespace LoadResult

section Telling

variable (patterns : PatternCompiler) (collection : Collection) (request : Request)
  (options : Options) (result : LoadResult)
  (loaded : (ofRequest (collection.store patterns) request options).1 = .ok result)
include loaded

/-- The groups of an answer tell of the rows that the request filters for. -/
theorem groups_tell (levels : ∀ level ∈ request.group, Expression.Stored level.selector)
    (asked : Summary.AllStored request.groupSummary)
    (plain : ∀ key ∈ Group.keysOf result.groups, Predicate.isOperators key = false) :
    ∃ rows, collection.run patterns (Recipe.ofRequest request options).filtered = .ok rows ∧
      ∀ group ∈ result.groups, Group.Tells options request.groupSummary 0 request.group rows group := by
  cases given : request.group with
  | nil =>
      -- a flat call has rows and no groups to tell of them
      have flat : request.isGrouped = false := by simp [Request.isGrouped, given]
      obtain ⟨data, _, _⟩ := Load.returns_load _ _ _ _ loaded
      rw [Load.loadData_def, flat, if_neg (by decide)] at data
      obtain ⟨docs, sent, isRows⟩ := Load.returns_map _ _ _ data
      obtain ⟨rows, filtered⟩ := Load.run_opening patterns collection _ _
        (Recipe.flatStages_opened _) docs (Load.returns_send patterns collection _ docs sent)
      refine ⟨rows, filtered, ?_⟩
      rw [LoadResult.groups, ← isRows]
      simp
  | cons level deeper =>
      obtain ⟨groups, sorted, isGroups, within, returned⟩ :=
        grouped_returns patterns collection request options level deeper given result loaded
      have anywhere : Pipeline.Rowwise [] := by simp [Pipeline.Rowwise]
      obtain ⟨rows, reached, _⟩ := Load.unsorted_ok patterns collection _ request.sort rfl [] sorted
        anywhere within
      have same : result.groups = groups := by rw [LoadResult.groups, isGroups]
      rw [same] at plain ⊢
      have whole : Load.Shows patterns collection (.ofRequest request options) [] rows :=
        ⟨anywhere, ⟨sorted, within⟩, rows, reached, List.forall₂_same.mpr fun row _ path _ => rfl⟩
      have told := Load.loadGroups_tells patterns collection _ request.sort rfl options _ _ asked
        request.skip request.take rfl _ 0 [] rows groups (given ▸ levels) whole returned plain
      rw [List.append_nil] at reached
      exact ⟨rows, reached, told⟩

theorem summary_tells (asked : Summary.AllStored request.totalSummary) (rows : List Document)
    (filtered : collection.run patterns (Recipe.ofRequest request options).filtered = .ok rows)
    (values : List Value) (summed : result.summary = some values) :
    values = Summary.aggregates request.totalSummary rows := by
  have returned := Load.returns_summary _ _ _ _ loaded
  rw [summed] at returned
  rw [Load.loadTotalSummary_def] at returned
  split at returned
  · rename_i wanted
    have listed : request.totalSummary ≠ [] := by
      intro none
      simp [none] at wanted
    rw [← List.append_nil (Recipe.filtered _)] at filtered
    exact Load.summarize_tells patterns collection _ [] _ listed asked rows filtered values returned
  · have nothing := Load.returns_pure _ _ returned
    contradiction

/-- The summaries of an answer. Each value at a group is taken over the rows that the request filters
for and that have the keys of the group and of all groups above it, and each value of the total
summary over all of these rows. A value is null only where nothing is asked for or the fold is null.
Two summaries share a name only if they ask for the same. -/
theorem ofRequest_summaries (levels : ∀ level ∈ request.group, Expression.Stored level.selector)
    (asked : Summary.AllStored (request.groupSummary ++ request.totalSummary))
    (plain : ∀ key ∈ Group.keysOf result.groups, Predicate.isOperators key = false) :
    (∃ rows, collection.run patterns (Recipe.ofRequest request options).filtered = .ok rows ∧
      (∀ group ∈ result.groups,
        Group.Tells options request.groupSummary 0 request.group rows group) ∧
      ∀ values, result.summary = some values →
        values = Summary.aggregates request.totalSummary rows) ∧
    (∀ (summary : Summary) rows, (summary.aggregate? rows).getD .null = .null ↔
      SummaryKind.ofName? summary.kind = none ∨
        (SummaryKind.ofName? summary.kind ≠ some .number ∧ summary.selector = none) ∨
        summary.aggregate? rows = some .null) ∧
    (∀ (first second : Summary) name, first.accumulatorName? = some name →
      second.accumulatorName? = some name →
      ∀ rows, first.aggregate? rows = second.aggregate? rows) := by
  refine ⟨?_, Summary.aggregate?_null, ?_⟩
  · obtain ⟨rows, filtered, told⟩ := groups_tell patterns collection request options result loaded
      levels (fun summary member => asked summary (List.mem_append_left _ member)) plain
    exact ⟨rows, filtered, told, summary_tells patterns collection request options result loaded
      (fun summary member => asked summary (List.mem_append_right _ member)) rows filtered⟩
  · intro first second name known knownToo
    obtain ⟨⟨_, spec⟩, found, rfl⟩ := Option.map_eq_some_iff.mp known
    obtain ⟨⟨_, spec'⟩, foundToo, rfl⟩ := Option.map_eq_some_iff.mp knownToo
    exact (Summary.accumulator_unique first second _ spec spec' found foundToo).2

end Telling

/-- Sales by city and by tens, with sums that are asked for twice, one of an unknown kind and one
without a path. -/
def salesSummed : Request :=
  { filter := some (.array [.string "amount", .string ">", .int 0])
    sort := [⟨"amount", true⟩]
    group := [{ selector := "city" }, { selector := "amount", interval := some (.width 10) }]
    groupSummary := [⟨"sum", some "amount"⟩, ⟨"median", some "amount"⟩, ⟨"count", none⟩,
      ⟨"avg", none⟩, ⟨"max", some "city"⟩, ⟨"sum", some "amount"⟩]
    totalSummary := [⟨"min", some "amount"⟩, ⟨"count", some "city"⟩] }

theorem ofRequest_summaries_sales :
    ∃ result rows,
      (ofRequest (sales.store Pattern.compile) salesSummed {}).1 = .ok result ∧
      sales.run Pattern.compile (Recipe.ofRequest salesSummed {}).filtered = .ok rows ∧
      (∀ group ∈ result.groups,
        Group.Tells {} salesSummed.groupSummary 0 salesSummed.group rows group) ∧
      result.groups.map Group.summary =
        [some [.int 34, .null, .int 3, .null, .string "Oslo", .int 34],
          some [.int 31, .null, .int 1, .null, .string "Rome", .int 31]] ∧
      result.summary = some [.int 4, .int 4] ∧
      Summary.aggregates salesSummed.totalSummary rows = [.int 4, .int 4] := by
  have answer : ((ofRequest (sales.store Pattern.compile) salesSummed {}).1.toOption.map
      fun result => ((Group.keysOf result.groups).all (fun key => !Predicate.isOperators key),
        result.groups.map Group.summary, result.summary)) =
      some (true, [some [.int 34, .null, .int 3, .null, .string "Oslo", .int 34],
        some [.int 31, .null, .int 1, .null, .string "Rome", .int 31]],
        some [.int 4, .int 4]) := by
    decide +kernel
  obtain ⟨result, loaded, shown⟩ := (toOption_map_ok _ _ _).mp answer
  obtain ⟨none, values⟩ := Prod.mk.inj shown
  obtain ⟨inGroups, inTotal⟩ := Prod.mk.inj values
  have plain : ∀ key ∈ Group.keysOf result.groups, Predicate.isOperators key = false := by
    simpa using none
  obtain ⟨⟨rows, filtered, told, total⟩, _⟩ := ofRequest_summaries Pattern.compile sales salesSummed
    {} result loaded (by decide) (by decide) plain
  exact ⟨result, rows, loaded, filtered, told, inGroups, inTotal, (total _ inTotal).symm⟩

end LoadResult

end DataGrid
