import DataGrid.Collection
import DataGrid.Proofs.Group.Shape
import DataGrid.Proofs.Load.Levels
import DataGrid.Proofs.Request.Paging
/-!
The tree of groups that a call loads from a collection. Under every group the rows of its scope are
those that reached it, with the fields computed on the way; the groups below are the classes of these
rows under equality of the next key, in the order of the keys. The scope of a group is rebuilt from
its key, so a group that holds groups needs a key that a match does not read as operators.
-/
namespace DataGrid

open Result

namespace Grouping

/-- The keys of sibling groups: one for each class of the rows, in their order. -/
structure Siblings {α : Type} (keyOf : α → Value) (descending : Bool) (rows : List α)
    (keys : List Value) : Prop extends Classes keyOf rows keys where
  ordered : keys.Pairwise (GroupShape.Precedes descending)

end Grouping

namespace GroupLevel

/-- The key of a level, counted from 0 at the top. -/
def keyAt (level : GroupLevel) (options : Options) (index : Nat) : GroupKey :=
  .ofInterval level.selector level.interval index options.offset

end GroupLevel

namespace Group

mutual

/-- The keys of the groups that hold groups. -/
def innerKeys : Group → List Value
  | .groups key _ items _ => key :: innerKeysOf items
  | .leaf _ _ _ | .rows _ _ _ _ => []

def innerKeysOf : List Group → List Value
  | [] => []
  | group :: rest => innerKeys group ++ innerKeysOf rest

end

theorem innerKeysOf_mem (groups : List Group) (group : Group) (member : group ∈ groups) :
    ∀ key ∈ innerKeys group, key ∈ innerKeysOf groups := by
  induction groups with
  | nil => simp at member
  | cons first rest ih =>
      intro key inner
      rw [innerKeysOf, List.mem_append]
      rcases List.mem_cons.mp member with rfl | later
      · exact Or.inl inner
      · exact Or.inr (ih later key inner)

/-- A row of an expanded group, as it was collected and cleaned. -/
def Shows (shape : GroupShape) (cleaner : RowCleaner) (doc row : Document) : Prop :=
  ∃ item, Expression.evaluate (.object doc) shape.collected = .ok item ∧
    cleaner.cleanItem item = .ok row

/-- What the group of a key holds of the rows of its parent's scope, which carry their keys. -/
def Covers (recipe : Recipe) (options : Options) (cleaner : RowCleaner) :
    (index : Nat) → List GroupLevel → List Document → Value → Group → Prop
  | _, [], _, _, _ => False
  | index, level :: deeper, extended, key, group =>
      let members := Grouping.members (level.keyAt options index).carried extended key
      match deeper with
      | [] =>
          if level.expanded then
            ∃ rows summary, group = .rows key members.length rows summary ∧
              List.Forall₂ (Shows ⟨level.descending, true, true, recipe.rowForm⟩ cleaner) members rows
          else ∃ summary, group = .leaf key members.length summary
      | next :: _ =>
          ∃ inner keys children summary,
            members.mapM (next.keyAt options (index + 1)).extend = .ok inner ∧
            Grouping.Siblings (next.keyAt options (index + 1)).carried next.descending inner keys ∧
            List.Forall₂ (Covers recipe options cleaner (index + 1) deeper inner) keys children ∧
            group = .groups key children.length children summary

theorem innerKeys_withSummary (group : Group) (summary : Option (List Value)) :
    innerKeys (group.withSummary summary) = innerKeys group := by
  cases group <;> rfl

/-- A summary plays no part in what a group covers. -/
theorem covers_withSummary (recipe : Recipe) (options : Options) (cleaner : RowCleaner)
    (index : Nat) (levels : List GroupLevel) (extended : List Document) (key : Value)
    (group : Group) (summary : Option (List Value))
    (covers : Covers recipe options cleaner index levels extended key group) :
    Covers recipe options cleaner index levels extended key (group.withSummary summary) := by
  match levels with
  | [] => exact covers
  | [level] =>
      unfold Covers at covers ⊢
      dsimp only at covers ⊢
      split
      · rename_i expanded
        rw [if_pos expanded] at covers
        obtain ⟨rows, _, rfl, shown⟩ := covers
        exact ⟨rows, summary, rfl, shown⟩
      · rename_i counted
        rw [if_neg counted] at covers
        obtain ⟨_, rfl⟩ := covers
        exact ⟨summary, rfl⟩
  | level :: next :: deeper =>
      unfold Covers at covers ⊢
      obtain ⟨inner, keys, children, _, computed, siblings, each, rfl⟩ := covers
      exact ⟨inner, keys, children, summary, computed, siblings, each, rfl⟩

end Group

namespace Load

variable (patterns : PatternCompiler) (collection : Collection)

theorem returns_send (pipeline : Pipeline) (docs : List Document)
    (returned : Returns (send (collection.store patterns) pipeline) docs) :
    collection.run patterns pipeline = .ok docs := by
  obtain ⟨before, after, ran⟩ := returned
  rw [run_send] at ran
  have answer := (Prod.mk.inj ran).1
  cases found : collection.run patterns pipeline with
  | error fault => simp [Collection.store, found, Except.mapError] at answer
  | ok result =>
      simp only [Collection.store, found, Except.mapError] at answer
      rw [Except.ok.inj answer]

theorem send_succeeds (pipeline : Pipeline) (docs : List Document)
    (ran : collection.run patterns pipeline = .ok docs) :
    Succeeds (send (collection.store patterns) pipeline) := by
  intro before
  refine ⟨docs, { before with sent := before.sent ++ [pipeline] }, ?_⟩
  rw [run_send]
  simp only [Collection.store, ran, Except.mapError]

/-- Where a level has entries, its scope has rows. -/
theorem levelStages_within (recipe : Recipe) (level : RecipeLevel) (scope : Pipeline)
    (entries : List Document)
    (ran : collection.run patterns (recipe.levelStages level scope) = .ok entries) :
    ∃ rows, collection.run patterns (recipe.filtered ++ recipe.sort ++ scope) = .ok rows := by
  rw [Recipe.levelStages, Collection.run, Pipeline.run_append_ok] at ran
  obtain ⟨_, first, _⟩ := ran
  obtain ⟨_, before, _⟩ := (Pipeline.run_append_ok _ _ _ _ _).mp first
  obtain ⟨rows, start, _⟩ := (Pipeline.run_append_ok _ _ _ _ _).mp before
  exact ⟨rows, start⟩

section Scope

variable (recipe : Recipe) (level : RecipeLevel) (scope : Pipeline) (rows : List Document)
  (within : collection.run patterns (recipe.filtered ++ recipe.sort ++ scope) = .ok rows)
include within

theorem levelStages_ok (entries : List Document)
    (ran : collection.run patterns (recipe.levelStages level scope) = .ok entries) :
    ∃ extended all, rows.mapM level.key.extend = .ok extended ∧
      Pipeline.run patterns ((recipe.shape level).stages level.key) extended = .ok all ∧
      Pipeline.run patterns (if level.key.level = 0 then recipe.paging else []) all = .ok entries := by
  rw [Recipe.levelStages, Collection.run, Pipeline.run_append_ok] at ran
  obtain ⟨all, first, paged⟩ := ran
  obtain ⟨extended, before, shaped⟩ := (Pipeline.run_append_ok _ _ _ _ _).mp first
  obtain ⟨_, start, computed⟩ := (Pipeline.run_append_ok _ _ _ _ _).mp before
  obtain rfl := Except.ok.inj (within.symm.trans start)
  exact ⟨extended, all, (level.key.run_stages patterns rows extended).mp computed, shaped, paged⟩

end Scope

theorem keyScope_ok (opening : Pipeline) (level : RecipeLevel) (scope : Pipeline)
    (rows extended : List Document) (key : Value)
    (within : collection.run patterns (opening ++ scope) = .ok rows)
    (computed : rows.mapM level.key.extend = .ok extended)
    (plain : Predicate.isOperators key = false) :
    collection.run patterns (opening ++ Recipe.keyScope level scope key) =
      .ok (Grouping.members level.key.carried extended key) := by
  rw [Recipe.keyScope, ← List.append_assoc, ← List.append_assoc, Collection.run,
    Pipeline.run_append_ok]
  refine ⟨extended, (Pipeline.run_append_ok _ _ _ _ _).mpr ⟨rows, within, ?_⟩, ?_⟩
  · exact (level.key.run_stages patterns rows extended).mpr computed
  · rw [Pipeline.run_single]
    exact level.key.keyMatch_apply patterns extended key plain

section Groups

variable (recipe : Recipe) (options : Options) (cleaner : RowCleaner)

theorem returns_give (result : Except LoadError Group) (group : Group)
    (returned : Returns (give result) group) : result = .ok group := by
  obtain ⟨before, after, ran⟩ := returned
  exact (Prod.mk.inj ran).1

theorem returns_summarized (store : Store) (summaries : List Summary) (inner : Pipeline)
    (group result : Group) (returned : Returns (summarized store recipe summaries inner group) result) :
    result = group ∨ ∃ summary, result = group.withSummary summary := by
  obtain ⟨before, after, ran⟩ := returned
  rcases summarized_ok _ _ _ _ _ _ _ _ ran with ⟨_, same, _⟩ | ⟨_, found, _, same⟩
  · exact Or.inl same
  · exact Or.inr ⟨found, same⟩

theorem covers_summarized (store : Store) (summaries : List Summary) (inner : Pipeline) (index : Nat)
    (levels : List GroupLevel) (extended : List Document) (key : Value) (group result : Group)
    (covers : Group.Covers recipe options cleaner index levels extended key group)
    (returned : Returns (summarized store recipe summaries inner group) result) :
    Group.Covers recipe options cleaner index levels extended key result := by
  rcases returns_summarized recipe store summaries inner group result returned with rfl | ⟨_, rfl⟩
  · exact covers
  · exact Group.covers_withSummary _ _ _ _ _ _ _ _ _ covers

theorem ownGroup_counted (level : RecipeLevel) (shape : GroupShape) (key items : Value)
    (size : Nat) (group : Group) (plain : level.withItems = false)
    (counted : shape.countedElsewhere = false)
    (read : ownGroup level cleaner key (shape.entry key
      (Accumulator.total (List.replicate size (.int 1))).value items) = .ok group) :
    group = .counted key size := by
  rcases ownGroup_ok cleaner level _ key group read with
    ⟨expanded, _⟩ | ⟨_, number, stored, rfl⟩
  · rw [plain] at expanded
    contradiction
  · rw [shape.entry_count _ _ _ counted, Option.bind_some] at stored
    rw [Accumulator.total_ones size number stored]

theorem ownGroup_rows (level : RecipeLevel) (shape : GroupShape) (key count : Value)
    (items : List Value) (group : Group) (expanded : level.withItems = true)
    (collected : shape.withItems = true)
    (read : ownGroup level cleaner key (shape.entry key count (.array items)) = .ok group) :
    ∃ rows, group = .ofRows key rows ∧
      List.Forall₂ (fun item row => cleaner.cleanItem item = .ok row) items rows := by
  rcases ownGroup_ok cleaner level _ key group read with
    ⟨_, stored, rows, found, cleaned, made⟩ | ⟨plain, _⟩
  · rw [shape.entry_items _ _ _ collected] at found
    obtain rfl := Option.some.inj found
    exact ⟨rows, made, (mapM_ok _ _ _).mp cleaned⟩
  · rw [expanded] at plain
    contradiction

variable (skip take : Option UInt64) (paging : recipe.paging = Paging.stages skip take)

include paging in
/-- The entries of a level stand for its keys, of which the top level shows a page. -/
theorem level_entries (level : RecipeLevel) (scope : Pipeline) (rows entries : List Document)
    (within : collection.run patterns (recipe.filtered ++ recipe.sort ++ scope) = .ok rows)
    (ran : collection.run patterns (recipe.levelStages level scope) = .ok entries) :
    ∃ (extended : List Document) (keys : List Value) (items : Value → List Value),
      rows.mapM level.key.extend = .ok extended ∧
      Grouping.Siblings level.key.carried level.descending extended keys ∧
      (level.withItems = true → ∀ key, List.Forall₂
        (fun doc item =>
          Expression.evaluate (.object doc) (recipe.shape level).collected = .ok item)
        (Grouping.members level.key.carried extended key) (items key)) ∧
      entries = (if level.key.level = 0 then Paging.page skip take keys else keys).map
        ((recipe.shape level).entryOf level.key extended items) := by
  obtain ⟨extended, all, computed, shaped, paged⟩ :=
    levelStages_ok patterns collection recipe level scope rows within entries ran
  obtain ⟨keys, items, classes, ordered, rfl, collected⟩ :=
    (recipe.shape level).stages_ok patterns level.key extended all shaped
  refine ⟨extended, keys, items, computed, ⟨classes, ordered⟩, collected, ?_⟩
  by_cases top : level.key.level = 0
  · rw [if_pos top, paging, Paging.run_stages] at paged
    rw [← Except.ok.inj paged, Paging.page_map, if_pos top]
  · rw [if_neg top] at paged
    rw [← Except.ok.inj paged, if_neg top]

include paging in
theorem returns_level (summaries : List Summary) (level : RecipeLevel) (deeper : List RecipeLevel)
    (scope : Pipeline) (rows : List Document) (groups : List Group)
    (within : collection.run patterns (recipe.filtered ++ recipe.sort ++ scope) = .ok rows)
    (returned : Returns (loadGroups (collection.store patterns) recipe summaries cleaner
      (level :: deeper) scope) groups) :
    ∃ (extended : List Document) (keys : List Value) (items : Value → List Value),
      rows.mapM level.key.extend = .ok extended ∧
      Grouping.Siblings level.key.carried level.descending extended keys ∧
      (level.withItems = true → ∀ key, List.Forall₂
        (fun doc item =>
          Expression.evaluate (.object doc) (recipe.shape level).collected = .ok item)
        (Grouping.members level.key.carried extended key) (items key)) ∧
      List.Forall₂ (fun key group => Returns
        (entryGroup (collection.store patterns) recipe summaries cleaner level deeper scope
          ((recipe.shape level).entryOf level.key extended items key)) group)
        (if level.key.level = 0 then Paging.page skip take keys else keys) groups := by
  rw [loadGroups_cons] at returned
  obtain ⟨entries, sent, mapped⟩ := returns_bind _ _ _ returned
  obtain ⟨extended, keys, items, computed, siblings, collected, rfl⟩ := level_entries patterns
    collection recipe skip take paging level scope rows entries within
      (returns_send patterns collection _ entries sent)
  refine ⟨extended, keys, items, computed, siblings, collected, ?_⟩
  have each := returns_mapM _ _ _ mapped
  rwa [List.forall₂_map_left_iff] at each

section Covering

variable (summaries : List Summary)

theorem returns_within (level : RecipeLevel) (deeper : List RecipeLevel) (scope : Pipeline)
    (groups : List Group)
    (returned : Returns (loadGroups (collection.store patterns) recipe summaries cleaner
      (level :: deeper) scope) groups) :
    ∃ rows, collection.run patterns (recipe.filtered ++ recipe.sort ++ scope) = .ok rows := by
  rw [loadGroups_cons] at returned
  obtain ⟨entries, sent, _⟩ := returns_bind _ _ _ returned
  exact levelStages_within patterns collection recipe level scope entries
    (returns_send patterns collection _ entries sent)

theorem covers_last (level : GroupLevel) (index : Nat) (extended : List Document) (key : Value)
    (items : Value → List Value) (group : Group) (below : Load (List Group))
    (collected : level.expanded = true → List.Forall₂
      (fun doc item => Expression.evaluate (.object doc)
        (GroupShape.collected ⟨level.descending, true, true, recipe.rowForm⟩) = .ok item)
      (Grouping.members (level.keyAt options index).carried extended key) (items key))
    (returned : Returns (content
      ⟨level.keyAt options index, level.descending, true, level.expanded⟩ cleaner
      (GroupShape.entryOf ⟨level.descending, level.expanded, level.expanded, recipe.rowForm⟩
        (level.keyAt options index) extended items key) below) group) :
    Group.Covers recipe options cleaner index [level] extended key group := by
  rw [content, if_pos rfl] at returned
  have read := returns_give _ _ returned
  unfold Group.Covers
  dsimp only
  cases given : level.expanded with
  | true =>
      rw [given] at read
      obtain ⟨rows, rfl, cleaned⟩ := ownGroup_rows cleaner _ _ _ _ (items key) group rfl rfl read
      have shown : List.Forall₂ (Group.Shows ⟨level.descending, true, true, recipe.rowForm⟩ cleaner)
          (Grouping.members (level.keyAt options index).carried extended key) rows :=
        forall₂_comp (collected given) cleaned
          fun _ item _ evaluated clean => ⟨item, evaluated, clean⟩
      rw [if_pos rfl, shown.length_eq]
      exact ⟨rows, none, rfl, shown⟩
  | false =>
      rw [given] at read
      rw [if_neg (by decide)]
      exact ⟨none, ownGroup_counted cleaner _ _ key _ _ group rfl rfl read⟩

include paging in
/-- The groups of the deepest level cover the rows of their scope. -/
theorem loadGroups_covers_last (level : GroupLevel) (index : Nat) (scope : Pipeline)
    (rows : List Document) (groups : List Group)
    (within : collection.run patterns (recipe.filtered ++ recipe.sort ++ scope) = .ok rows)
    (returned : Returns (loadGroups (collection.store patterns) recipe summaries cleaner
      (RecipeLevel.ofLevels options.offset index [level]) scope) groups) :
    ∃ extended keys, rows.mapM (level.keyAt options index).extend = .ok extended ∧
      Grouping.Siblings (level.keyAt options index).carried level.descending extended keys ∧
      List.Forall₂ (Group.Covers recipe options cleaner index [level] extended)
        (if index = 0 then Paging.page skip take keys else keys) groups := by
  obtain ⟨extended, keys, items, computed, siblings, collected, each⟩ :=
    returns_level patterns collection recipe cleaner skip take paging summaries _ _ scope rows
      groups within returned
  refine ⟨extended, keys, computed, siblings, each.imp fun key group made => ?_⟩
  obtain ⟨own, first, later⟩ := returns_bind _ _ _ made
  have covers := covers_last recipe options cleaner level index extended key items own _
    (fun given => collected given key) first
  exact covers_summarized _ _ _ _ _ _ _ _ _ _ _ _ covers later

include paging in
/-- The groups of a call cover the rows of their scope, level by level. -/
theorem loadGroups_covers (level : GroupLevel) (deeper : List GroupLevel) (index : Nat)
    (scope : Pipeline) (rows : List Document) (groups : List Group)
    (within : collection.run patterns (recipe.filtered ++ recipe.sort ++ scope) = .ok rows)
    (returned : Returns (loadGroups (collection.store patterns) recipe summaries cleaner
      (RecipeLevel.ofLevels options.offset index (level :: deeper)) scope) groups)
    (plain : ∀ key ∈ Group.innerKeysOf groups, Predicate.isOperators key = false) :
    ∃ extended keys, rows.mapM (level.keyAt options index).extend = .ok extended ∧
      Grouping.Siblings (level.keyAt options index).carried level.descending extended keys ∧
      List.Forall₂ (Group.Covers recipe options cleaner index (level :: deeper) extended)
        (if index = 0 then Paging.page skip take keys else keys) groups := by
  -- down the levels, the rows that the scope of a group leaves are those of its class
  induction deeper generalizing level index scope rows groups with
  | nil =>
      exact loadGroups_covers_last patterns collection recipe options cleaner skip take paging
        summaries level index scope rows groups within returned
  | cons next deeper ih =>
      obtain ⟨extended, keys, items, computed, siblings, _, each⟩ :=
        returns_level patterns collection recipe cleaner skip take paging summaries _ _ scope rows
          groups within returned
      refine ⟨extended, keys, computed, siblings, forall₂_imp_mem each ?_⟩
      intro key _ group member made
      obtain ⟨own, first, later⟩ := returns_bind _ _ _ made
      obtain ⟨children, below, rfl⟩ := returns_map _ _ _ first
      have inner : ∀ other ∈ key :: Group.innerKeysOf children,
          Predicate.isOperators other = false := by
        intro other found
        apply plain other
        apply Group.innerKeysOf_mem groups group member
        rcases returns_summarized recipe _ _ _ _ _ later with rfl | ⟨summary, rfl⟩
        · exact found
        · rw [Group.innerKeys_withSummary]
          exact found
      have reached := keyScope_ok patterns collection _ _ scope rows extended key within computed
        (inner key (by simp))
      obtain ⟨extended', keys', computed', siblings', each'⟩ := ih next (index + 1) _ _ children
        reached below fun other found => inner other (List.mem_cons_of_mem key found)
      rw [if_neg (Nat.succ_ne_zero index)] at each'
      have covers : Group.Covers recipe options cleaner index (level :: next :: deeper) extended key
          (Group.ofGroups key children) := by
        unfold Group.Covers
        exact ⟨extended', keys', children, none, computed', siblings', each', rfl⟩
      exact covers_summarized _ _ _ _ _ _ _ _ _ _ _ _ covers later

end Covering

end Groups

end Load

namespace LoadResult

/-- The groups of an answer; rows are none. -/
def groups (result : LoadResult) : List Group :=
  match result.data with
  | .groups groups => groups
  | .rows _ => []

theorem grouped_returns (patterns : PatternCompiler) (collection : Collection) (request : Request)
    (options : Options) (level : GroupLevel) (deeper : List GroupLevel)
    (levels : request.group = level :: deeper) (result : LoadResult)
    (loaded : (ofRequest (collection.store patterns) request options).1 = .ok result) :
    ∃ groups sorted, result.data = .groups groups ∧
      collection.run patterns ((Recipe.ofRequest request options).filtered ++
        (Recipe.ofRequest request options).sort ++ []) = .ok sorted ∧
      Load.Returns (Load.loadGroups (collection.store patterns) (.ofRequest request options)
        request.groupSummary ((Recipe.ofRequest request options).cleaner options)
        (RecipeLevel.ofLevels options.offset 0 (level :: deeper)) []) groups := by
  obtain ⟨data, _, _⟩ := Load.returns_load _ _ _ _ loaded
  obtain ⟨groups, isGroups, returned⟩ :=
    Load.returns_groups _ _ _ (levels ▸ List.cons_ne_nil level deeper) _ data
  rw [show (Recipe.ofRequest request options).levels =
    RecipeLevel.ofLevels options.offset 0 (level :: deeper) from levels ▸ rfl] at returned
  obtain ⟨sorted, within⟩ := Load.returns_within patterns collection _ _ _ _ _ _ groups returned
  exact ⟨groups, sorted, isGroups, within, returned⟩

end LoadResult

end DataGrid
