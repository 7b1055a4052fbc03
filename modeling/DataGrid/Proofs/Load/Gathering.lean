import DataGrid.Pattern.Reader
import DataGrid.Proofs.Filter.DateParts
import DataGrid.Proofs.Load.Tree
/-!
What a grouped request answers about the rows of a collection. Rows that use no reserved names reach
every group with the computed fields behind their own: the keys computed on the way are those of the
rows alone, and the rows of a group are the stored ones once the computed fields are taken away.
-/
namespace DataGrid

open Result

namespace GroupKey

/-- The key of a row, for rows of which it can be computed. -/
def keyOf (key : GroupKey) (row : Document) : Value := (key.valueOf row).toOption.getD .null

theorem keyOf_ok (key : GroupKey) (row : Document) (value : Value)
    (computed : key.valueOf row = .ok value) : key.keyOf row = value := by
  rw [keyOf, computed]
  rfl

end GroupKey

namespace RowCleaner

/-- A row as it is shown: with a native id replaced by its digits, where this is asked for. -/
def shown (replaceIds : Bool) (row : Document) : Document :=
  if replaceIds then replaceId row else row

theorem mem_stripping (replaceIds : Bool) (names : List String) (name : String) :
    name ∈ ((stripNothing replaceIds).stripping names).strip ↔ name ∈ names := by
  -- a name that is there already is not listed again, as with the names of date parts
  have tracked : ((stripNothing replaceIds).stripping names).strip =
      names.foldl DateParts.track [] := rfl
  rw [tracked, DateParts.mem_tracked]
  exact or_iff_right List.not_mem_nil

theorem clean_behind (cleaner : RowCleaner) (row doc : Document)
    (reserved : ∀ name ∈ cleaner.strip, Path.Reserved name) (plain : row.Plain)
    (behind : Document.Behind cleaner.strip row doc) :
    cleaner.clean doc = shown cleaner.replaceIds row := by
  rw [clean, Document.behind_removeAll (Document.absent_of_plain reserved plain) behind, shown]

end RowCleaner

namespace Group

/-- What the group of a key holds of the rows of its parent. -/
def Gathers (options : Options) :
    (index : Nat) → List GroupLevel → List Document → Value → Group → Prop
  | _, [], _, _, _ => False
  | index, level :: deeper, stored, key, group =>
      let members := Grouping.members (level.keyAt options index).keyOf stored key
      match deeper with
      | [] =>
          if level.expanded then
            ∃ summary, group = .rows key members.length
              (members.map (RowCleaner.shown options.replaceIds)) summary
          else ∃ summary, group = .leaf key members.length summary
      | next :: _ =>
          ∃ keys children summary,
            (∀ row ∈ members, ∃ value, (next.keyAt options (index + 1)).valueOf row = .ok value) ∧
            Grouping.Siblings (next.keyAt options (index + 1)).keyOf next.descending members keys ∧
            List.Forall₂ (Gathers options (index + 1) deeper members) keys children ∧
            group = .groups key children.length children summary

end Group

namespace Load

/-- A row and how it reaches a group: with computed fields behind its own, of which one is its key. -/
def Reaches (names : List String) (key : GroupKey) (row doc : Document) : Prop :=
  Document.Behind names row doc ∧ key.valueOf row = .ok (key.carried doc)

section Reaching

variable {names : List String} {rows docs extended : List Document} {key : GroupKey}

theorem reaches_key (row doc : Document) (reaches : Reaches names key row doc) :
    key.keyOf row = key.carried doc :=
  key.keyOf_ok row _ reaches.2

theorem reaches_extend (reserved : ∀ name ∈ names, Path.Reserved name)
    (plain : ∀ row ∈ rows, Document.Plain row) (listed : ∀ name ∈ key.names, name ∈ names)
    (behind : List.Forall₂ (fun row doc => Document.Behind names row doc ∧
      Expression.reference doc key.selector = Expression.reference row key.selector) rows docs)
    (computed : docs.mapM key.extend = .ok extended) :
    List.Forall₂ (Reaches names key) rows extended := by
  have related : List.Forall₂ (fun row doc => row.Plain ∧ Document.Behind names row doc ∧
      Expression.reference doc key.selector = Expression.reference row key.selector) rows docs :=
    forall₂_imp_mem behind fun row member _ _ one => ⟨plain row member, one⟩
  refine forall₂_comp related ((mapM_ok _ _ _).mp computed) ?_
  intro row doc out given extended
  obtain ⟨unreserved, one, same⟩ := given
  exact key.behind_extend reserved unreserved listed one same extended

theorem reaches_stored (reserved : ∀ name ∈ names, Path.Reserved name)
    (plain : ∀ row ∈ rows, Document.Plain row) (listed : ∀ name ∈ key.names, name ∈ names)
    (computed : rows.mapM key.extend = .ok extended) :
    List.Forall₂ (Reaches names key) rows extended :=
  reaches_extend reserved plain listed
    (List.forall₂_same.mpr fun row _ => ⟨Document.behind_self _ row, rfl⟩) computed

theorem reaches_siblings (descending : Bool) (keys : List Value)
    (each : List.Forall₂ (Reaches names key) rows extended)
    (siblings : Grouping.Siblings key.carried descending extended keys) :
    (∀ row ∈ rows, ∃ value, key.valueOf row = .ok value) ∧
      Grouping.Siblings key.keyOf descending rows keys := by
  refine ⟨?_, ⟨?_, siblings.ordered⟩⟩
  · intro row member
    obtain ⟨doc, _, one⟩ := exists_right each row member
    exact ⟨key.carried doc, one.2⟩
  · exact Grouping.Classes.forall₂ _ _ _ each.flip
      (fun doc row one => (reaches_key row doc one).symm) keys siblings.toClasses

theorem reaches_members (value : Value) (each : List.Forall₂ (Reaches names key) rows extended) :
    List.Forall₂ (Reaches names key) (Grouping.members key.keyOf rows value)
      (Grouping.members key.carried extended value) :=
  Grouping.members_forall₂ _ _ _ each reaches_key value

end Reaching

section Gathering

variable (recipe : Recipe) (options : Options) (cleaner : RowCleaner)
  (reserved : ∀ name ∈ cleaner.strip, Path.Reserved name)
  (replaces : cleaner.replaceIds = options.replaceIds)
  (whole : recipe.rowForm = none)

include reserved replaces whole in
theorem shows_shown (key : GroupKey) (descending : Bool)
    (rows docs items : List Document) (plain : ∀ row ∈ rows, Document.Plain row)
    (each : List.Forall₂ (Reaches cleaner.strip key) rows docs)
    (shows : List.Forall₂ (Group.Shows ⟨descending, true, true, recipe.rowForm⟩ cleaner) docs items) :
    items = rows.map (RowCleaner.shown options.replaceIds) := by
  have related : List.Forall₂ (fun row doc => row.Plain ∧ Reaches cleaner.strip key row doc)
      rows docs := forall₂_imp_mem each fun row member _ _ one => ⟨plain row member, one⟩
  have cleaned : List.Forall₂ (fun row item => RowCleaner.shown options.replaceIds row = item)
      rows items := by
    refine forall₂_comp related shows ?_
    intro row doc item both shown
    obtain ⟨value, evaluated, clean⟩ := shown
    rw [whole] at evaluated
    obtain rfl := Except.ok.inj evaluated
    obtain rfl := Except.ok.inj clean
    rw [RowCleaner.clean_behind cleaner row doc reserved both.1 both.2.1, replaces]
  exact (map_of_forall₂ cleaned).symm

include reserved replaces whole in
/-- A group of the deepest level gathers the stored rows themselves. -/
theorem gathers_last (level : GroupLevel) (index : Nat) (rows extended : List Document)
    (value : Value) (group : Group) (plain : ∀ row ∈ rows, Document.Plain row)
    (each : List.Forall₂ (Reaches cleaner.strip (level.keyAt options index)) rows extended)
    (covers : Group.Covers recipe options cleaner index [level] extended value group) :
    Group.Gathers options index [level] rows value group := by
  have members := reaches_members value each
  have plainMembers : ∀ row ∈ Grouping.members (level.keyAt options index).keyOf rows value,
      Document.Plain row := fun row member => plain row (List.mem_filter.mp member).1
  unfold Group.Covers at covers
  unfold Group.Gathers
  dsimp only at covers ⊢
  rw [members.length_eq]
  cases given : level.expanded with
  | true =>
      rw [given, if_pos rfl] at covers
      obtain ⟨items, summary, rfl, shows⟩ := covers
      rw [if_pos rfl]
      refine ⟨summary, ?_⟩
      rw [shows_shown recipe options cleaner reserved replaces whole _ _ _ _ items
        plainMembers members shows]
  | false =>
      rw [given, if_neg (by decide)] at covers
      rw [if_neg (by decide)]
      exact covers

include reserved replaces whole in
/-- What a group covers of the rows that reached it, it gathers of the stored rows. -/
theorem gathers_of_covers (level : GroupLevel) (deeper : List GroupLevel) (index : Nat)
    (rows extended : List Document) (value : Value) (group : Group)
    (plain : ∀ row ∈ rows, Document.Plain row)
    (stored : ∀ next ∈ deeper, ¬ Path.Reserved next.selector)
    (parts : ∀ next ∈ deeper, ¬ Expression.IsWhole next.selector)
    (listed : ∀ next ∈ RecipeLevel.ofLevels options.offset (index + 1) deeper,
      ∀ name ∈ next.key.names, name ∈ cleaner.strip)
    (each : List.Forall₂ (Reaches cleaner.strip (level.keyAt options index)) rows extended)
    (covers : Group.Covers recipe options cleaner index (level :: deeper) extended value group) :
    Group.Gathers options index (level :: deeper) rows value group := by
  induction deeper generalizing level index rows extended value group with
  | nil =>
      exact gathers_last recipe options cleaner reserved replaces whole level index rows extended value
        group plain each covers
  | cons next deeper ih =>
      have members := reaches_members value each
      have plainMembers : ∀ row ∈ Grouping.members (level.keyAt options index).keyOf rows value,
          Document.Plain row := fun row member => plain row (List.mem_filter.mp member).1
      unfold Group.Covers at covers
      unfold Group.Gathers
      dsimp only at covers ⊢
      obtain ⟨inner, keys, children, summary, computed, siblings, below, rfl⟩ := covers
      have own : ∀ name ∈ (next.keyAt options (index + 1)).names, name ∈ cleaner.strip :=
        listed _ List.mem_cons_self
      -- the next key refers to stored fields, which the computed ones do not hide
      have behind := members.imp fun row doc one => And.intro one.1
        (Expression.reference_behind _ row doc (next.keyAt options (index + 1)).selector reserved one.1
          (stored next (by simp)) (parts next (by simp)))
      have reached := reaches_extend reserved plainMembers own behind computed
      obtain ⟨computed', siblings'⟩ := reaches_siblings next.descending keys reached siblings
      refine ⟨keys, children, summary, computed', siblings', ?_, rfl⟩
      refine below.imp fun key child covers => ?_
      exact ih next (index + 1) _ inner key child plainMembers
        (fun other member => stored other (List.mem_cons_of_mem next member))
        (fun other member => parts other (List.mem_cons_of_mem next member))
        (fun other member => listed other (List.mem_cons_of_mem _ member)) reached covers

end Gathering

end Load

namespace Recipe

variable (recipe : Recipe) (options : Options)

theorem cleaner_listed (level : RecipeLevel) (member : level ∈ recipe.levels) :
    ∀ name ∈ level.key.names, name ∈ (recipe.cleaner options).strip :=
  fun name named =>
    (RowCleaner.mem_stripping _ _ name).mpr (List.mem_flatMap.mpr ⟨level, member, named⟩)

theorem cleaner_reserved : ∀ name ∈ (recipe.cleaner options).strip, Path.Reserved name := by
  intro name member
  obtain ⟨level, _, named⟩ := List.mem_flatMap.mp ((RowCleaner.mem_stripping _ _ name).mp member)
  exact level.key.names_reserved name named

end Recipe

/-- The tree of the groups of some rows under the levels of a request. Its top level shows a page of
the groups; under each of them the tree is complete. -/
def Group.IsTree (request : Request) (options : Options) (rows : List Document)
    (groups : List Group) : Prop :=
  ∃ level deeper keys, request.group = level :: deeper ∧
    (∀ row ∈ rows, ∃ value, (level.keyAt options 0).valueOf row = .ok value) ∧
    Grouping.Siblings (level.keyAt options 0).keyOf level.descending rows keys ∧
    List.Forall₂ (Group.Gathers options 0 request.group rows)
      (Paging.page request.skip request.take keys) groups

namespace Group

theorem gathers_key (options : Options) (index : Nat) (levels : List GroupLevel)
    (rows : List Document) (value : Value) (group : Group)
    (gathers : Gathers options index levels rows value group) : group.key = value := by
  match levels with
  | [] => exact gathers.elim
  | [level] =>
      unfold Gathers at gathers
      dsimp only at gathers
      split at gathers
      · obtain ⟨summary, rfl⟩ := gathers
        rfl
      · obtain ⟨summary, rfl⟩ := gathers
        rfl
  | level :: next :: deeper =>
      unfold Gathers at gathers
      obtain ⟨keys, children, summary, _, _, _, rfl⟩ := gathers
      rfl

theorem gathers_size_pos (options : Options) (level : GroupLevel) (deeper : List GroupLevel)
    (index : Nat) (rows : List Document) (keys : List Value) (value : Value) (group : Group)
    (siblings : Grouping.Siblings (level.keyAt options index).keyOf level.descending rows keys)
    (member : value ∈ keys) (gathers : Gathers options index (level :: deeper) rows value group) :
    0 < group.size := by
  obtain ⟨row, found, _⟩ := Option.map_eq_some_iff.mp (siblings.first value member)
  have inside := List.mem_of_mem_head? found
  have filled := List.length_pos_of_mem inside
  unfold Gathers at gathers
  -- the first row of the class is shown, or belongs to one of the classes below
  cases deeper with
  | nil =>
      dsimp only at gathers
      split at gathers
      · obtain ⟨summary, rfl⟩ := gathers
        exact filled
      · obtain ⟨summary, rfl⟩ := gathers
        exact filled
  | cons next deeper =>
      obtain ⟨inner, children, summary, _, below, each, rfl⟩ := gathers
      obtain ⟨key, known, _⟩ := below.covered row inside
      have nonempty := List.length_pos_of_mem known
      rwa [each.length_eq] at nonempty

end Group

namespace LoadResult

/-- A grouped request answers with the tree of its rows. Keys that a match would read as operators
may stand on the deepest level only, and only the top level may be grouped by whole rows. -/
theorem ofRequest_isTree (patterns : PatternCompiler) (collection : Collection) (request : Request)
    (options : Options) (result : LoadResult) (grouped : request.group ≠ [])
    (whole : request.select = [])
    (stored : ∀ level ∈ request.group, ¬ Path.Reserved level.selector)
    (parts : ∀ level ∈ request.group.tail, ¬ Expression.IsWhole level.selector)
    (loaded : (ofRequest (collection.store patterns) request options).1 = .ok result) :
    ∃ rows groups,
      collection.run patterns (options.before ++ (Recipe.ofRequest request options).filtering.stages
        ++ SortKey.stages request.sort) = .ok rows ∧
      result.data = .groups groups ∧
      ((∀ row ∈ rows, Document.Plain row) →
        (∀ key ∈ Group.innerKeysOf groups, Predicate.isOperators key = false) →
        Group.IsTree request options rows groups) := by
  obtain ⟨level, deeper, levels⟩ := List.exists_cons_of_ne_nil grouped
  obtain ⟨groups, rows, same, within, returned⟩ :=
    grouped_returns patterns collection request options level deeper levels result loaded
  have start := within
  rw [List.append_nil] at start
  refine ⟨rows, groups, start, same, fun plain inner => ?_⟩
  obtain ⟨extended, keys, computed, siblings, each⟩ := Load.loadGroups_covers patterns collection _
    options _ request.skip request.take rfl _ level deeper 0 [] rows groups within returned inner
  have reserved := (Recipe.ofRequest request options).cleaner_reserved options
  have listed := (Recipe.ofRequest request options).cleaner_listed options
  rw [show (Recipe.ofRequest request options).levels =
    RecipeLevel.ofLevels options.offset 0 (level :: deeper) from levels ▸ rfl] at listed
  have reached := Load.reaches_stored reserved plain (listed _ List.mem_cons_self) computed
  obtain ⟨computed', siblings'⟩ := Load.reaches_siblings level.descending keys reached siblings
  refine ⟨level, deeper, keys, levels, computed', siblings', ?_⟩
  rw [if_pos rfl] at each
  rw [levels]
  have form : (Recipe.ofRequest request options).rowForm = none := by
    change GroupShape.rowForm? request.select = none
    rw [whole]
    rfl
  refine each.imp fun key group covers => ?_
  rw [levels] at stored parts
  exact Load.gathers_of_covers _ options _ reserved rfl form level deeper 0 rows extended key group
    plain (fun other member => stored other (List.mem_cons_of_mem level member)) parts
    (fun other member => listed other (List.mem_cons_of_mem _ member)) reached covers

/-- Sales in three cities. One of them has a native id, and one amount is no whole number. -/
def sales : Collection :=
  .ofDocuments
    [[("_id", .single "$oid" (.string "65a000000000000000000001")), ("city", .string "Oslo"),
        ("amount", .int 12)],
      [("city", .string "Rome"), ("amount", .int 31)],
      [("amount", .int 18), ("city", .string "Oslo")],
      [("city", .string "Bern"), ("amount", .int 0)],
      [("city", .string "Oslo"), ("amount", .int 4)]]

/-- The last two cities of those that sold anything, and in each of them the sales by tens. -/
def salesByTens : Request :=
  { filter := some (.array [.string "amount", .string ">", .int 0])
    sort := [⟨"amount", true⟩]
    group := [{ selector := "city", descending := true },
      { selector := "amount", interval := some (.width 10), expanded := true }]
    take := some 2 }

theorem ofRequest_isTree_sales :
    ∃ result rows groups,
      (ofRequest (sales.store Pattern.compile) salesByTens {}).1 = .ok result ∧
      sales.run Pattern.compile (({} : Options).before ++
        (Recipe.ofRequest salesByTens {}).filtering.stages ++
          SortKey.stages salesByTens.sort) = .ok rows ∧
      result.data = .groups groups ∧ Group.IsTree salesByTens {} rows groups := by
  have plainKeys : ((ofRequest (sales.store Pattern.compile) salesByTens {}).1.toOption.map
      fun result => (Group.innerKeysOf result.groups).all fun key => !Predicate.isOperators key) =
        some true := by
    decide +kernel
  have plainRows : ((sales.run Pattern.compile (({} : Options).before ++
      (Recipe.ofRequest salesByTens {}).filtering.stages ++
        SortKey.stages salesByTens.sort)).toOption.map
          fun rows => rows.all fun row => decide row.Plain) = some true := by
    decide +kernel
  cases loaded : (ofRequest (sales.store Pattern.compile) salesByTens {}).1 with
  | error fault =>
      rw [loaded] at plainKeys
      exact absurd plainKeys.symm (Option.some_ne_none _)
  | ok result =>
      obtain ⟨rows, groups, ran, found, tree⟩ := ofRequest_isTree Pattern.compile sales salesByTens {}
        result (by decide) rfl (by decide) (by decide) loaded
      obtain ⟨data, groupCount, totalCount, summary⟩ := result
      obtain rfl : data = .groups groups := found
      rw [loaded] at plainKeys
      rw [ran] at plainRows
      have noOperators := Option.some.inj plainKeys
      have allPlain := Option.some.inj plainRows
      refine ⟨_, rows, groups, rfl, ran, rfl, tree ?_ ?_⟩
      · simpa using allPlain
      · simpa [LoadResult.groups] using noOperators

/-- Whether a grouped request on a collection has no other answer than the tree of its rows. -/
def AnswersTree (patterns : PatternCompiler) (collection : Collection) (request : Request)
    (options : Options) : Prop :=
  ∀ result, (ofRequest (collection.store patterns) request options).1 = .ok result →
    ∃ rows groups,
      collection.run patterns (options.before ++ (Recipe.ofRequest request options).filtering.stages
        ++ SortKey.stages request.sort) = .ok rows ∧
      result.data = .groups groups ∧
      ((∀ row ∈ rows, Document.Plain row) → Group.IsTree request options rows groups)

/-- A key that is spelled like an operator. -/
def operatorRow : Document := [("rule", .single "$gt" (.int 5)), ("amount", .int 1)]

def byRule : Request := { group := [{ selector := "rule" }, { selector := "amount" }] }

/-- Below the top level the whole row is grouped with the fields computed above it. -/
def byWholeRow : Request := { group := [{ selector := "amount" }, { selector := "$CURRENT" }] }

theorem answersTree_operators :
    ¬ AnswersTree Pattern.compile (.ofDocuments [operatorRow]) byRule {} := by
  intro answers
  have answer : ((ofRequest ((Collection.ofDocuments [operatorRow]).store Pattern.compile)
      byRule {}).1.toOption.map fun result => result.groups.map Group.size) = some [0] := by
    decide +kernel
  cases loaded : (ofRequest ((Collection.ofDocuments [operatorRow]).store Pattern.compile)
      byRule {}).1 with
  | error fault =>
      rw [loaded] at answer
      exact absurd answer.symm (Option.some_ne_none _)
  | ok result =>
      obtain ⟨rows, groups, ran, found, tree⟩ := answers result loaded
      obtain ⟨data, groupCount, totalCount, summary⟩ := result
      obtain rfl : data = .groups groups := found
      rw [loaded] at answer
      have sizes := Option.some.inj answer
      obtain rfl : [operatorRow] = rows := Except.ok.inj ran
      obtain ⟨level, deeper, keys, levels, _, siblings, each⟩ := tree (by decide)
      obtain ⟨group, rfl, empty⟩ := List.map_eq_singleton_iff.mp sizes
      obtain ⟨key, inKeys, gathers⟩ := exists_left each group (by simp)
      rw [levels] at gathers
      -- the tree has no empty groups, but the scope of this key leaves no row
      have filled := Group.gathers_size_pos {} level deeper 0 _ keys key group siblings inKeys gathers
      omega

theorem answersTree_wholeRow :
    ¬ AnswersTree Pattern.compile (.ofDocuments [operatorRow]) byWholeRow {} := by
  intro answers
  have answer : ((ofRequest ((Collection.ofDocuments [operatorRow]).store Pattern.compile)
      byWholeRow {}).1.toOption.map fun result =>
        result.groups.map fun group => (group.groups?.getD []).map Group.key) =
          some [[.object (operatorRow ++ [("___group_key_0", .int 1)])]] := by
    decide +kernel
  have alone : (GroupLevel.keyAt { selector := "$CURRENT" } {} 1).keyOf operatorRow =
      .object operatorRow := by
    decide +kernel
  cases loaded : (ofRequest ((Collection.ofDocuments [operatorRow]).store Pattern.compile)
      byWholeRow {}).1 with
  | error fault =>
      rw [loaded] at answer
      exact absurd answer.symm (Option.some_ne_none _)
  | ok result =>
      obtain ⟨rows, groups, ran, found, tree⟩ := answers result loaded
      obtain ⟨data, groupCount, totalCount, summary⟩ := result
      obtain rfl : data = .groups groups := found
      rw [loaded] at answer
      have below := Option.some.inj answer
      obtain rfl : [operatorRow] = rows := Except.ok.inj ran
      obtain ⟨level, deeper, keys, levels, _, _, each⟩ := tree (by decide)
      obtain ⟨group, rfl, single⟩ := List.map_eq_singleton_iff.mp below
      obtain ⟨key, _, gathers⟩ := exists_left each group (by simp)
      obtain ⟨inner, children, summary, _, siblings, nested, rfl⟩ := gathers
      obtain ⟨child, rfl, childKey⟩ := List.map_eq_singleton_iff.mp single
      obtain ⟨value, inKeys, gathered⟩ := exists_left nested child (by simp)
      obtain ⟨row, member, carried⟩ := siblings.nonempty value inKeys
      -- the only row is not the key of the inner group, which has the outer key besides
      have only : row = operatorRow := by
        simpa using (List.mem_filter.mp member).1
      rw [only, alone, ← Group.gathers_key {} 1 _ _ value child gathered, childKey] at carried
      exact absurd carried (by decide)

/-- Neither condition on the keys and the selectors can be left out. -/
theorem answersTree_fails :
    (byRule.group ≠ [] ∧ byRule.select = [] ∧
      (∀ level ∈ byRule.group, ¬ Path.Reserved level.selector) ∧
      ¬ AnswersTree Pattern.compile (.ofDocuments [operatorRow]) byRule {}) ∧
    (byWholeRow.group ≠ [] ∧ byWholeRow.select = [] ∧
      (∀ level ∈ byWholeRow.group, ¬ Path.Reserved level.selector) ∧
      ¬ AnswersTree Pattern.compile (.ofDocuments [operatorRow]) byWholeRow {}) :=
  ⟨⟨by decide, rfl, by decide, answersTree_operators⟩,
    ⟨by decide, rfl, by decide, answersTree_wholeRow⟩⟩

end LoadResult

end DataGrid
