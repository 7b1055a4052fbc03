import DataGrid.Proofs.Load.DrillDown
/-!
Groups by labels. Keys that are forms of labels put rows together by their labels, as long as the
forms of two labels are never equal. A level that is loaded then has one group for each label that a
row has, and shows the rows with this label in it, as they were sorted.
-/
namespace DataGrid

open Result

/-- A field that was put into a document is taken away like the one it took the place of. -/
theorem Document.remove_put (doc : Document) (key : String) (value : Value) :
    (doc.put key value).remove key = doc.remove key := by
  induction doc with
  | nil => simp [put, remove, lastFirst]
  | cons field rest ih =>
      by_cases same : field.1 = key
      · simp [put, remove, same]
      · simp [put, remove, same, ih]

namespace Grouping

section Labels

variable {α β Label : Type} {keyOf : α → Value} {label : α → Label} {form : Label → Value}
  {rows : List α} {keys : List Value}

theorem members_map (change : β → α) (others : List β) (key : Value) :
    members keyOf (others.map change) key = (members (keyOf ∘ change) others key).map change := by
  rw [members, List.filter_map]
  rfl

theorem Classes.of_map (change : β → α) (others : List β)
    (classes : Classes keyOf (others.map change) keys) : Classes (keyOf ∘ change) others keys where
  distinct := classes.distinct
  covered row member := classes.covered (change row) (List.mem_map_of_mem member)
  first key member := by
    have head := classes.first key member
    rwa [members_map, List.head?_map, Option.map_map] at head

/-- Rows with keys that are the forms of their labels. The forms of two labels are not equal. -/
structure Labelled (keyOf : α → Value) (label : α → Label) (form : Label → Value) (rows : List α) :
    Prop where
  formed : ∀ row ∈ rows, keyOf row = form (label row)
  told : ∀ row ∈ rows, ∀ other ∈ rows,
    (form (label row)).equal (form (label other)) = true → label row = label other

theorem Labelled.members_form [DecidableEq Label] (labelled : Labelled keyOf label form rows)
    (row : α) (inRows : row ∈ rows) :
    members keyOf rows (form (label row)) = rows.filter fun other => label other = label row := by
  refine List.filter_congr fun other member => ?_
  rw [labelled.formed other member, Bool.eq_iff_iff, decide_eq_true_iff]
  constructor
  · exact fun equal => (labelled.told row inRows other member equal).symm
  · intro same
    rw [same]
    exact Value.equal_refl _

/-- Keys of rows are the keys of a choice of rows. -/
theorem chosen_rows (listed : ∀ key ∈ keys, ∃ row ∈ rows, keyOf row = key) :
    ∃ chosen, chosen ⊆ rows ∧ chosen.map keyOf = keys := by
  induction keys with
  | nil => exact ⟨[], List.nil_subset rows, rfl⟩
  | cons key rest ih =>
      obtain ⟨row, member, rfl⟩ := listed key List.mem_cons_self
      obtain ⟨chosen, among, rfl⟩ := ih fun other later => listed other (List.mem_cons_of_mem _ later)
      exact ⟨row :: chosen, List.cons_subset.mpr ⟨member, among⟩, rfl⟩

/-- The classes of such rows are those of their labels. -/
theorem Labelled.labels (labelled : Labelled keyOf label form rows)
    (classes : Classes keyOf rows keys) :
    ∃ labels : List Label, labels.map form = keys ∧ labels.Nodup ∧
      ∀ found, found ∈ labels ↔ ∃ row ∈ rows, label row = found := by
  obtain ⟨chosen, among, rfl⟩ := chosen_rows classes.nonempty
  have forms : chosen.map keyOf = (chosen.map label).map form := by
    rw [List.map_map]
    exact List.map_congr_left fun row member => labelled.formed row (among member)
  -- one row of each class is chosen to tell its label
  refine ⟨chosen.map label, forms.symm, ?_, fun found => ⟨?_, ?_⟩⟩
  · have distinct := classes.distinct
    rw [forms, List.pairwise_map] at distinct
    refine distinct.imp fun apart same => ?_
    rw [same, Value.equal_refl] at apart
    contradiction
  · intro listed
    obtain ⟨row, member, rfl⟩ := List.mem_map.mp listed
    exact ⟨row, among member, rfl⟩
  · rintro ⟨row, inRows, rfl⟩
    obtain ⟨key, listed, equal⟩ := classes.covered row inRows
    obtain ⟨other, member, rfl⟩ := List.mem_map.mp listed
    rw [labelled.formed row inRows, labelled.formed other (among member)] at equal
    rw [← labelled.told other (among member) row inRows equal]
    exact List.mem_map_of_mem member

end Labels

end Grouping

/-- Groups that show the rows with each label, one group for every label that a row has. -/
structure Group.ByLabel {Label : Type} [DecidableEq Label] (form : Label → Value)
    (label : Document → Label) (shown : Document → Document) (rows : List Document)
    (labels : List Label) (groups : List Group) : Prop where
  once : labels.Nodup
  listed : ∀ found, found ∈ labels ↔ ∃ row ∈ rows, label row = found
  each : List.Forall₂ (fun found group => group.key = form found ∧
    group.rows? = some ((rows.filter fun row => label row = found).map shown)) labels groups

/-- Labels matter for the rows that are grouped alone. -/
theorem Group.ByLabel.congr {Label : Type} [DecidableEq Label] {form : Label → Value}
    {label other : Document → Label} {shown : Document → Document} {rows : List Document}
    {labels : List Label} {groups : List Group} (same : ∀ row ∈ rows, label row = other row)
    (byLabel : ByLabel form label shown rows labels groups) :
    ByLabel form other shown rows labels groups where
  once := byLabel.once
  listed found := (byLabel.listed found).trans
    (exists_congr fun row => and_congr_right fun member => by rw [same row member])
  each := byLabel.each.imp fun found group one => by
    have chosen : rows.filter (fun row => label row = found) =
        rows.filter fun row => other row = found :=
      List.filter_congr fun row member => by rw [same row member]
    rwa [chosen] at one

namespace GroupKey

theorem extend_alone (key : GroupKey) (alone : key.names = [key.field]) (doc : Document)
    (value : Value) (valued : key.valueOf doc = .ok value) :
    key.extend doc = .ok (doc.put key.field value) := by
  obtain ⟨out, extended, read⟩ := (map_ok _ _ _).mp valued
  obtain ⟨fields, computed, rfl⟩ := (key.extend_ok doc out).mp extended
  obtain ⟨named, front, stored, rfl⟩ := key.fields_shape _ fields computed
  have short : front = [] := by
    have lengths := congrArg List.length (named.trans alone)
    simpa [Document.keys] using lengths
  subst short
  rw [Document.get?_putAll_last, Option.getD_some] at read
  rw [extended, ← read]
  rfl

theorem run_alone (key : GroupKey) (alone : key.names = [key.field]) (patterns : PatternCompiler)
    (doc : Document) (value : Value) (valued : key.valueOf doc = .ok value) :
    Pipeline.run patterns key.stages [doc] = .ok [doc.put key.field value] := by
  rw [run_stages, mapM_ok]
  exact List.Forall₂.cons (key.extend_alone alone doc value valued) List.Forall₂.nil

theorem carried_put (key : GroupKey) (doc : Document) (value : Value) :
    key.carried (doc.put key.field value) = value := by
  rw [carried_eq, Document.get?_put_self, Option.getD_some]

end GroupKey

namespace Recipe

variable {request : Request} {level : GroupLevel} (opens : request.Opens level) (options : Options)
include opens

theorem cleaner_opens (alone : (level.keyAt options 0).names = [(level.keyAt options 0).field]) :
    (ofRequest request options).cleaner options =
      ⟨options.replaceIds, [(level.keyAt options 0).field]⟩ := by
  have names : (ofRequest request options).keyNames = [(level.keyAt options 0).field] := by
    rw [keyNames, levels_opens opens, List.flatMap_singleton]
    exact alone
  rw [cleaner, names]
  rfl

end Recipe

namespace Group

/-- Whole rows are shown as they are cleaned, so that a field put behind them is not seen. -/
theorem shows_put (shape : GroupShape) (whole : shape.rowForm = none) (replaceIds : Bool)
    (field : String) (doc row : Document) (value : Value)
    (shows : Shows shape ⟨replaceIds, [field]⟩ (doc.put field value) row) :
    RowCleaner.clean ⟨replaceIds, [field]⟩ doc = row := by
  obtain ⟨item, evaluated, cleaned⟩ := shows
  rw [GroupShape.collected, whole] at evaluated
  obtain rfl := Except.ok.inj evaluated
  rw [← Except.ok.inj cleaned]
  simp only [RowCleaner.clean, List.foldl_cons, List.foldl_nil, Document.remove_put]

end Group

namespace LoadResult

/-- A request loads, and its answer is a list of these documents. -/
def Lists (store : Store) (request : Request) (options : Options) (docs : List Document) : Prop :=
  ∃ result, (ofRequest store request options).1 = .ok result ∧
    result.rows? = some (docs.map (RowCleaner.shown options.replaceIds))

/-- A request loads, and its answer has these documents in groups, one for each of their labels. The
rows are shown without the key of their group. -/
def Groups {Label : Type} [DecidableEq Label] (store : Store) (request : Request) (options : Options)
    (form : Label → Value) (label : Document → Label) (docs : List Document) : Prop :=
  ∃ result groups labels, (ofRequest store request options).1 = .ok result ∧
    result.data = .groups groups ∧
    Group.ByLabel form label (RowCleaner.clean ⟨options.replaceIds, [GroupKey.fieldOf 0]⟩) docs labels
      groups

theorem groups_congr {Label : Type} [DecidableEq Label] {store : Store} {request : Request}
    {options : Options} {form : Label → Value} {label other : Document → Label}
    {docs : List Document} (same : ∀ doc ∈ docs, label doc = other doc)
    (grouped : Groups store request options form label docs) :
    Groups store request options form other docs := by
  obtain ⟨result, groups, labels, loaded, isGroups, byLabel⟩ := grouped
  exact ⟨result, groups, labels, loaded, isGroups, byLabel.congr same⟩

theorem not_groups_merged {Label : Type} [DecidableEq Label] (store : Store) (request : Request)
    (options : Options) (form : Label → Value) (label : Document → Label) (docs : List Document)
    (single : (ofRequest store request options).1.toOption.map
      (fun result => result.groups.length) = some 1)
    (row other : Document) (inDocs : row ∈ docs) (otherInDocs : other ∈ docs)
    (differs : label row ≠ label other) : ¬ Groups store request options form label docs := by
  rintro ⟨result, groups, labels, loaded, isGroups, byLabel⟩
  obtain ⟨again, same, one⟩ := (toOption_map_ok _ _ _).mp single
  obtain rfl := Except.ok.inj (loaded.symm.trans same)
  rw [LoadResult.groups, isGroups] at one
  obtain ⟨found, rfl⟩ := List.length_eq_one_iff.mp (byLabel.each.length_eq.trans one)
  have first := (byLabel.listed (label row)).mpr ⟨row, inDocs, rfl⟩
  have second := (byLabel.listed (label other)).mpr ⟨other, otherInDocs, rfl⟩
  rw [List.mem_singleton] at first second
  exact differs (first.trans second.symm)

variable (patterns : PatternCompiler) (collection : Collection) {request : Request}
  {level : GroupLevel} (opens : request.Opens level) (options : Options)
  (alone : (level.keyAt options 0).names = [(level.keyAt options 0).field])
  {Label : Type} [DecidableEq Label] (form : Label → Value) (label : Document → Label)
include opens alone

theorem loadGroups_labels (sorted : List Document) (groups : List Group)
    (within : collection.run patterns ((Recipe.ofRequest request options).filtered ++
      (Recipe.ofRequest request options).sort ++ []) = .ok sorted)
    (returned : Load.Returns (Load.loadGroups (collection.store patterns) (.ofRequest request options)
      request.groupSummary ((Recipe.ofRequest request options).cleaner options)
      (RecipeLevel.ofLevels options.offset 0 [level]) []) groups)
    (keyed : ∀ row ∈ sorted, (level.keyAt options 0).valueOf row = .ok (form (label row)))
    (told : ∀ row ∈ sorted, ∀ other ∈ sorted,
      (form (label row)).equal (form (label other)) = true → label row = label other) :
    ∃ labels, Group.ByLabel form label
      (RowCleaner.clean ⟨options.replaceIds, [GroupKey.fieldOf 0]⟩) sorted labels groups := by
  obtain ⟨extended, keys, computed, siblings, each⟩ := Load.loadGroups_covers_last patterns collection
    _ options _ none none (Recipe.paging_opens opens options) _ level 0 [] sorted groups within returned
  -- every row has the form of its label put behind it
  let formed (row : Document) : Document := row.put (GroupKey.fieldOf 0) (form (label row))
  have all : sorted.mapM (level.keyAt options 0).extend = .ok (sorted.map formed) :=
    mapM_map _ formed sorted fun row member =>
      (level.keyAt options 0).extend_alone alone row _ (keyed row member)
  obtain rfl := Except.ok.inj (all.symm.trans computed)
  have labelled : Grouping.Labelled ((level.keyAt options 0).carried ∘ formed) label form sorted :=
    ⟨fun row _ => (level.keyAt options 0).carried_put row _, told⟩
  obtain ⟨labels, rfl, once, listed⟩ := labelled.labels (siblings.toClasses.of_map formed sorted)
  refine ⟨labels, once, listed, ?_⟩
  rw [if_pos rfl, Paging.page_none, List.forall₂_map_left_iff] at each
  refine forall₂_imp_mem each fun found member group _ covers => ?_
  obtain ⟨row, inSorted, rfl⟩ := (listed found).mp member
  unfold Group.Covers at covers
  dsimp only at covers
  rw [if_pos opens.expanded, Grouping.members_map, labelled.members_form row inSorted,
    Recipe.cleaner_opens opens options alone] at covers
  obtain ⟨rows, summary, rfl, shows⟩ := covers
  rw [List.forall₂_map_left_iff] at shows
  have shown := map_of_forall₂ (shows.imp fun doc _ one =>
    Group.shows_put _ (Recipe.rowForm_opens opens options) _ _ doc _ _ one)
  exact ⟨rfl, congrArg some shown.symm⟩

/-- A level whose keys are the forms of labels has a group for each label. -/
theorem opened_labels (rows : List Document)
    (before : collection.run patterns options.before = .ok rows)
    (few : request.groupCount = true → rows.length < 2 ^ 64)
    (small : request.needsTotalCount = true → rows.length < 2 ^ 64)
    (keyed : ∀ row ∈ rows, (level.keyAt options 0).valueOf row = .ok (form (label row)))
    (told : ∀ row ∈ rows, ∀ other ∈ rows,
      (form (label row)).equal (form (label other)) = true → label row = label other)
    (plain : ∀ row ∈ rows, Predicate.isOperators (form (label row)) = false) :
    ∃ sorted,
      collection.run patterns (options.before ++ SortKey.stages request.sort) = .ok sorted ∧
      sorted.Perm rows ∧
      Groups (collection.store patterns) request options form label sorted := by
  obtain ⟨result, loaded⟩ := opened_loads patterns collection opens options rows before few small
    fun row member => ⟨_, keyed row member, plain row member⟩
  obtain ⟨groups, sorted, isGroups, within, returned⟩ :=
    grouped_returns patterns collection request options level [] opens.levels result loaded
  have start := within
  rw [List.append_nil, Recipe.filtered_opens opens] at start
  have order : sorted.Perm rows := by
    obtain ⟨_, again, ordered⟩ := (Pipeline.run_append_ok _ _ _ _ _).mp start
    obtain rfl := Except.ok.inj (before.symm.trans again)
    exact SortKey.run_stages patterns request.sort rows sorted ordered
  obtain ⟨labels, shown⟩ := loadGroups_labels patterns collection opens options alone form label sorted
    groups within returned (fun row member => keyed row (order.mem_iff.mp member))
    fun row member other inSorted =>
      told row (order.mem_iff.mp member) other (order.mem_iff.mp inSorted)
  exact ⟨sorted, start, order, result, groups, labels, loaded, isGroups, shown⟩

end LoadResult

end DataGrid
