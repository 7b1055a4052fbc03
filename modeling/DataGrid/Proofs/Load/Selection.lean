import DataGrid.Pattern.Reader
import DataGrid.Proofs.Filter.Filtering
import DataGrid.Proofs.Load.Alike
import DataGrid.Proofs.Load.Answers
import DataGrid.Proofs.Load.DrillDown
import DataGrid.Proofs.Pipeline.Selection
/-!
Calls that select fields against the same calls for whole rows. The two send pipelines that differ in
the form of rows alone, so they end alike, with the same groups, counts and summaries. Where the
selected fields are plain names, not `_id` alone, every row is the selection of the whole row in its
place, in a list as in a group.
-/
namespace DataGrid

open Result

/-- The same request for whole rows. -/
def Request.whole (request : Request) : Request := { request with select := [] }

/-- The same pipelines with whole rows. -/
def Recipe.whole (recipe : Recipe) : Recipe := { recipe with select := [], rowForm := none }

/-- The rows of a list before their fields are selected. -/
def Recipe.unshaped (recipe : Recipe) : Pipeline := recipe.filtered ++ recipe.sort ++ recipe.paging

namespace Group

mutual

/-- The same groups with other rows. -/
def onRows (change : Document → Document) : Group → Group
  | .leaf key number summary => .leaf key number summary
  | .rows key number items summary => .rows key number (items.map change) summary
  | .groups key number items summary => .groups key number (onAllRows change items) summary

def onAllRows (change : Document → Document) : List Group → List Group
  | [] => []
  | group :: rest => onRows change group :: onAllRows change rest

end

mutual

/-- The rows of a group and of all groups in it. -/
def shownRows : Group → List Document
  | .leaf _ _ _ => []
  | .rows _ _ items _ => items
  | .groups _ _ items _ => allShownRows items

def allShownRows : List Group → List Document
  | [] => []
  | group :: rest => shownRows group ++ allShownRows rest

end

variable (change : Document → Document)

theorem onAllRows_eq (groups : List Group) : onAllRows change groups = groups.map (onRows change) := by
  induction groups with
  | nil => rfl
  | cons group rest ih => rw [onAllRows, ih, List.map_cons]

theorem onRows_withSummary (group : Group) (summary : Option (List Value)) :
    onRows change (group.withSummary summary) = (onRows change group).withSummary summary := by
  cases group <;> rfl

theorem allShownRows_eq (groups : List Group) : allShownRows groups = groups.flatMap shownRows := by
  induction groups with
  | nil => rfl
  | cons group rest ih => rw [allShownRows, ih, List.flatMap_cons]

mutual

theorem shownRows_onRows : ∀ group : Group,
    shownRows (onRows change group) = (shownRows group).map change
  | .leaf _ _ _ => rfl
  | .rows _ _ _ _ => rfl
  | .groups _ _ items _ => allShownRows_onAllRows items

theorem allShownRows_onAllRows : ∀ groups : List Group,
    allShownRows (onAllRows change groups) = (allShownRows groups).map change
  | [] => rfl
  | group :: rest => by
      rw [onAllRows, allShownRows, shownRows_onRows group, allShownRows_onAllRows rest, allShownRows,
        List.map_append]

end

/-- A group that is another one with changed rows, where all rows of the other are of some kind. -/
structure Selects (kind : Document → Prop) (group whole : Group) : Prop where
  changed : group = whole.onRows change
  known : ∀ row ∈ whole.shownRows, kind row

section Selects

variable {change} {kind : Document → Prop}

theorem selects_withSummary (group whole : Group) (summary : Option (List Value))
    (selects : Selects change kind group whole) :
    Selects change kind (group.withSummary summary) (whole.withSummary summary) := by
  constructor
  · rw [selects.changed, onRows_withSummary]
  · have same : (whole.withSummary summary).shownRows = whole.shownRows := by cases whole <;> rfl
    exact same ▸ selects.known

theorem selects_ofRows (key : Value) (rows : List Document) (known : ∀ row ∈ rows, kind row) :
    Selects change kind (.ofRows key (rows.map change)) (.ofRows key rows) := by
  constructor
  · rw [ofRows, ofRows, onRows, List.length_map]
  · exact known

theorem selects_all (groups wholes : List Group)
    (each : List.Forall₂ (Selects change kind) groups wholes) :
    groups = wholes.map (onRows change) ∧ ∀ row ∈ wholes.flatMap shownRows, kind row := by
  constructor
  · exact (map_of_forall₂ (each.flip.imp fun _ _ selects => selects.changed.symm)).symm
  · intro row member
    obtain ⟨whole, listed, shown⟩ := List.mem_flatMap.mp member
    obtain ⟨_, _, selects⟩ := exists_left each whole listed
    exact selects.known row shown

theorem selects_ofGroups (key : Value) (groups wholes : List Group)
    (each : List.Forall₂ (Selects change kind) groups wholes) :
    Selects change kind (.ofGroups key groups) (.ofGroups key wholes) := by
  obtain ⟨rfl, known⟩ := selects_all groups wholes each
  constructor
  · rw [ofGroups, ofGroups, onRows, onAllRows_eq, List.length_map]
  · change ∀ row ∈ allShownRows wholes, kind row
    rwa [allShownRows_eq]

end Selects

end Group

namespace LoadData

/-- The same data with other rows. -/
def onRows (change : Document → Document) : LoadData → LoadData
  | .rows items => .rows (items.map change)
  | .groups items => .groups (items.map (Group.onRows change))

/-- All rows of the data, in the list or in its groups. -/
def shownRows : LoadData → List Document
  | .rows items => items
  | .groups items => items.flatMap Group.shownRows

theorem shownRows_onRows (change : Document → Document) (data : LoadData) :
    (data.onRows change).shownRows = data.shownRows.map change := by
  cases data with
  | rows items => rfl
  | groups items =>
      have all := Group.allShownRows_onAllRows change items
      rwa [Group.onAllRows_eq, Group.allShownRows_eq, Group.allShownRows_eq] at all

end LoadData

def LoadResult.onRows (change : Document → Document) (result : LoadResult) : LoadResult :=
  { result with data := result.data.onRows change }

namespace Select

section Shown

variable {select : List String} (names : Names select) (stored : Document)
  (identified : "_id" ∈ stored.keys)

theorem reference_put (name path : String) (value : Value) (dotless : '.' ∉ path.toList)
    (part : ¬ Expression.IsWhole path) : Expression.reference (stored.put name value) path =
      if path = name then value else Expression.reference stored path := by
  rw [Expression.reference_of_plain _ path dotless part,
    Expression.reference_of_plain _ path dotless part]
  by_cases same : path = name
  · rw [if_pos same, same, Document.get?_put_self]
    rfl
  · rw [if_neg same, Document.get?_put_other _ _ _ _ same]

include names identified in
theorem item_replaceId : RowCleaner.replaceId (item select stored) =
    item select (RowCleaner.replaceId stored) := by
  by_cases whole : select = []
  · simp [item, whole]
  · obtain ⟨id, known⟩ := Document.get?_of_key stored "_id" identified
    -- an item begins with the `_id`, and nothing behind it is replaced
    have first (doc : Document) : item select doc = ("_id", Expression.reference doc "_id") ::
        Document.ofNames (select.filter fun path => !path == "_id").eraseDups
          (Expression.reference doc) := by
      rw [item, if_neg whole, List.eraseDups_cons]
      rfl
    have head : (item select stored).get? "_id" = some id := by
      simp [first, Document.get?, reference_id stored id known]
    unfold RowCleaner.replaceId
    rw [head, known]
    cases native : (some id).bind Value.oidHex? with
    | none => rfl
    | some hex =>
        have others : ∀ path ∈ (select.filter fun path => !path == "_id").eraseDups,
            Expression.reference (stored.put "_id" (.string hex)) path =
              Expression.reference stored path := by
          intro path member
          obtain ⟨listed, differs⟩ := List.mem_filter.mp (List.mem_eraseDups.mp member)
          rw [reference_put _ _ _ _ (names.dotless path listed)
            (part_of_stored path (names.stored path listed)), if_neg (by simpa using differs)]
        dsimp only
        rw [first, first, reference_put _ _ _ _ (by decide) (by decide), Document.put, if_pos rfl,
          if_pos rfl]
        refine congrArg (List.cons _) (List.map_congr_left fun path member => ?_)
        rw [others path member]

theorem keys_replaceId (identified : "_id" ∈ stored.keys) :
    "_id" ∈ (RowCleaner.replaceId stored).keys := by
  unfold RowCleaner.replaceId
  split
  · rw [Document.mem_keys_put]
    exact Or.inl identified
  · exact identified

include names identified in
theorem shown_item (replaceIds : Bool) : RowCleaner.shown replaceIds (item select stored) =
    row select (RowCleaner.shown replaceIds stored) := by
  cases replaceIds with
  | false => exact (names.row_eq_item stored identified).symm
  | true =>
      have replaced := names.row_eq_item _ (keys_replaceId stored identified)
      exact (item_replaceId names stored identified).trans replaced.symm

include names in
/-- Selected names are read from the stored fields of a row that carries keys. -/
theorem item_behind (keyNames : List String) (doc : Document) (whole : select ≠ [])
    (reserved : ∀ name ∈ keyNames, Path.Reserved name)
    (behind : Document.Behind keyNames stored doc) : item select doc = item select stored := by
  rw [item, item, if_neg whole, if_neg whole]
  refine List.map_congr_left fun path member => ?_
  have same : Expression.reference doc path = Expression.reference stored path := by
    refine Expression.reference_behind keyNames stored doc path reserved behind ?_ ?_
    all_goals rcases List.mem_cons.mp (List.mem_eraseDups.mp member) with rfl | listed
    · decide
    · exact names.unreserved path listed
    · decide
    · exact part_of_stored path (names.stored path listed)
  rw [same]

include names identified in
/-- What is collected of a row that carries keys is shown as the selection of the whole row. -/
theorem clean_item (cleaner : RowCleaner) (doc : Document)
    (reserved : ∀ name ∈ cleaner.strip, Path.Reserved name) (plain : stored.Plain)
    (behind : Document.Behind cleaner.strip stored doc) :
    cleaner.clean (item select doc) = row select (cleaner.clean doc) := by
  have cleaned := RowCleaner.clean_behind cleaner stored doc reserved plain behind
  by_cases whole : select = []
  · simp [item, row, whole]
  · have unreserved : (item select stored).Plain := by
      intro name member
      rw [item, if_neg whole, Document.keys_ofNames, List.mem_eraseDups] at member
      rcases List.mem_cons.mp member with rfl | listed
      · decide
      · exact names.unreserved name listed
    rw [item_behind names stored cleaner.strip doc whole reserved behind, cleaned,
      RowCleaner.clean_behind cleaner _ _ reserved unreserved (Document.behind_self _ _)]
    exact shown_item names stored identified cleaner.replaceIds

end Shown

end Select

/-- A document that a call starts from. -/
def Collection.Offers (patterns : PatternCompiler) (collection : Collection) (options : Options)
    (doc : Document) : Prop :=
  ∃ rows, collection.run patterns options.before = .ok rows ∧ doc ∈ rows

/-- A document of some origin, which carries nothing besides but computed fields of some names. -/
def Document.Derived (origin : Document → Prop) (names : List String) (doc : Document) : Prop :=
  ∃ stored : Document, origin stored ∧ Document.Behind names stored doc

theorem GroupKey.derived_extend (key : GroupKey) (names : List String) (doc out : Document)
    {origin : Document → Prop} (unreserved : ∀ stored, origin stored → Document.Plain stored)
    (reserved : ∀ name ∈ names, Path.Reserved name) (listed : ∀ name ∈ key.names, name ∈ names)
    (derived : doc.Derived origin names) (extended : key.extend doc = .ok out) :
    out.Derived origin names := by
  obtain ⟨stored, start, behind⟩ := derived
  obtain ⟨fields, computed, rfl⟩ := (key.extend_ok doc out).mp extended
  obtain ⟨added, _⟩ := key.fields_shape _ fields computed
  have absent := Document.absent_of_plain reserved (unreserved stored start)
  exact ⟨stored, start, Document.behind_putAll absent behind fields
    fun name member => listed name (added ▸ member)⟩

/-- Items that are not asked for are not part of an entry. -/
theorem GroupShape.entryOf_congr (shape : GroupShape) (key : GroupKey) (docs : List Document)
    (items others : Value → List Value) (value : Value)
    (same : shape.withItems = true → items value = others value) :
    shape.entryOf key docs items value = shape.entryOf key docs others value := by
  unfold entryOf entry
  by_cases listed : shape.withItems = true
  · rw [same listed]
  · rw [if_neg listed, if_neg listed]

namespace Load

section Sides

variable (patterns : PatternCompiler) (collection : Collection) (recipe : Recipe)
  {select : List String} (names : Select.Names select)
  (chosen : recipe.rowForm = GroupShape.rowForm? select)
  (skip take : Option UInt64) (paging : recipe.paging = Paging.stages skip take)

/-- Items as they are collected of the rows of a class. -/
def itemsOf (key : GroupKey) (docs : List Document) (form : Document → Document) (value : Value) :
    List Value :=
  (Grouping.members key.carried docs value).map fun doc => .object (form doc)

theorem stages_items (shape : GroupShape) (key : GroupKey) (docs : List Document)
    (form : Document → Document)
    (collected : ∀ doc, Expression.evaluate (.object doc) shape.collected = .ok (.object (form doc))) :
    ∃ keys, Grouping.Classes key.carried docs keys ∧
      keys.Pairwise (GroupShape.Precedes shape.descending) ∧
      Pipeline.run patterns (shape.stages key) docs =
        .ok (keys.map (shape.entryOf key docs (itemsOf key docs form))) := by
  obtain ⟨entries, ran⟩ := shape.stages_total (fun doc => ⟨_, collected doc⟩) patterns key docs
  obtain ⟨keys, items, classes, ordered, rfl, each⟩ := shape.stages_ok patterns key docs entries ran
  refine ⟨keys, classes, ordered, ran.trans (congrArg Except.ok ?_)⟩
  refine List.map_congr_left fun value _ => shape.entryOf_congr key docs _ _ value fun listed => ?_
  exact (map_of_forall₂ ((each listed value).imp fun doc item evaluated =>
    (Except.ok.inj ((collected doc).symm.trans evaluated) : Value.object (form doc) = item))).symm

include chosen paging in
/-- A level answers with entries of the same keys, with the rows of each in one form or the other. -/
theorem levelStages_alike (level : RecipeLevel) (scope : Pipeline) :
    Result.Alike (fun entries wholes => ∃ (rows extended : List Document) (keys : List Value),
        collection.run patterns (recipe.filtered ++ recipe.sort ++ scope) = .ok rows ∧
        rows.mapM level.key.extend = .ok extended ∧
        entries = keys.map ((recipe.shape level).entryOf level.key extended
          (itemsOf level.key extended (Select.item select))) ∧
        wholes = keys.map ((recipe.whole.shape level).entryOf level.key extended
          (itemsOf level.key extended id)))
      (collection.run patterns (recipe.levelStages level scope))
      (collection.run patterns (recipe.whole.levelStages level scope)) := by
  have opening (recipe : Recipe) : collection.run patterns (recipe.levelStages level scope) =
      collection.run patterns (recipe.filtered ++ recipe.sort ++ scope) >>= fun rows =>
        Pipeline.run patterns level.key.stages rows >>= fun extended =>
          Pipeline.run patterns ((recipe.shape level).stages level.key) extended >>= fun entries =>
            Pipeline.run patterns (if level.key.level = 0 then recipe.paging else []) entries := by
    simp only [Recipe.levelStages, Collection.run, Pipeline.run_append, bind_assoc]
  rw [opening, opening]
  refine alike_after _ fun rows reached => alike_after _ fun extended computed => ?_
  obtain ⟨keys, classes, ordered, ran⟩ := stages_items patterns (recipe.shape level) level.key extended
    (Select.item select) fun doc => Select.collected_item select doc _ chosen
  obtain ⟨others, classes', ordered', ran'⟩ := stages_items patterns (recipe.whole.shape level)
    level.key extended id fun doc => rfl
  -- keys do not depend on the form of rows, and so are cut to the same page
  obtain rfl := GroupShape.keys_unique level.descending classes classes' ordered ordered'
  rw [ran, ran']
  have shown : ∃ shown : List Value, ∀ form : Value → Document,
      Pipeline.run patterns (if level.key.level = 0 then recipe.paging else []) (keys.map form) =
        .ok (shown.map form) := by
    by_cases top : level.key.level = 0
    · refine ⟨Paging.page skip take keys, fun form => ?_⟩
      rw [if_pos top, paging, Paging.run_stages, Paging.page_map]
    · exact ⟨keys, fun form => by rw [if_neg top]; rfl⟩
  obtain ⟨shown, cut⟩ := shown
  change Result.Alike _ (Pipeline.run patterns _ (keys.map _)) (Pipeline.run patterns _ (keys.map _))
  rw [cut, show recipe.whole.paging = recipe.paging from rfl, cut]
  exact .ok ⟨rows, extended, shown, reached,
    (level.key.run_stages patterns rows extended).mp computed, rfl, rfl⟩

section Below

variable (origin : Document → Prop)
  (stored : ∀ doc, origin doc → Document.Plain doc ∧ "_id" ∈ doc.keys)
  (cleaner : RowCleaner) (reserved : ∀ name ∈ cleaner.strip, Path.Reserved name)
  (summaries : List Summary)

/-- Every row of a scope is one of the origin, up to the keys that it carries. -/
def Derives (scope : Pipeline) : Prop :=
  ∀ rows, collection.run patterns (recipe.filtered ++ recipe.sort ++ scope) = .ok rows →
    ∀ row ∈ rows, Document.Derived origin cleaner.strip row

/-- A group with selected rows, where each row is selected of one of the origin as it is shown. -/
def SelectsOf (select : List String) : Group → Group → Prop :=
  Group.Selects (Select.row select) fun shown =>
    ∃ doc, origin doc ∧ shown = RowCleaner.shown cleaner.replaceIds doc

include stored reserved in
theorem derived_extended (key : GroupKey) (listed : ∀ name ∈ key.names, name ∈ cleaner.strip)
    (rows extended : List Document)
    (derived : ∀ row ∈ rows, Document.Derived origin cleaner.strip row)
    (computed : rows.mapM key.extend = .ok extended) :
    ∀ doc ∈ extended, Document.Derived origin cleaner.strip doc := by
  intro doc member
  obtain ⟨row, inRows, one⟩ := exists_left ((mapM_ok _ _ _).mp computed) doc member
  exact key.derived_extend cleaner.strip row doc (fun doc start => (stored doc start).1) reserved
    listed (derived row inRows) one

include stored reserved in
theorem derives_keyScope (level : RecipeLevel) (scope : Pipeline) (key : Value)
    (listed : ∀ name ∈ level.key.names, name ∈ cleaner.strip)
    (derives : Derives patterns collection recipe origin cleaner scope) :
    Derives patterns collection recipe origin cleaner (Recipe.keyScope level scope key) := by
  intro rows ran row member
  rw [Recipe.keyScope, ← List.append_assoc, ← List.append_assoc, Collection.run,
    Pipeline.run_append_ok] at ran
  obtain ⟨extended, opened, matched⟩ := ran
  obtain ⟨outer, reached, computed⟩ := (Pipeline.run_append_ok _ _ _ _ _).mp opened
  rw [Pipeline.run_single] at matched
  obtain ⟨_, rfl⟩ := (keepWhere_ok _ _ _).mp matched
  exact derived_extended origin stored cleaner reserved level.key listed outer extended
    (derives outer reached) ((level.key.run_stages patterns outer extended).mp computed) row
    (List.mem_filter.mp member).1

theorem ownGroup_items (level : RecipeLevel) (shape : GroupShape) (docs : List Document)
    (form : Document → Document) (value : Value) (expanded : level.withItems = true)
    (listed : shape.withItems = true) :
    ownGroup level cleaner value (shape.entryOf level.key docs (itemsOf level.key docs form) value) =
      .ok (.ofRows value
        (cleaner.cleanAll ((Grouping.members level.key.carried docs value).map form))) := by
  have spelled : itemsOf level.key docs form value =
      ((Grouping.members level.key.carried docs value).map form).map .object := by
    simp [itemsOf]
  rw [ownGroup, if_pos expanded, GroupShape.entryOf, GroupShape.entry_items _ _ _ _ listed, spelled]
  dsimp only
  rw [cleaner.cleanItems_documents]
  rfl

include names stored reserved in
/-- The rows of a group are selected, where it has rows, and nothing else of it is. -/
theorem ownGroup_alike (level : RecipeLevel) (docs : List Document) (value : Value)
    (derived : ∀ doc ∈ docs, Document.Derived origin cleaner.strip doc) :
    Result.Alike (SelectsOf origin cleaner select)
      (ownGroup level cleaner value ((recipe.shape level).entryOf level.key docs
        (itemsOf level.key docs (Select.item select)) value))
      (ownGroup level cleaner value ((recipe.whole.shape level).entryOf level.key docs
        (itemsOf level.key docs id) value)) := by
  by_cases expanded : level.withItems = true
  · rw [ownGroup_items cleaner level _ docs _ value expanded expanded,
      ownGroup_items cleaner level _ docs _ value expanded expanded, List.map_id]
    refine .ok ?_
    have known : ∀ doc ∈ Grouping.members level.key.carried docs value,
        Document.Derived origin cleaner.strip doc :=
      fun doc member => derived doc (List.mem_filter.mp member).1
    -- a row may be selected after it is cleaned: no selected name is taken away
    have selected : cleaner.cleanAll ((Grouping.members level.key.carried docs value).map
        (Select.item select)) = (cleaner.cleanAll (Grouping.members level.key.carried docs value)).map
          (Select.row select) := by
      rw [RowCleaner.cleanAll, RowCleaner.cleanAll, List.map_map, List.map_map]
      refine List.map_congr_left fun doc member => ?_
      obtain ⟨row, start, behind⟩ := known doc member
      obtain ⟨plain, id⟩ := stored row start
      exact Select.clean_item names row id cleaner doc reserved plain behind
    rw [selected]
    refine Group.selects_ofRows value _ fun shown listed => ?_
    obtain ⟨doc, member, rfl⟩ := List.mem_map.mp listed
    obtain ⟨row, start, behind⟩ := known doc member
    exact ⟨row, start, RowCleaner.clean_behind cleaner row doc reserved (stored row start).1 behind⟩
  -- a group that is not expanded has a count, in which no form of the rows shows
  · have same : (recipe.shape level).entryOf level.key docs
        (itemsOf level.key docs (Select.item select)) value =
          (recipe.whole.shape level).entryOf level.key docs (itemsOf level.key docs id) value :=
      (recipe.shape level).entryOf_congr level.key docs _ _ value fun listed => absurd listed expanded
    rw [same]
    cases read : ownGroup level cleaner value ((recipe.whole.shape level).entryOf level.key docs
        (itemsOf level.key docs id) value) with
    | error fault => exact .error fault
    | ok own =>
        rcases ownGroup_ok cleaner level _ value own read with ⟨listed, _⟩ | ⟨_, number, _, rfl⟩
        · exact absurd listed expanded
        · exact .ok ⟨rfl, fun row member => absurd member List.not_mem_nil⟩

theorem summarized_alike (scope : Pipeline) (own whole : Group)
    (selects : SelectsOf origin cleaner select own whole) :
    Load.Alike (SelectsOf origin cleaner select)
      (summarized (collection.store patterns) recipe summaries scope own)
      (summarized (collection.store patterns) recipe.whole summaries scope whole) := by
  unfold summarized
  by_cases none : summaries.isEmpty = true
  · rw [if_pos none, if_pos none]
    exact alike_pure selects
  · rw [if_neg none, if_neg none]
    refine alike_bind (summarize_alike patterns collection recipe scope summaries) ?_
    rintro summary _ rfl
    exact alike_pure (Group.selects_withSummary own whole summary selects)

include names chosen paging stored reserved in
theorem loadGroups_alike (levels : List RecipeLevel) (scope : Pipeline)
    (listed : ∀ level ∈ levels, ∀ name ∈ level.key.names, name ∈ cleaner.strip)
    (derives : Derives patterns collection recipe origin cleaner scope) :
    Load.Alike (List.Forall₂ (SelectsOf origin cleaner select))
      (loadGroups (collection.store patterns) recipe summaries cleaner levels scope)
      (loadGroups (collection.store patterns) recipe.whole summaries cleaner levels scope) := by
  induction levels generalizing scope with
  | nil =>
      rw [loadGroups_nil, loadGroups_nil]
      exact alike_pure List.Forall₂.nil
  | cons level deeper ih =>
      rw [loadGroups_cons, loadGroups_cons]
      refine alike_bind (alike_send patterns collection (levelStages_alike patterns collection recipe
        chosen skip take paging level scope)) ?_
      rintro _ _ ⟨rows, extended, keys, reached, computed, rfl, rfl⟩
      have own : ∀ name ∈ level.key.names, name ∈ cleaner.strip := listed level List.mem_cons_self
      have derived := derived_extended origin stored cleaner reserved level.key own rows extended
        (derives rows reached) computed
      -- one group after the other, of the same key, and therefore with the same scope
      refine alike_mapM _ _ (List.forall₂_map_left_iff.mpr
        (List.forall₂_map_right_iff.mpr (List.forall₂_same.mpr fun value _ => ?_)))
      refine alike_bind (?_ : Load.Alike (SelectsOf origin cleaner select) _ _)
        fun own whole selects =>
          summarized_alike patterns collection recipe origin cleaner summaries _ own whole selects
      unfold content
      by_cases last : level.last = true
      · rw [if_pos last, if_pos last]
        exact alike_outcome
          (ownGroup_alike recipe names origin stored cleaner reserved level extended value derived)
      · rw [if_neg last, if_neg last]
        have below := ih (Recipe.keyScope level scope value)
          (fun next member => listed next (List.mem_cons_of_mem level member))
          (derives_keyScope patterns collection recipe origin stored cleaner reserved level scope value
            own derives)
        exact alike_map _ _ below fun groups wholes each => Group.selects_ofGroups _ groups wholes each

end Below

end Sides

section Call

variable (patterns : PatternCompiler) (collection : Collection) (request : Request)
  (options : Options)

theorem filtered_sublist (rows kept : List Document)
    (before : collection.run patterns options.before = .ok rows)
    (plain : ∀ row ∈ rows, Document.Plain row)
    (ran : collection.run patterns (Recipe.ofRequest request options).filtered = .ok kept) :
    kept.Sublist rows := by
  obtain ⟨_, again, filtered⟩ := (Pipeline.run_append_ok _ _ _ _ _).mp ran
  obtain rfl := Except.ok.inj (before.symm.trans again)
  change Pipeline.run patterns (Filtering.ofFilter (Search.combine? request.filter
    request.effectiveSearch?) options.offset options.ignoreCase).stages rows = .ok kept at filtered
  unfold Filtering.ofFilter at filtered
  cases compiled : (Search.combine? request.filter request.effectiveSearch?).bind
      (Condition.ofValue? options.ignoreCase) with
  | none =>
      rw [compiled] at filtered
      exact Except.ok.inj filtered ▸ List.Sublist.refl rows
  | some condition =>
      rw [compiled] at filtered
      obtain ⟨_, rfl⟩ :=
        (Filtering.run_condition condition patterns options.offset rows kept plain).mp filtered
      exact List.filter_sublist

theorem run_flatStages : collection.run patterns (Recipe.ofRequest request options).flatStages =
    collection.run patterns (Recipe.ofRequest request options).unshaped >>= fun docs =>
      .ok (docs.map (Select.row request.select)) := by
  have spelled : (Recipe.ofRequest request options).flatStages =
      (Recipe.ofRequest request options).unshaped ++ Select.stages request.select := rfl
  rw [spelled, Collection.run, Pipeline.run_append]
  congr 1
  funext docs
  exact Select.run_stages request.select patterns docs

theorem loadData_list (ungrouped : request.isGrouped = false) :
    Load.Alike (fun data whole => ∃ docs,
        collection.run patterns (Recipe.ofRequest request options).unshaped = .ok docs ∧
        data = .rows (docs.map fun doc =>
          RowCleaner.shown options.replaceIds (Select.row request.select doc)) ∧
        whole = .rows (docs.map (RowCleaner.shown options.replaceIds)))
      (loadData (collection.store patterns) (.ofRequest request options) request options)
      (loadData (collection.store patterns) (.ofRequest request.whole options) request.whole
        options) := by
  rw [loadData_def, loadData_def]
  rw [show request.whole.isGrouped = request.isGrouped from rfl, ungrouped, if_neg (by decide),
    if_neg (by decide)]
  refine alike_map _ _ (?_ : Load.Alike (fun rows wholes => ∃ docs,
    collection.run patterns (Recipe.ofRequest request options).unshaped = .ok docs ∧
      rows = docs.map (Select.row request.select) ∧ wholes = docs) _ _) ?_
  · refine alike_send patterns collection ?_
    rw [run_flatStages, run_flatStages]
    refine alike_after _ fun docs ran => .ok ⟨docs, ran, rfl, ?_⟩
    simp [Request.whole, Select.row_nil]
  · rintro _ docs ⟨_, ran, rfl, rfl⟩
    exact ⟨docs, ran, by rw [RowCleaner.cleanAll, List.map_map]; rfl, rfl⟩

/-- Calls whose data are alike end alike: they ask for the same counts and summaries. -/
theorem load_alike (related : LoadData → LoadData → Prop)
    (data : Load.Alike related
      (loadData (collection.store patterns) (.ofRequest request options) request options)
      (loadData (collection.store patterns) (.ofRequest request.whole options) request.whole
        options)) :
    Load.Alike (fun result whole => related result.data whole.data ∧
        result = { whole with data := result.data })
      (load (collection.store patterns) request options)
      (load (collection.store patterns) request.whole options) := by
  rw [load_def, load_def]
  refine alike_bind data fun data whole known => ?_
  refine alike_bind (loadGroupCount_alike patterns collection (.ofRequest request options) request) ?_
  rintro groupCount _ rfl
  refine alike_bind (loadTotalCount_alike patterns collection (.ofRequest request options) request) ?_
  rintro totalCount _ rfl
  refine alike_bind (loadTotalSummary_alike patterns collection (.ofRequest request options) request
    totalCount) ?_
  rintro summary _ rfl
  exact alike_pure ⟨known, rfl⟩

variable (stored : ∀ doc, collection.Offers patterns options doc →
    Document.Plain doc ∧ "_id" ∈ doc.keys)

include stored in
theorem sorted_offered (docs : List Document)
    (ran : collection.run patterns ((Recipe.ofRequest request options).filtered ++
      (Recipe.ofRequest request options).sort) = .ok docs) :
    ∀ doc ∈ docs, collection.Offers patterns options doc := by
  obtain ⟨kept, filtered, sorted⟩ := (Pipeline.run_append_ok _ _ _ _ _).mp ran
  obtain ⟨rows, before, _⟩ := (Pipeline.run_append_ok _ _ _ _ _).mp filtered
  obtain ⟨keys, sorts⟩ := SortKey.stages_sort request.sort
  obtain rfl := Except.ok.inj ((sorts patterns kept).symm.trans sorted)
  have among := filtered_sublist patterns collection request options rows kept before
    (fun row member => (stored row ⟨rows, before, member⟩).1) filtered
  exact fun doc member =>
    ⟨rows, before, among.subset ((Sorting.sort_perm keys kept).mem_iff.mp member)⟩

include stored in
theorem unshaped_offered (docs : List Document)
    (ran : collection.run patterns (Recipe.ofRequest request options).unshaped = .ok docs) :
    ∀ doc ∈ docs, collection.Offers patterns options doc := by
  obtain ⟨sorted, start, paged⟩ := (Pipeline.run_append_ok _ _ _ _ _).mp ran
  obtain rfl := Except.ok.inj ((Paging.run_stages patterns _ _ sorted).symm.trans paged)
  exact fun doc member => sorted_offered patterns collection request options stored sorted start doc
    ((Paging.page_sublist _ _ sorted).subset member)

variable (names : Select.Names request.select)

include stored names in
/-- A call differs from the call for whole rows in its rows, which are selected of stored ones. -/
theorem loadData_alike : Load.Alike (fun data whole =>
      data = whole.onRows (Select.row request.select) ∧ ∀ shown ∈ whole.shownRows,
        ∃ doc, collection.Offers patterns options doc ∧
          shown = RowCleaner.shown options.replaceIds doc)
    (loadData (collection.store patterns) (.ofRequest request options) request options)
    (loadData (collection.store patterns) (.ofRequest request.whole options) request.whole
      options) := by
  by_cases grouped : request.isGrouped = true
  -- groups collect their rows in one form or the other
  · rw [loadData_def, loadData_def]
    rw [show request.whole.isGrouped = request.isGrouped from rfl, if_pos grouped, if_pos grouped]
    refine alike_map LoadData.groups LoadData.groups (loadGroups_alike patterns collection _ names rfl
      request.skip request.take rfl (collection.Offers patterns options) stored
      ((Recipe.ofRequest request options).cleaner options)
      ((Recipe.ofRequest request options).cleaner_reserved options) request.groupSummary _ []
      ((Recipe.ofRequest request options).cleaner_listed options) ?_) ?_
    · intro rows ran row member
      rw [List.append_nil] at ran
      exact ⟨row, sorted_offered patterns collection request options stored rows ran row member,
        Document.behind_self _ row⟩
    · intro groups wholes each
      obtain ⟨rfl, known⟩ := Group.selects_all groups wholes each
      exact ⟨rfl, known⟩
  -- a list projects its rows, or leaves them whole
  · refine alike_imp (loadData_list patterns collection request options (by simpa using grouped)) ?_
    rintro _ _ ⟨docs, ran, rfl, rfl⟩
    have offered := unshaped_offered patterns collection request options stored docs ran
    constructor
    · rw [LoadData.onRows, List.map_map]
      refine congrArg LoadData.rows (List.map_congr_left fun doc member => ?_)
      obtain ⟨_, id⟩ := stored doc (offered doc member)
      rw [names.row_eq_item doc id]
      exact Select.shown_item names doc id options.replaceIds
    · intro shown listed
      obtain ⟨doc, member, rfl⟩ := List.mem_map.mp listed
      exact ⟨doc, offered doc member, rfl⟩

end Call

end Load

namespace LoadResult

variable (patterns : PatternCompiler) (collection : Collection) (request : Request)
  (options : Options)

/-- A list whose rows keep their ids, with selected paths none of which leads into another one or into
`_id`, is loaded where it is loaded with whole rows. Where a path besides `_id` is selected, each row
shows its document by the `_id` and by the selected paths, and nothing else of it. Where `_id` is
selected alone, the rows are the whole documents. -/
theorem ofRequest_shows (ungrouped : request.group = []) (raw : options.replaceIds = false)
    (independent : Select.Independent request.select) :
    ((∃ result, (ofRequest (collection.store patterns) request options).1 = .ok result) ↔
      ∃ whole, (ofRequest (collection.store patterns) request.whole options).1 = .ok whole) ∧
    ∀ result, (ofRequest (collection.store patterns) request options).1 = .ok result →
      ∃ docs rows,
        collection.run patterns (options.before ++
          (Recipe.ofRequest request options).filtering.stages ++ SortKey.stages request.sort ++
            Paging.stages request.skip request.take) = .ok docs ∧
        result.rows? = some rows ∧
        ((∃ path ∈ request.select, path ≠ "_id") →
          List.Forall₂ (Select.Shows request.select) docs rows) ∧
        ((∀ path ∈ request.select, path = "_id") → rows = docs) := by
  have flat : request.isGrouped = false := by simp [Request.isGrouped, ungrouped]
  have alike := (Load.load_alike patterns collection request options _
    (Load.loadData_list patterns collection request options flat)
      (Load.start options) (Load.start options) rfl).1
  change Alike _ (ofRequest (collection.store patterns) request options).1
    (ofRequest (collection.store patterns) request.whole options).1 at alike
  refine ⟨alike_succeeds alike, fun result loaded => ?_⟩
  obtain ⟨whole, _, ⟨docs, ran, data, _⟩, _⟩ := alike_ok alike result loaded
  have shown : result.rows? = some (docs.map (Select.row request.select)) := by
    rw [rows?, data, raw]
    rfl
  refine ⟨docs, _, ran, shown, fun beside => ?_, fun alone => ?_⟩
  · refine List.forall₂_map_right_iff.mpr (List.forall₂_same.mpr fun doc _ => ?_)
    exact Select.row_shows doc independent beside
  · have same : Select.row request.select = id := funext fun doc => if_pos alone
    rw [same, List.map_id]

/-- Books with native and with other ids, one of them without a title. -/
def titled : Collection :=
  .ofDocuments
    [[("_id", .single "$oid" (.string "65a000000000000000000001")),
        ("title", .object [("en", .string "Waves"), ("fr", .string "Vagues"), ("no", .null)]),
        ("shelf", .string "low"), ("pages", .int 90)],
      [("shelf", .string "high"), ("_id", .int 7), ("title", .string "Dunes")],
      [("pages", .int 12)]]

/-- Paths that share their first segment, and `_id` among them. -/
def twoTitles : Request :=
  { select := ["title.en", "_id", "shelf", "title.fr", "title.en"], skip := some 0 }

theorem ofRequest_shows_titled :
    ∃ result docs rows,
      (ofRequest (titled.store Pattern.compile) twoTitles { replaceIds := false }).1 = .ok result ∧
      titled.documents = docs ∧ result.rows? = some rows ∧
      List.Forall₂ (Select.Shows twoTitles.select) docs rows := by
  have independent : Select.Independent twoTitles.select := ⟨by decide, by decide, by decide⟩
  obtain ⟨result, loaded, _⟩ := (toOption_map_ok (ofRequest (titled.store Pattern.compile) twoTitles
    { replaceIds := false }).1 (fun _ => true) true).mp (by decide +kernel)
  obtain ⟨_, each⟩ :=
    ofRequest_shows Pattern.compile titled twoTitles { replaceIds := false } rfl rfl independent
  obtain ⟨docs, rows, ran, shown, several, _⟩ := each result loaded
  exact ⟨result, docs, rows, loaded, Except.ok.inj ran, shown, several (by decide)⟩

/-- Whether a list shows the selected fields of its documents and nothing else. -/
def ShowsSelected : Prop :=
  ∀ result, (ofRequest (collection.store patterns) request options).1 = .ok result →
    ∃ docs rows,
      collection.run patterns (options.before ++
        (Recipe.ofRequest request options).filtering.stages ++ SortKey.stages request.sort ++
          Paging.stages request.skip request.take) = .ok docs ∧
      result.rows? = some rows ∧ List.Forall₂ (Select.Shows request.select) docs rows

/-- A document with a field besides its `_id`. -/
def ticket : Document := [("_id", .int 1), ("price", .object [("net", .int 2)]), ("seat", .int 0)]

/-- An `_id` that is selected alone brings the whole document with it. -/
theorem ofRequest_shows_fails :
    Select.Independent ["_id"] ∧
      ¬ ShowsSelected Pattern.compile (.ofDocuments [ticket]) { select := ["_id"] }
        { replaceIds := false } := by
  refine ⟨⟨by decide, by decide, by decide⟩, fun shows => ?_⟩
  obtain ⟨result, loaded, whole⟩ := (toOption_map_ok (ofRequest ((Collection.ofDocuments
    [ticket]).store Pattern.compile) { select := ["_id"] } { replaceIds := false }).1 rows?
      (some [ticket])).mp (by decide +kernel)
  obtain ⟨docs, rows, ran, shown, each⟩ := shows result loaded
  obtain rfl : [ticket] = docs := Except.ok.inj ran
  obtain rfl := Option.some.inj (whole.symm.trans shown)
  have one := (List.forall₂_cons.mp each).1
  rcases (one.fields "seat").mp (by decide) with ⟨id, _⟩ | ⟨path, listed, first⟩
  · exact absurd id (by decide)
  · obtain rfl := List.mem_singleton.mp listed
    exact absurd first (by decide)

/-- Where stored names are selected, not `_id` alone, a call differs from the call for whole rows in
its rows and in nothing else. Each row, in a list as in a group, is the same selection of a stored
document as it is shown. -/
theorem ofRequest_selected (names : Select.Names request.select)
    (stored : ∀ doc, collection.Offers patterns options doc →
      Document.Plain doc ∧ "_id" ∈ doc.keys) :
    (ofRequest (collection.store patterns) request options).1 =
      (ofRequest (collection.store patterns) request.whole options).1.map
        (onRows (Select.row request.select)) ∧
    ∀ result, (ofRequest (collection.store patterns) request options).1 = .ok result →
      ∀ shown ∈ result.data.shownRows, ∃ doc, collection.Offers patterns options doc ∧
        shown = Select.row request.select (RowCleaner.shown options.replaceIds doc) := by
  have data := Load.loadData_alike patterns collection request options stored names
  have alike := (Load.load_alike patterns collection request options _ data (Load.start options)
    (Load.start options) rfl).1
  change Alike _ (ofRequest (collection.store patterns) request options).1
    (ofRequest (collection.store patterns) request.whole options).1 at alike
  constructor
  · refine alike_image (onRows (Select.row request.select)) (alike_imp alike ?_)
    rintro result whole ⟨⟨same, _⟩, rest⟩
    rw [rest, same]
    rfl
  · intro result loaded shown listed
    obtain ⟨whole, _, ⟨same, known⟩, _⟩ := alike_ok alike result loaded
    rw [same, LoadData.shownRows_onRows] at listed
    obtain ⟨row, member, rfl⟩ := List.mem_map.mp listed
    obtain ⟨doc, offered, rfl⟩ := known row member
    exact ⟨doc, offered, rfl⟩

/-- Bookings on two days. -/
def bookings : Collection :=
  .ofDocuments
    [[("_id", .single "$oid" (.string "65a000000000000000000002")), ("day", .int 3),
        ("seat", .string "A1"), ("price", .int 20)],
      [("day", .int 4), ("_id", .int 8), ("price", .int 30)],
      [("seat", .string "B2"), ("day", .int 3), ("_id", .null)]]

/-- Seats with their ids, for each day. -/
def seatsByDay : Request :=
  { group := [{ selector := "day", descending := true, expanded := true }]
    select := ["seat", "_id", "seat"]
    totalCount := true }

def seatRow (id seat : Value) : Document := [("_id", id), ("seat", seat)]

theorem ofRequest_selected_bookings :
    (∃ result, (ofRequest (bookings.store Pattern.compile) seatsByDay {}).1 = .ok result ∧
      (ofRequest (bookings.store Pattern.compile) seatsByDay.whole {}).1.map
        (onRows (Select.row seatsByDay.select)) = .ok result ∧
      result.groups.map Group.rows? = [some [seatRow (.int 8) .null],
        some [seatRow (.string "65a000000000000000000002") (.string "A1"),
          seatRow .null (.string "B2")]] ∧
      ∀ shown ∈ result.data.shownRows, ∃ doc ∈ bookings.documents,
        shown = Select.row seatsByDay.select (RowCleaner.shown true doc)) ∧
    ∃ result, (ofRequest (bookings.store Pattern.compile) { seatsByDay with group := [] } {}).1 =
        .ok result ∧
      (ofRequest (bookings.store Pattern.compile) { seatsByDay with group := [] }.whole {}).1.map
        (onRows (Select.row seatsByDay.select)) = .ok result ∧
      result.rows? = some [seatRow (.string "65a000000000000000000002") (.string "A1"),
        seatRow (.int 8) .null, seatRow .null (.string "B2")] := by
  have names : Select.Names seatsByDay.select := ⟨by decide, by decide, by decide, by decide⟩
  have offered : ∀ doc, bookings.Offers Pattern.compile {} doc → doc ∈ bookings.documents := by
    rintro doc ⟨rows, ran, member⟩
    obtain rfl := Except.ok.inj ran
    exact member
  have known : ∀ doc ∈ bookings.documents, Document.Plain doc ∧ "_id" ∈ doc.keys := by decide
  have stored : ∀ doc, bookings.Offers Pattern.compile {} doc →
      Document.Plain doc ∧ "_id" ∈ doc.keys := fun doc start => known doc (offered doc start)
  constructor
  · obtain ⟨result, loaded, shown⟩ := (toOption_map_ok (ofRequest (bookings.store Pattern.compile)
      seatsByDay {}).1 (fun result => result.groups.map Group.rows?)
        [some [seatRow (.int 8) .null], some [seatRow (.string "65a000000000000000000002")
          (.string "A1"), seatRow .null (.string "B2")]]).mp (by decide +kernel)
    obtain ⟨same, rows⟩ := ofRequest_selected Pattern.compile bookings seatsByDay {} names stored
    refine ⟨result, loaded, same.symm.trans loaded, shown, fun row listed => ?_⟩
    obtain ⟨doc, start, selected⟩ := rows result loaded row listed
    exact ⟨doc, offered doc start, selected⟩
  · obtain ⟨result, loaded, shown⟩ := (toOption_map_ok (ofRequest (bookings.store Pattern.compile)
      { seatsByDay with group := [] } {}).1 rows?
        (some [seatRow (.string "65a000000000000000000002") (.string "A1"),
          seatRow (.int 8) .null, seatRow .null (.string "B2")])).mp (by decide +kernel)
    obtain ⟨same, _⟩ := ofRequest_selected Pattern.compile bookings { seatsByDay with group := [] } {}
      names stored
    exact ⟨result, loaded, same.symm.trans loaded, shown⟩

/-- Whether a document that is alone in its collection is shown the same in a list and in a group, up
to the order of its fields. -/
def ShowsAlike (doc : Document) (level : GroupLevel) (select : List String) : Prop :=
  ∀ flat grouped row item,
    (ofRequest ((Collection.ofDocuments [doc]).store patterns) { select := select } {}).1 =
      .ok flat →
    (ofRequest ((Collection.ofDocuments [doc]).store patterns)
      { group := [level], select := select } {}).1 = .ok grouped →
    flat.rows? = some [row] → grouped.groups.map Group.rows? = [some [item]] → row.Perm item

def bySeat : GroupLevel := { selector := "seat", expanded := true }

/-- A path with a dot names a nested field in a list and a field with a dot in a group, and an `_id`
that is selected alone brings the whole document with it in a list only. -/
theorem ofRequest_selected_fails :
    (ticket.Plain ∧ "_id" ∈ ticket.keys) ∧
      ¬ ShowsAlike Pattern.compile ticket bySeat ["price.net"] ∧
      ¬ ShowsAlike Pattern.compile ticket bySeat ["_id"] := by
  have differs (select : List String) (row item : Document) (apart : ¬ row.Perm item)
      (flat : (ofRequest ((Collection.ofDocuments [ticket]).store Pattern.compile)
        { select := select } {}).1.toOption.map rows? = some (some [row]))
      (grouped : (ofRequest ((Collection.ofDocuments [ticket]).store Pattern.compile)
        { group := [bySeat], select := select } {}).1.toOption.map
          (fun result => result.groups.map Group.rows?) = some [some [item]]) :
      ¬ ShowsAlike Pattern.compile ticket bySeat select := by
    intro alike
    obtain ⟨list, loaded, shown⟩ := (toOption_map_ok _ _ _).mp flat
    obtain ⟨tree, loaded', shown'⟩ := (toOption_map_ok _ _ _).mp grouped
    exact apart (alike list tree row item loaded loaded' shown shown')
  refine ⟨⟨by decide, by decide⟩, ?_, ?_⟩
  · exact differs _ [("_id", .int 1), ("price", .object [("net", .int 2)])]
      [("_id", .int 1), ("price.net", .int 2)] (by decide) (by decide +kernel) (by decide +kernel)
  · exact differs _ ticket [("_id", .int 1)] (by decide) (by decide +kernel) (by decide +kernel)

end LoadResult

end DataGrid
