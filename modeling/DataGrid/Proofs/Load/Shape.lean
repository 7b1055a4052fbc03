import DataGrid.Proofs.Load.Gathering
import DataGrid.Proofs.Load.Slots
import DataGrid.Proofs.Value.WellFormed
/-!
The shape of an answer, whatever a store answers. A grouped request has a tree as deep as its levels:
groups counted by the groups below them on all levels but the last, and on the last one rows, counted
and free of computed fields, or no items at all. Neither the shape nor anything else of a call depends
on whether an inner level is expanded, and no level behind the last one is ever looked at.
-/
namespace DataGrid

open Result

/-- A store whose documents, like all that it can be given, have no key twice. -/
def Store.WellFormed (store : Store) : Prop :=
  ∀ sent pipeline docs, store sent pipeline = .ok docs →
    ∀ doc ∈ docs, (Value.object doc).isWellFormed = true

namespace RowCleaner

variable (cleaner : RowCleaner)

theorem clean_free (row : Document) (unique : row.keys.Nodup) (kept : "_id" ∉ cleaner.strip) :
    ∀ name ∈ cleaner.strip, name ∉ (cleaner.clean row).keys := by
  intro name listed stored
  have gone : name ∉ Document.keys (cleaner.strip.foldl Document.remove row) := by
    intro left
    obtain ⟨field, inRow, rfl⟩ := List.mem_map.mp left
    have filtered := (Document.removeAll_perm cleaner.strip row unique).mem_iff.mp inRow
    exact absurd listed (by simpa using (List.mem_filter.mp filtered).2)
  unfold clean replaceId at stored
  dsimp only at stored
  split at stored
  · split at stored
    · rcases (Document.mem_keys_put _ _ _ _).mp stored with old | rfl
      · exact gone old
      · exact kept listed
    · exact gone stored
  · exact gone stored

theorem cleanItems_free (kept : "_id" ∉ cleaner.strip) (items : Value)
    (whole : items.isWellFormed = true) (rows : List Document)
    (cleaned : cleaner.cleanItems items = .ok rows) :
    ∀ row ∈ rows, ∀ name ∈ cleaner.strip, name ∉ row.keys := by
  intro row member
  cases items with
  | array items =>
      obtain ⟨item, inItems, read⟩ := exists_left ((mapM_ok _ _ _).mp cleaned) row member
      rw [Value.isWellFormed] at whole
      have own := Value.items_wellFormed items whole item inItems
      cases item with
      | object fields =>
          rw [← Except.ok.inj read]
          exact cleaner.clean_free fields (Value.wellFormed_keys fields own) kept
      | _ => contradiction
  | _ => contradiction

end RowCleaner

namespace GroupLevel

/-- The same levels, of which none but the last is expanded. -/
def lastExpanded : List GroupLevel → List GroupLevel
  | [] => []
  | [level] => [level]
  | level :: next :: deeper => { level with expanded := false } :: lastExpanded (next :: deeper)

theorem lastExpanded_eq_nil (levels : List GroupLevel) : lastExpanded levels = [] ↔ levels = [] := by
  match levels with
  | [] => simp [lastExpanded]
  | [level] => simp [lastExpanded]
  | level :: next :: deeper => simp [lastExpanded]

end GroupLevel

namespace RecipeLevel

theorem ofLevels_lastExpanded (offset : Int) (index : Nat) (levels : List GroupLevel) :
    ofLevels offset index (GroupLevel.lastExpanded levels) = ofLevels offset index levels := by
  induction levels generalizing index with
  | nil => rfl
  | cons level deeper ih =>
      cases deeper with
      | nil => rfl
      | cons next deeper =>
          rw [GroupLevel.lastExpanded, ofLevels, ih]
          cases deeper <;> rfl

end RecipeLevel

namespace Group

/-- A group as deep as some levels. A summary, where there is one, has a value for each that is asked
for. On all levels but the last the group is counted by the groups below it. On the last one it is
counted by its rows, which have none of the computed fields, or has no items. -/
def HasShape (names : List String) (width : Nat) : List GroupLevel → Group → Prop
  | [], _ => False
  | [level], group =>
      (∀ values, group.summary = some values → values.length = width) ∧ group.groups? = none ∧
        if level.expanded then
          ∃ rows, group.rows? = some rows ∧ group.size = rows.length ∧
            ∀ row ∈ rows, ∀ name ∈ names, name ∉ row.keys
        else group.rows? = none
  | _ :: next :: deeper, group =>
      (∀ values, group.summary = some values → values.length = width) ∧ group.rows? = none ∧
        ∃ items, group.groups? = some items ∧ group.size = items.length ∧
          ∀ item ∈ items, HasShape names width (next :: deeper) item

theorem areConsistent_iff (groups : List Group) :
    areConsistent groups = true ↔ ∀ group ∈ groups, isConsistent group = true := by
  induction groups with
  | nil => simp [areConsistent]
  | cons group rest ih => simp [areConsistent, ih]

theorem hasShape_consistent (names : List String) (width : Nat) (levels : List GroupLevel)
    (group : Group) (shaped : HasShape names width levels group) : isConsistent group = true := by
  induction levels generalizing group with
  | nil => exact shaped.elim
  | cons level deeper ih =>
      -- the deepest level holds rows or a count, every other one groups
      cases deeper with
      | nil =>
          obtain ⟨_, bare, content⟩ := shaped
          cases group with
          | leaf key number summary => rfl
          | groups key number items summary => contradiction
          | rows key number items summary =>
              split at content
              · obtain ⟨rows, same, counted, _⟩ := content
                obtain rfl := Option.some.inj same
                rw [isConsistent]
                exact beq_iff_eq.mpr counted.symm
              · contradiction
      | cons next deeper =>
          obtain ⟨_, _, items, same, counted, each⟩ := shaped
          cases group with
          | leaf key number summary => contradiction
          | rows key number items summary => contradiction
          | groups key number children summary =>
              obtain rfl := Option.some.inj same
              rw [isConsistent, Bool.and_eq_true]
              exact ⟨beq_iff_eq.mpr counted.symm,
                (areConsistent_iff children).mpr fun child member => ih child (each child member)⟩

mutual

theorem postorder_consistent : ∀ group : Group, isConsistent group = true →
    ∀ node ∈ postorder group, isConsistent node = true
  | .leaf _ _ _, whole, node, member => by
      rw [List.mem_singleton.mp member]
      exact whole
  | .rows _ _ _ _, whole, node, member => by
      rw [List.mem_singleton.mp member]
      exact whole
  | .groups _ _ items _, whole, node, member => by
      rcases List.mem_append.mp member with inside | own
      · rw [isConsistent, Bool.and_eq_true] at whole
        exact postorders_consistent items whole.2 node inside
      · rw [List.mem_singleton.mp own]
        exact whole

theorem postorders_consistent : ∀ groups : List Group, areConsistent groups = true →
    ∀ node ∈ postorders groups, isConsistent node = true
  | [], _, node, member => by simp [postorders] at member
  | group :: rest, whole, node, member => by
      rw [areConsistent, Bool.and_eq_true] at whole
      rcases List.mem_append.mp member with first | later
      · exact postorder_consistent group whole.1 node first
      · exact postorders_consistent rest whole.2 node later

end

end Group

namespace Load

variable (store : Store) (recipe : Recipe) (summaries : List Summary) (cleaner : RowCleaner)

section Numbered

variable (beyond : Load (List Group))

/-- Loading of groups by the numbers of their levels. What happens behind the last level is left to a
caller. -/
def groupsFrom (levels : List RecipeLevel) (number : Nat) (scope : Pipeline) : Load (List Group) :=
  if inside : number < levels.length then
    let level := levels[number]
    send store (recipe.levelStages level scope) >>= fun entries => entries.mapM fun entry =>
      let inner := Recipe.keyScope level scope (entryKey entry)
      content level cleaner entry (groupsFrom levels (number + 1) inner) >>=
        summarized store recipe summaries inner
  else beyond
termination_by levels.length - number

theorem groupsFrom_cons (front : List RecipeLevel) (level : RecipeLevel)
    (deeper : List RecipeLevel) (scope : Pipeline) :
    groupsFrom store recipe summaries cleaner beyond (front ++ level :: deeper) front.length scope =
      send store (recipe.levelStages level scope) >>= fun entries => entries.mapM fun entry =>
        content level cleaner entry (groupsFrom store recipe summaries cleaner beyond
          (front ++ level :: deeper) (front.length + 1)
            (Recipe.keyScope level scope (entryKey entry))) >>=
          summarized store recipe summaries (Recipe.keyScope level scope (entryKey entry)) := by
  have inside : front.length < (front ++ level :: deeper).length := by simp
  have here : (front ++ level :: deeper)[front.length] = level := by simp
  rw [groupsFrom, dif_pos inside]
  simp only [here]

/-- The levels of a request are looked up by their numbers, and no number behind the last is. -/
theorem groupsFrom_ofLevels (offset : Int) (level : GroupLevel) (deeper : List GroupLevel)
    (front : List RecipeLevel) (number : Nat) (scope : Pipeline) :
    groupsFrom store recipe summaries cleaner beyond
        (front ++ RecipeLevel.ofLevels offset number (level :: deeper)) front.length scope =
      loadGroups store recipe summaries cleaner
        (RecipeLevel.ofLevels offset number (level :: deeper)) scope := by
  induction deeper generalizing level front number scope with
  | nil =>
      rw [RecipeLevel.ofLevels, groupsFrom_cons, loadGroups_cons]
      rfl
  | cons next deeper ih =>
      rw [RecipeLevel.ofLevels]
      generalize RecipeLevel.mk _ _ _ _ = head
      have longer : front.length + 1 = (front ++ [head]).length := by simp
      rw [groupsFrom_cons, loadGroups_cons]
      congr 1
      funext entries
      congr 1
      funext entry
      rw [List.append_cons, longer, ih]
      rfl

end Numbered

section Shaping

theorem summarize_width (scope : Pipeline) (before after : Session) (found : Option (List Value))
    (ran : run (summarize store recipe scope summaries) before = (.ok found, after))
    (values : List Value) (summed : found = some values) : values.length = summaries.length := by
  rcases summarize_ok _ _ _ _ _ _ _ ran with ⟨_, rfl, _⟩ | ⟨_, docs, _, _, rfl, _⟩
  · contradiction
  · obtain ⟨doc, _, rfl⟩ := Option.map_eq_some_iff.mp summed
    exact List.length_map _

variable (kept : "_id" ∉ cleaner.strip) (names : List String)
  (listed : ∀ name ∈ names, name ∈ cleaner.strip)
include kept listed

/-- What an entry of the last level shows: its rows where they are asked for, and no items else. -/
theorem ownGroup_content (level : RecipeLevel) (entry : Document)
    (whole : (Value.object entry).isWellFormed = true) (key : Value) (own : Group)
    (read : ownGroup level cleaner key entry = .ok own) :
    if level.withItems then
      ∃ rows, own.rows? = some rows ∧ own.size = rows.length ∧
        ∀ row ∈ rows, ∀ name ∈ names, name ∉ row.keys
    else own.rows? = none := by
  rcases ownGroup_ok cleaner level entry key own read with
    ⟨expanded, items, rows, stored, cleaned, rfl⟩ | ⟨counted, number, _, rfl⟩
  · rw [if_pos expanded]
    have free := cleaner.cleanItems_free kept items
      (Value.wellFormed_get? entry whole "items" items stored) rows cleaned
    exact ⟨rows, rfl, rfl, fun row member name known => free row member name (listed name known)⟩
  · rw [counted, if_neg (by decide)]
    rfl

variable (wellFormed : store.WellFormed)
include wellFormed

theorem loadGroups_hasShape (offset : Int) (levels : List GroupLevel) (index : Nat)
    (scope : Pipeline) (groups : List Group)
    (returned : Returns (loadGroups store recipe summaries cleaner
      (RecipeLevel.ofLevels offset index levels) scope) groups) :
    ∀ group ∈ groups, Group.HasShape names summaries.length levels group := by
  induction levels generalizing index scope groups with
  | nil =>
      rw [RecipeLevel.ofLevels, loadGroups_nil] at returned
      rw [returns_pure _ _ returned]
      simp
  | cons level deeper ih =>
      rw [RecipeLevel.ofLevels, loadGroups_cons] at returned
      obtain ⟨entries, ⟨start, later, sent⟩, mapped⟩ := returns_bind _ _ _ returned
      have answered := ((run_send_ok _ _ _ _ _).mp sent).1
      intro group member
      obtain ⟨entry, inEntries, before, after, ran⟩ :=
        exists_left (returns_mapM _ _ _ mapped) group member
      obtain ⟨_, middle, content, summed⟩ := entryGroup_ok _ _ _ _ _ _ _ _ _ _ _ ran
      have width (values : List Value) (found : group.summary = some values) :
          values.length = summaries.length := by
        rcases summed with ⟨_, none, _⟩ | ⟨_, sent⟩
        · rw [none] at found
          contradiction
        · exact summarize_width store recipe summaries _ _ _ _ sent values found
      -- a group of the last level is read from its entry, whatever is in it, and the others are made
      -- of the groups below them
      cases deeper with
      | nil =>
          rcases content with ⟨_, _, alone, own, read, size, rows⟩ | ⟨inner, _⟩
          · rw [Group.HasShape, size, rows]
            exact ⟨width, alone, ownGroup_content cleaner kept names listed _ entry
              (wellFormed _ _ entries answered entry inEntries) _ own read⟩
          · contradiction
      | cons next deeper =>
          rcases content with ⟨last, _⟩ | ⟨_, items, loaded, children, size, none⟩
          · contradiction
          · exact ⟨width, none, items, children, size, ih (index + 1) _ items ⟨_, _, loaded⟩⟩

end Shaping

end Load

namespace LoadResult

section Shaping

variable (store : Store) (request : Request) (options : Options)

/-- A call does not depend on whether an inner level is expanded. -/
theorem ofRequest_lastExpanded (levels : List GroupLevel)
    (same : GroupLevel.lastExpanded levels = GroupLevel.lastExpanded request.group) :
    ofRequest store { request with group := levels } options = ofRequest store request options := by
  -- the levels of a request are seen through its recipe alone, which keeps the last one's choice only
  have compiled : RecipeLevel.ofLevels options.offset 0 levels =
      RecipeLevel.ofLevels options.offset 0 request.group := by
    rw [← RecipeLevel.ofLevels_lastExpanded, same, RecipeLevel.ofLevels_lastExpanded]
  have recipes : Recipe.ofRequest { request with group := levels } options =
      Recipe.ofRequest request options := by
    change { Recipe.ofRequest request options with
      levels := RecipeLevel.ofLevels options.offset 0 levels } = _
    rw [compiled]
    rfl
  have grouped : Request.isGrouped { request with group := levels } = request.isGrouped := by
    have empty : levels = [] ↔ request.group = [] := by
      rw [← GroupLevel.lastExpanded_eq_nil, same, GroupLevel.lastExpanded_eq_nil]
    rw [Request.isGrouped, Request.isGrouped, Bool.eq_iff_iff]
    simp [empty]
  have loads : Load.load store { request with group := levels } options =
      Load.load store request options := by
    simp only [Load.load_def, Load.loadData_def, recipes, grouped]
    rfl
  rw [ofRequest, ofRequest, loads]

/-- The shape of the answer to a grouped request, over a store that answers with anything: a tree as
deep as the levels of the request, in which all counts and items agree. Whether an inner level is
expanded makes no difference, and no level behind the last one is looked up. -/
theorem ofRequest_hasShape (grouped : request.group ≠ []) (wellFormed : store.WellFormed) :
    (∀ result, (ofRequest store request options).1 = .ok result →
      ∃ groups, result.data = .groups groups ∧
        (∀ group ∈ groups, Group.HasShape (Recipe.ofRequest request options).keyNames
          request.groupSummary.length request.group group) ∧
        ∀ node ∈ Group.postorders groups, node.isConsistent = true) ∧
    (∀ levels, GroupLevel.lastExpanded levels = GroupLevel.lastExpanded request.group →
      ofRequest store { request with group := levels } options = ofRequest store request options) ∧
    ∀ beyond, Load.groupsFrom store (.ofRequest request options) request.groupSummary
        ((Recipe.ofRequest request options).cleaner options) beyond
          (Recipe.ofRequest request options).levels 0 [] =
      Load.loadGroups store (.ofRequest request options) request.groupSummary
        ((Recipe.ofRequest request options).cleaner options) (Recipe.ofRequest request options).levels
          [] := by
  refine ⟨?_, ofRequest_lastExpanded store request options, ?_⟩
  · intro result loaded
    obtain ⟨data, _, _⟩ := Load.returns_load store request options result loaded
    obtain ⟨groups, isGroups, returned⟩ := Load.returns_groups store request options grouped _ data
    have kept : "_id" ∉ ((Recipe.ofRequest request options).cleaner options).strip := fun member =>
      absurd (Recipe.cleaner_reserved _ options "_id" member) (by decide)
    have shaped := Load.loadGroups_hasShape store _ request.groupSummary _ kept
      (Recipe.ofRequest request options).keyNames
      (fun name member => (RowCleaner.mem_stripping _ _ name).mpr member) wellFormed options.offset
      request.group 0 [] groups returned
    refine ⟨groups, isGroups, shaped, Group.postorders_consistent groups ?_⟩
    exact (Group.areConsistent_iff groups).mpr fun group member =>
      Group.hasShape_consistent _ _ _ group (shaped group member)
  · intro beyond
    obtain ⟨level, deeper, levels⟩ := List.exists_cons_of_ne_nil grouped
    have compiled : (Recipe.ofRequest request options).levels =
      RecipeLevel.ofLevels options.offset 0 (level :: deeper) := levels ▸ rfl
    rw [compiled]
    exact Load.groupsFrom_ofLevels store _ _ _ beyond options.offset level deeper [] 0 []

end Shaping

/-- A store that answers by a list, whatever it is asked. -/
def scripted (answers : List (List Document)) : Store :=
  fun sent _ => .ok (answers.getD sent.length [])

theorem scripted_wellFormed (answers : List (List Document))
    (whole : ∀ docs ∈ answers, ∀ doc ∈ docs, (Value.object doc).isWellFormed = true) :
    (scripted answers).WellFormed := by
  intro sent pipeline docs answer doc member
  obtain rfl := Except.ok.inj answer
  rw [List.getD_eq_getElem?_getD] at member
  cases found : answers[sent.length]? with
  | none => simp [found] at member
  | some docs =>
      rw [found, Option.getD_some] at member
      exact whole docs (List.mem_of_getElem? found) doc member

/-- Two entries for the cities, of which the first has a device and a summary, then an empty answer to
the summary of the first, and nothing below the second, which has no key. -/
def oddAnswers : List (List Document) :=
  [[[("key", .string "Oslo"), ("count", .string "many")], []],
    [[("key", .null), ("count", .int 7),
      ("items", .array [.object [("_id", .int 1), ("___group_key_1", .null), ("n", .int 2)]])]],
    [[("___count", .double .zero)], [("extra", .null)]],
    [], []]

def byCityAndDevice : Request :=
  { group := [{ selector := "city", expanded := true }, { selector := "device", expanded := true }]
    groupSummary := [⟨"count", none⟩, ⟨"sum", some "n"⟩] }

theorem ofRequest_hasShape_odd :
    ∃ result groups,
      (ofRequest (scripted oddAnswers) byCityAndDevice {}).1 = .ok result ∧
      result.data = .groups groups ∧ groups.map Group.size = [1, 0] ∧
      (∀ group ∈ groups, Group.HasShape (Recipe.ofRequest byCityAndDevice {}).keyNames 2
        byCityAndDevice.group group) ∧
      (∀ node ∈ Group.postorders groups, node.isConsistent = true) ∧
      ofRequest (scripted oddAnswers)
          { byCityAndDevice with
            group := [{ selector := "city" }, { selector := "device", expanded := true }] } {} =
        ofRequest (scripted oddAnswers) byCityAndDevice {} := by
  have answer : ((ofRequest (scripted oddAnswers) byCityAndDevice {}).1.toOption.map fun result =>
      result.groups.map Group.size) = some [1, 0] := by
    decide +kernel
  obtain ⟨shape, expanded, _⟩ := ofRequest_hasShape (scripted oddAnswers) byCityAndDevice {}
    (by decide) (scripted_wellFormed oddAnswers (by decide))
  obtain ⟨result, loaded, sizes⟩ := (toOption_map_ok _ _ _).mp answer
  obtain ⟨groups, isGroups, shaped, consistent⟩ := shape result loaded
  have same : result.groups = groups := by rw [LoadResult.groups, isGroups]
  rw [same] at sizes
  exact ⟨result, groups, loaded, isGroups, sizes, shaped, consistent, expanded _ rfl⟩

end LoadResult

end DataGrid
