import DataGrid.Pattern.Reader
import DataGrid.Proofs.Load.Counts
import DataGrid.Proofs.Pipeline.Untyped
/-!
What a collection answers a call with. Wherever the stages of a pipeline succeed, their documents have
the form that the call reads them in: a count is a number, and an entry of a level has a number as its
count or documents as its items, whatever was selected and whatever stages go before. So a call to a
collection fails in its stages or not at all.
-/
namespace DataGrid

open Result

namespace GroupShape

variable (shape : GroupShape)

/-- What is read from an entry is there: documents as items, and a number as the count. -/
structure Fills (entry : Document) : Prop where
  items : shape.withItems = true →
    ∃ rows : List Document, entry.get? "items" = some (.array (rows.map .object))
  count : shape.countedElsewhere = false →
    ∃ number, (entry.get? "count").bind Value.nat64? = some number

theorem foldl_put_head (key : String) (value : Value) (doc : Document)
    (fields : List (String × Value)) :
    ∃ kept tail, fields.foldl (fun doc field => Document.put doc field.1 field.2)
      ((key, value) :: doc) = (key, kept) :: tail := by
  induction fields generalizing value doc with
  | nil => exact ⟨value, doc, rfl⟩
  | cons field rest ih =>
      rw [List.foldl_cons, Document.put.eq_def]
      dsimp only
      split <;> exact ih _ _

theorem evaluate_fields (doc : Value) (key : String) (value : Value) (tail : Document)
    (plain : Text.startsWithDollar key = false) (item : Value)
    (evaluated : Expression.evaluate doc (.object ((key, value) :: tail)) = .ok item) :
    ∃ row, item = .object row := by
  cases tail with
  | nil =>
      rw [Expression.evaluate, plain] at evaluated
      split at evaluated
      · exact ⟨_, (Except.ok.inj evaluated).symm⟩
      · obtain ⟨content, _, made⟩ := (bind_ok _ _ _).mp evaluated
        exact ⟨_, (Except.ok.inj made).symm⟩
  | cons other rest =>
      rw [Expression.evaluate] at evaluated
      · split at evaluated
        · exact ⟨_, (Except.ok.inj evaluated).symm⟩
        · obtain ⟨fields, _, made⟩ := (bind_ok _ _ _).mp evaluated
          exact ⟨fields, (Except.ok.inj made).symm⟩
      · simp

/-- What is collected of a row is a document, whole or in the form of the selected fields. -/
theorem collected_object (select : List String) (chosen : shape.rowForm = rowForm? select)
    (doc : Document) (item : Value)
    (evaluated : Expression.evaluate (.object doc) shape.collected = .ok item) :
    ∃ row, item = .object row := by
  rw [collected, chosen, rowForm?] at evaluated
  split at evaluated
  · rename_i form given
    split at given
    · contradiction
    · -- the form starts with `_id`, so it is neither an operator nor a native value
      obtain ⟨kept, tail, same⟩ := foldl_put_head "_id" (Term.field "_id") []
        (select.map fun path => (path, Term.field path))
      obtain rfl := Option.some.inj given
      rw [List.map_cons, Document.ofFields, List.foldl_cons] at evaluated
      change Expression.evaluate (.object doc) (.object (List.foldl _ [("_id", _)] _)) = _ at evaluated
      rw [same] at evaluated
      exact evaluate_fields _ "_id" kept tail (by decide) item evaluated
  · exact ⟨doc, (Except.ok.inj evaluated).symm⟩

theorem entryOf_fills (select : List String) (chosen : shape.rowForm = rowForm? select)
    (key : GroupKey) (docs : List Document) (items : Value → List Value) (value : Value)
    (few : docs.length < 2 ^ 63)
    (collected : shape.withItems = true → List.Forall₂
      (fun doc item => Expression.evaluate (.object doc) shape.collected = .ok item)
      (Grouping.members key.carried docs value) (items value)) :
    shape.Fills (shape.entryOf key docs items value) := by
  constructor
  · intro listed
    have objects : items value ∈ Set.range (List.map Value.object) := by
      rw [Set.range_list_map]
      intro item member
      obtain ⟨doc, _, evaluated⟩ := exists_left (collected listed) item member
      obtain ⟨row, same⟩ := shape.collected_object select chosen doc item evaluated
      exact ⟨row, same.symm⟩
    obtain ⟨rows, same⟩ := objects
    exact ⟨rows, by rw [entryOf, shape.entry_items _ _ _ listed, ← same]⟩
  · intro counted
    have fewer : (Grouping.members key.carried docs value).length < 2 ^ 63 :=
      (List.length_filter_le _ docs).trans_lt few
    refine ⟨(Grouping.members key.carried docs value).length, ?_⟩
    rw [entryOf, shape.entry_count _ _ _ counted, Option.bind_some,
      Accumulator.total_ones_value _ fewer]
    exact Value.nat64?_small _ (by omega)

end GroupShape

namespace RowCleaner

theorem cleanItems_documents (cleaner : RowCleaner) (rows : List Document) :
    cleaner.cleanItems (.array (rows.map .object)) = .ok (cleaner.cleanAll rows) := by
  rw [cleanItems, List.mapM_map]
  induction rows with
  | nil => rfl
  | cons row rest ih =>
      rw [List.mapM_cons, ih]
      rfl

end RowCleaner

/-- What a call reads from the answers to its pipelines is there, whenever there is an answer. -/
structure Collection.Fills (patterns : PatternCompiler) (collection : Collection)
    (recipe : Recipe) : Prop where
  total : ∀ docs, collection.run patterns recipe.countStages = .ok docs →
    ∃ number, Load.counted? "count" docs = some number
  groups : ∀ pipeline docs, recipe.groupCountStages? = some pipeline →
    collection.run patterns pipeline = .ok docs →
    ∃ number, Load.counted? "groupCount" docs = some number
  entries : ∀ level scope docs, collection.run patterns (recipe.levelStages level scope) = .ok docs →
    ∀ entry ∈ docs, (recipe.shape level).Fills entry

namespace Load

variable {α : Type}

/-- A step that fails through the store alone, and never over the form of an answer. -/
abbrev Accepts (step : Load α) : Prop :=
  Ends (fun _ => True) (fun fault _ => ∃ error, fault = .store error) step

theorem send_accepts (store : Store) (pipeline : Pipeline) : Accepts (send store pipeline) := by
  intro session _
  rw [run_send]
  cases store session.sent pipeline with
  | ok docs => trivial
  | error fault => exact ⟨fault, rfl⟩

theorem summarize_accepts (store : Store) (recipe : Recipe) (scope : Pipeline)
    (summaries : List Summary) : Accepts (summarize store recipe scope summaries) :=
  summarize_ends store summaries scope (send_accepts store _) fun _ _ before => before

theorem ownGroup_fills (recipe : Recipe) (level : RecipeLevel) (cleaner : RowCleaner) (key : Value)
    (entry : Document) (last : level.last = true) (fills : (recipe.shape level).Fills entry) :
    ∃ own, ownGroup level cleaner key entry = .ok own := by
  unfold ownGroup
  split
  · rename_i listed
    obtain ⟨rows, stored⟩ := fills.items listed
    rw [stored]
    dsimp only
    rw [cleaner.cleanItems_documents rows]
    exact ⟨_, rfl⟩
  · rename_i bare
    have counted : level.countedElsewhere = false := by
      simpa [RecipeLevel.countedElsewhere, last] using bare
    obtain ⟨number, stored⟩ := fills.count counted
    rw [stored]
    exact ⟨_, rfl⟩

theorem content_accepts (recipe : Recipe) (level : RecipeLevel) (cleaner : RowCleaner)
    (entry : Document) (below : Load (List Group)) (fills : (recipe.shape level).Fills entry)
    (loaded : Accepts below) : Accepts (content level cleaner entry below) := by
  unfold content
  split
  · rename_i last
    obtain ⟨own, made⟩ := ownGroup_fills recipe level cleaner (entryKey entry) entry last fills
    intro session _
    rw [made]
    trivial
  · exact ends_map _ _ loaded

section Few

variable (patterns : PatternCompiler) (collection : Collection)
  (few : collection.documents.length < 2 ^ 63)
include few

theorem counted_number (pipeline : Pipeline) (name : String) (docs : List Document)
    (ran : collection.run patterns (pipeline ++ [.count name]) = .ok docs) :
    ∃ number, counted? name docs = some number := by
  obtain ⟨rows, before, rfl⟩ := run_count patterns collection pipeline name docs ran
  have fewer := Pipeline.length_run patterns pipeline collection.documents rows before
  exact ⟨rows.length, counted_written name rows (by omega)⟩

theorem count_accepts (pipeline : Pipeline) (name : String) :
    Accepts (count (collection.store patterns) (pipeline ++ [.count name]) name) := by
  rw [count_eq]
  refine ends_bind_returned _ _ (send_accepts _ _) fun docs returned => ?_
  obtain ⟨number, read⟩ := counted_number patterns collection few pipeline name docs
    (returns_send patterns collection _ docs returned)
  rw [read]
  exact ends_pure number

variable (recipe : Recipe) (select : List String)
  (chosen : recipe.rowForm = GroupShape.rowForm? select) (skip take : Option UInt64)
  (paging : recipe.paging = Paging.stages skip take)

include chosen paging in
/-- Every entry of a level holds what its shape promises, inside any scope and on any page. -/
theorem levelStages_fills (level : RecipeLevel) (scope : Pipeline) (entries : List Document)
    (ran : collection.run patterns (recipe.levelStages level scope) = .ok entries) :
    ∀ entry ∈ entries, (recipe.shape level).Fills entry := by
  obtain ⟨rows, within⟩ :=
    levelStages_within patterns collection recipe level scope entries ran
  obtain ⟨extended, keys, items, computed, _, collected, rfl⟩ := level_entries patterns collection
    recipe skip take paging level scope rows entries within ran
  have fewer := Pipeline.length_run patterns _ collection.documents rows within
  have same := ((mapM_ok _ _ _).mp computed).length_eq
  intro entry member
  obtain ⟨key, _, rfl⟩ := List.mem_map.mp member
  exact (recipe.shape level).entryOf_fills select chosen level.key extended items key (by omega)
    fun listed => collected listed key

include chosen paging in
theorem loadGroups_accepts (summaries : List Summary) (cleaner : RowCleaner)
    (levels : List RecipeLevel) (scope : Pipeline) :
    Accepts (loadGroups (collection.store patterns) recipe summaries cleaner levels scope) := by
  induction levels generalizing scope with
  | nil => exact ends_pure []
  | cons level deeper ih =>
      -- the entries are an answer of the collection, which is why they can be read
      rw [loadGroups_cons]
      refine ends_bind_returned _ _ (send_accepts _ _) fun entries returned => ?_
      have fills := levelStages_fills patterns collection few recipe select chosen skip take paging
        level scope entries (returns_send patterns collection _ entries returned)
      refine ends_mapM _ _ fun entry member => ?_
      refine ends_bind _ _ (content_accepts recipe level cleaner entry _ (fills entry member) (ih _))
        fun group => ?_
      exact summarized_ends _ summaries _ group fun _ => summarize_accepts _ recipe _ summaries

variable (request : Request) (options : Options)

theorem fills_ofRequest : collection.Fills patterns (Recipe.ofRequest request options) where
  total docs ran := by
    rw [countStages_eq] at ran
    exact counted_number patterns collection few _ "count" docs ran
  groups pipeline docs compiled ran := by
    obtain ⟨level, _, rfl⟩ := Option.map_eq_some_iff.mp compiled
    rw [keyCountStages_eq] at ran
    exact counted_number patterns collection few _ "groupCount" docs ran
  entries := levelStages_fills patterns collection few (Recipe.ofRequest request options)
    request.select rfl request.skip request.take rfl

theorem load_accepts : Accepts (load (collection.store patterns) request options) := by
  refine parts_end _ request options ?_ ?_ ?_ fun _ => summarize_accepts _ _ [] _
  -- the data, the number of groups and the total count, each with its own pipelines
  · rw [loadData_def]
    split
    · exact ends_map _ _ (loadGroups_accepts patterns collection few _ request.select rfl
        request.skip request.take rfl _ _ _ [])
    · exact ends_map _ _ (send_accepts _ _)
  · rw [loadGroupCount_def]
    split
    · rename_i pipeline compiled
      obtain ⟨level, _, rfl⟩ := Option.map_eq_some_iff.mp compiled
      split
      · rw [keyCountStages_eq]
        exact ends_map _ _ (count_accepts patterns collection few _ "groupCount")
      · exact ends_pure none
    · exact ends_pure none
  · rw [loadTotalCount_def]
    split
    · rw [countStages_eq]
      exact ends_map _ _ (count_accepts patterns collection few _ "count")
    · exact ends_pure none

end Few

end Load

namespace LoadResult

open Load

variable (patterns : PatternCompiler) (collection : Collection)

/-- A run over values never meets a value that is no document behind its last stage, so it is the run
over documents. And as long as a collection has no more documents than a signed number of 64 bits can
count, which is more than memory can hold, what a call reads from its answers is there: no call to the
collection fails over their form. -/
theorem ofRequest_accepts :
    (∀ pipeline,
      (∀ value, collection.runValues patterns pipeline ≠ .error (.nonDocument value)) ∧
        (collection.runValues patterns pipeline).mapError RunFault.report =
          collection.run patterns pipeline) ∧
    (collection.documents.length < 2 ^ 63 → ∀ request options,
      collection.Fills patterns (Recipe.ofRequest request options) ∧
        ∀ fault,
          (ofRequest (collection.store patterns) request options).1 ≠ .error (.malformed fault)) := by
  refine ⟨fun pipeline => ?_, fun few request options =>
    ⟨fills_ofRequest patterns collection few request options, fun fault failed => ?_⟩⟩
  · rw [collection.runValues_eq patterns pipeline]
    cases collection.run patterns pipeline with
    | error fault => exact ⟨fun value => nofun, rfl⟩
    | ok docs => exact ⟨fun value => nofun, rfl⟩
  · have accepts := load_accepts patterns collection few request options (start options) trivial
    obtain ⟨after, ran, _⟩ := ofRequest_ran _ request options _ _ (Prod.eta _).symm
    rw [ran, failed] at accepts
    obtain ⟨error, other⟩ := accepts
    contradiction

/-- Books on their shelves; one of them is a document without fields. -/
def books : Collection :=
  .ofDocuments
    [[("_id", .single "$oid" (.string "b1")), ("shelf", .string "low"), ("items", .bool true)],
      [("shelf", .string "high"), ("title", .string "Waves")], []]

/-- The books of the first two shelves, with selected fields that are not all fields. -/
def byShelf : Request :=
  { group := [{ selector := "shelf", expanded := true }]
    select := ["_id", "$CURRENT", "title.", "items"]
    take := some 2
    totalCount := true
    groupCount := true }

/-- Fields of the names that entries and counts are read by. -/
def renamed : Options :=
  { before := [.addFields [("count", .string "many"), ("key", .null)],
      .project [("items", .int 0), ("groupCount", .int 0)], .sort []] }

theorem ofRequest_accepts_books :
    books.documents.length < 2 ^ 63 ∧
      (∀ fault, (ofRequest (books.store Pattern.compile) byShelf renamed).1 ≠
        .error (.malformed fault)) ∧
      ∃ level entries, (Recipe.ofRequest byShelf renamed).levels = [level] ∧
        books.run Pattern.compile ((Recipe.ofRequest byShelf renamed).levelStages level []) =
          .ok entries ∧
        entries.length = 2 ∧ ∀ entry ∈ entries,
          ∃ rows : List Document, entry.get? "items" = some (.array (rows.map .object)) := by
  have few : books.documents.length < 2 ^ 63 := by decide
  obtain ⟨_, answered⟩ := ofRequest_accepts Pattern.compile books
  obtain ⟨fills, sound⟩ := answered few byShelf renamed
  let level : RecipeLevel := ⟨.ofInterval "shelf" none 0 0, false, true, true⟩
  obtain ⟨entries, ran, two⟩ := (Result.toOption_map_ok (books.run Pattern.compile
    ((Recipe.ofRequest byShelf renamed).levelStages level [])) List.length 2).mp (by decide +kernel)
  exact ⟨few, sound, level, entries, rfl, ran, two, fun entry member =>
    (fills.entries level [] entries ran entry member).items rfl⟩

end LoadResult

end DataGrid
