import DataGrid.Collection
import DataGrid.Load.Basic
import DataGrid.Pattern.Reader
import DataGrid.Proofs.Load.Levels
import DataGrid.Proofs.Pipeline.Run
/-!
What a call can see of a store. Every pipeline that it sends opens with the stages given before the
call and those of the filter, so that two stores which agree on such pipelines answer a request
alike. Collections agree on them as soon as the opening itself leaves the same documents.
-/
namespace DataGrid

namespace Recipe

variable (recipe : Recipe)

theorem levelStages_opened (level : RecipeLevel) (scope : Pipeline) :
    recipe.filtered <+: recipe.levelStages level scope := by
  simp only [levelStages, List.append_assoc]
  exact List.prefix_append _ _

theorem summaryStages_opened (scope : Pipeline) (summaries : List Summary) :
    recipe.filtered <+: recipe.summaryStages scope summaries := by
  simp only [summaryStages, List.append_assoc]
  exact List.prefix_append _ _

theorem flatStages_opened : recipe.filtered <+: recipe.flatStages := by
  simp only [flatStages, List.append_assoc]
  exact List.prefix_append _ _

theorem countStages_opened : recipe.filtered <+: recipe.countStages := by
  simp only [countStages, filtered, Filtering.countStages, ← List.append_assoc]
  exact List.prefix_append _ _

theorem groupCountStages_opened (pipeline : Pipeline)
    (counted : recipe.groupCountStages? = some pipeline) : recipe.filtered <+: pipeline := by
  obtain ⟨level, _, same⟩ := Option.map_eq_some_iff.mp counted
  rw [← same]
  simp only [filtered, Filtering.keyCountStages, ← List.append_assoc]
  exact (List.prefix_append _ _).trans (List.prefix_append _ _)

theorem fetches_opened (pipeline : Pipeline) (fetched : recipe.Fetches pipeline) :
    recipe.filtered <+: pipeline := by
  cases fetched with
  | rows => exact recipe.flatStages_opened
  | level level scope => exact recipe.levelStages_opened level scope
  | total => exact recipe.countStages_opened
  | groups _ counted => exact recipe.groupCountStages_opened pipeline counted

end Recipe

namespace Load

section Sent

variable {α : Type} (store : Store)

/-- A step that sends pipelines with one beginning only. -/
def Opens (opening : Pipeline) (step : Load α) : Prop :=
  Keeps (fun session => ∀ pipeline ∈ session.sent, opening <+: pipeline) step

theorem opened_append (sent : List Pipeline) (opening pipeline : Pipeline)
    (before : ∀ other ∈ sent, opening <+: other) (opened : opening <+: pipeline) :
    ∀ other ∈ sent ++ [pipeline], opening <+: other := by
  intro other member
  rcases List.mem_append.mp member with old | new
  · exact before other old
  · rw [List.mem_singleton.mp new]
    exact opened

theorem load_opens (request : Request) (options : Options) :
    Opens (Recipe.ofRequest request options).filtered (load store request options) := by
  apply load_keeps
  · intro pipeline fetched session before
    rw [run_send]
    exact opened_append _ _ _ before (Recipe.fetches_opened _ pipeline fetched)
  · intro scope summaries _ session before
    rw [run_summarize]
    cases session.limiter.acquire? with
    | none => exact before
    | some limiter =>
        exact opened_append _ _ _ before (Recipe.summaryStages_opened _ scope summaries)

end Sent

section Answers

/-- Stores that answer every pipeline with a given opening alike, whatever was sent before. -/
def AgreeOn (opening : Pipeline) (left right : Store) : Prop :=
  ∀ sent pipeline, opening <+: pipeline → left sent pipeline = right sent pipeline

variable {left right : Store} {opening : Pipeline}

theorem send_congr (agree : AgreeOn opening left right) (pipeline : Pipeline)
    (opened : opening <+: pipeline) : send left pipeline = send right pipeline := by
  funext session
  simp only [send, agree session.sent pipeline opened]

theorem count_congr (agree : AgreeOn opening left right) (pipeline : Pipeline) (field : String)
    (opened : opening <+: pipeline) : count left pipeline field = count right pipeline field := by
  simp only [count_def, send_congr agree pipeline opened]

variable {recipe : Recipe} (agree : AgreeOn recipe.filtered left right)
include agree

theorem summarize_congr (scope : Pipeline) (summaries : List Summary) :
    summarize left recipe scope summaries = summarize right recipe scope summaries := by
  simp only [summarize_def, send_congr agree _ (recipe.summaryStages_opened scope summaries)]

theorem summarized_congr (summaries : List Summary) (inner : Pipeline) :
    summarized left recipe summaries inner = summarized right recipe summaries inner := by
  funext group
  simp only [summarized, summarize_congr agree]

theorem entryGroup_congr {summaries : List Summary} {cleaner : RowCleaner} (level : RecipeLevel)
    (deeper : List RecipeLevel)
    (below : ∀ scope, loadGroups left recipe summaries cleaner deeper scope =
      loadGroups right recipe summaries cleaner deeper scope) (scope : Pipeline) :
    entryGroup left recipe summaries cleaner level deeper scope =
      entryGroup right recipe summaries cleaner level deeper scope := by
  funext entry
  rw [entryGroup, entryGroup, below, summarized_congr agree]

theorem loadGroups_congr (summaries : List Summary) (cleaner : RowCleaner)
    (levels : List RecipeLevel) (scope : Pipeline) :
    loadGroups left recipe summaries cleaner levels scope =
      loadGroups right recipe summaries cleaner levels scope := by
  induction levels generalizing scope with
  | nil => rfl
  | cons level deeper ih =>
      simp only [loadGroups_cons, send_congr agree _ (recipe.levelStages_opened level scope),
        entryGroup_congr agree level deeper ih]

theorem groupCount_congr (request : Request) :
    loadGroupCount left recipe request = loadGroupCount right recipe request := by
  rw [loadGroupCount_def, loadGroupCount_def]
  split
  · rename_i pipeline found
    rw [count_congr agree pipeline _ (recipe.groupCountStages_opened pipeline found)]
  · rfl

end Answers

theorem load_congr (request : Request) (options : Options) (left right : Store)
    (agree : AgreeOn (Recipe.ofRequest request options).filtered left right) :
    load left request options = load right request options := by
  have rows := send_congr agree _ (Recipe.flatStages_opened _)
  have total := count_congr agree _ "count" (Recipe.countStages_opened _)
  simp only [load_def, loadData_def, loadTotalCount_def, loadTotalSummary_def,
    loadGroups_congr agree, rows, total, groupCount_congr agree, summarize_congr agree]

end Load

theorem Collection.agree_of_opening (patterns : PatternCompiler) (opening : Pipeline)
    (left right : Collection) (same : left.run patterns opening = right.run patterns opening) :
    Load.AgreeOn opening (left.store patterns) (right.store patterns) := by
  intro sent pipeline opened
  obtain ⟨rest, rfl⟩ := opened
  simp only [Collection.run] at same
  simp only [Collection.store, Collection.run, Pipeline.run_append, same]

namespace LoadResult

/-- Nothing that the opening takes away shows in an answer: it opens every pipeline that is sent, and
collections of which it leaves the same are answered alike. -/
theorem ofRequest_opening (patterns : PatternCompiler) (request : Request) (options : Options) :
    (∀ (store : Store), ∀ pipeline ∈ (ofRequest store request options).2,
      options.before ++ (Recipe.ofRequest request options).filtering.stages <+: pipeline) ∧
    ∀ left right : Collection,
      left.run patterns (options.before ++ (Recipe.ofRequest request options).filtering.stages) =
        right.run patterns (options.before ++ (Recipe.ofRequest request options).filtering.stages) →
      ofRequest (left.store patterns) request options =
        ofRequest (right.store patterns) request options := by
  constructor
  · intro store pipeline member
    exact Load.load_opens store request options (Load.start options) (by simp [Load.start]) pipeline
      member
  · intro left right same
    have agree := Collection.agree_of_opening patterns _ left right same
    rw [ofRequest, ofRequest, Load.load_congr request options _ _ agree]

/-- Sales of one tenant beside those of another. -/
def salesBeside (tenant : String) (amount : Int) : Collection :=
  .ofDocuments
    [[("tenant", .string "north"), ("city", .string "Oslo"), ("amount", .int 3)],
      [("tenant", .string tenant), ("city", .string "Rome"), ("amount", .int amount)],
      [("tenant", .string "north"), ("city", .string "Bergen"), ("amount", .int 5)]]

def salesByCity : Request :=
  { filter := some (.array [.string "amount", .string ">", .int 1])
    group := [{ selector := "city", expanded := true }]
    totalCount := true
    groupSummary := [⟨"sum", some "amount"⟩] }

def northOnly : Options := { before := [.matching [("tenant", .string "north")]] }

theorem ofRequest_opening_tenants :
    (.matching [("tenant", .string "north")] :: (Recipe.ofRequest salesByCity northOnly).filtering.stages
        ++ [.count "count"]) ∈
          (ofRequest ((salesBeside "south" 7).store Pattern.compile) salesByCity northOnly).2 ∧
      northOnly.before ++ (Recipe.ofRequest salesByCity northOnly).filtering.stages <+:
        (.matching [("tenant", .string "north")] ::
          (Recipe.ofRequest salesByCity northOnly).filtering.stages ++ [.count "count"]) ∧
      (salesBeside "south" 7).run Pattern.compile
          (northOnly.before ++ (Recipe.ofRequest salesByCity northOnly).filtering.stages) =
        (salesBeside "east" 900).run Pattern.compile
          (northOnly.before ++ (Recipe.ofRequest salesByCity northOnly).filtering.stages) ∧
      ofRequest ((salesBeside "south" 7).store Pattern.compile) salesByCity northOnly =
        ofRequest ((salesBeside "east" 900).store Pattern.compile) salesByCity northOnly := by
  have opened := ofRequest_opening Pattern.compile salesByCity northOnly
  have sent : (.matching [("tenant", .string "north")] ::
      (Recipe.ofRequest salesByCity northOnly).filtering.stages ++ [.count "count"]) ∈
        (ofRequest ((salesBeside "south" 7).store Pattern.compile) salesByCity northOnly).2 := by
    decide +kernel
  have same : (salesBeside "south" 7).run Pattern.compile
      (northOnly.before ++ (Recipe.ofRequest salesByCity northOnly).filtering.stages) =
        (salesBeside "east" 900).run Pattern.compile
          (northOnly.before ++ (Recipe.ofRequest salesByCity northOnly).filtering.stages) := by
    decide +kernel
  exact ⟨sent, opened.1 _ _ sent, same, opened.2 _ _ same⟩

end LoadResult

end DataGrid
