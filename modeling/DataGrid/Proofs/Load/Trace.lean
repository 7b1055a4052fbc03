import DataGrid.Plan.Basic
import DataGrid.Proofs.Load.Slots
/-!
The pipelines of a call in the order in which they are sent. A request for a summary is passed over
once no slot is left. What a call asks for is told by its plan and by the tree that it returns: under
every group the entries of the next level are asked for first, then what the groups below ask for, and
then the summary of the group. The scope of each follows from the keys on the way to it. What groups
side by side ask for may interleave, and so may it with the counts; in a call whose calls are made in
order all of it has its place. This holds for any store, since the tree holds all that was answered on
the way.
-/
namespace DataGrid

/-- A pipeline that is sent in any case, or one that takes a slot. -/
inductive Ask where
  | fetch (pipeline : Pipeline)
  | summary (pipeline : Pipeline)

def Event.ask : Event → Ask
  | .fetched pipeline => .fetch pipeline
  | .claimed pipeline _ => .summary pipeline

namespace Ask

def isSummary : Ask → Bool
  | .fetch _ => false
  | .summary _ => true

/-- The pipelines that are sent with so many slots left. -/
def admitted : Nat → List Ask → List Pipeline
  | _, [] => []
  | slots, .fetch pipeline :: rest => pipeline :: admitted slots rest
  | slots + 1, .summary pipeline :: rest => pipeline :: admitted slots rest
  | 0, .summary _ :: rest => admitted 0 rest

theorem admitted_append (slots : Nat) (first second : List Ask) :
    admitted slots (first ++ second) =
      admitted slots first ++ admitted (slots - first.countP isSummary) second := by
  induction first generalizing slots with
  | nil => simp [admitted]
  | cons ask rest ih =>
      cases ask with
      | fetch pipeline => simp [admitted, isSummary, ih]
      | summary pipeline =>
          cases slots with
          | zero => simpa [admitted] using ih 0
          | succ slots =>
              rw [List.cons_append, admitted, admitted, ih, List.countP_cons_of_pos rfl,
                List.cons_append, Nat.add_sub_add_right]

theorem admitted_fetch (slots : Nat) (pipelines : List Pipeline) :
    admitted slots (pipelines.map .fetch) = pipelines := by
  induction pipelines with
  | nil => rfl
  | cons pipeline rest ih => rw [List.map_cons, admitted, ih]

theorem countP_fetch (pipelines : List Pipeline) :
    (pipelines.map Ask.fetch).countP isSummary = 0 := by
  simp [List.countP_map, isSummary]

end Ask

/-- Over a sequence of events the slots go to the first summaries of it. -/
theorem Session.sent_admitted (limit used : Nat) (before after : Session) (events : List Event)
    (start : before.limiter = .asked limit used)
    (ran : events.foldlM Session.after? before = some after) :
    after.sent = before.sent ++ Ask.admitted (limit - used) (events.map Event.ask) := by
  induction events generalizing used before with
  | nil =>
      obtain rfl := Option.some.inj ran
      simp [Ask.admitted]
  | cons event rest ih =>
      rw [List.foldlM_cons] at ran
      obtain ⟨middle, first, later⟩ := Option.bind_eq_some_iff.mp ran
      cases event with
      | fetched pipeline =>
          obtain rfl := Option.some.inj first
          rw [ih used (before.send pipeline) start later]
          simp [Session.send, Event.ask, Ask.admitted]
      | claimed pipeline granted =>
          obtain ⟨next, _, sent⟩ :=
            Session.after?_claimed limit used before middle pipeline granted start first
          rw [ih (used + 1) middle next later, sent]
          by_cases free : used < limit
          · have left : limit - used = limit - (used + 1) + 1 := by omega
            simp [left, free, Event.ask, Ask.admitted]
          -- a full limiter stays full, however many summaries are asked for
          · have left : limit - used = 0 := by omega
            have later : limit - (used + 1) = 0 := by omega
            simp [left, later, free, Event.ask, Ask.admitted]

namespace Recipe

theorem levels_ofRequest (request : Request) (options : Options) :
    (ofRequest request options).levels = RecipeLevel.ofLevels options.offset 0 request.group := rfl

variable (recipe : Recipe) (summaries : List Summary)

/-- The entries of the first of the levels. -/
def entryAsks : List RecipeLevel → (scope : Pipeline) → List Ask
  | [], _ => []
  | level :: _, scope => [.fetch (recipe.levelStages level scope)]

/-- The summary of one group. -/
def summaryAsks (scope : Pipeline) : List Ask :=
  if summaries.isEmpty then [] else [.summary (recipe.summaryStages scope summaries)]

/-- What the groups of the first of the levels ask for. Each asks for the entries below it, for what
the groups of these ask for, and for its summary; the groups do so side by side or, where the calls are
ordered, one after the other. -/
def GroupsAsk (ordered : Bool) :
    List RecipeLevel → (scope : Pipeline) → List Group → List Ask → Prop
  | [], _, _, asks => asks = []
  | level :: deeper, scope, groups, asks => ∃ parts,
      List.Forall₂ (fun group part => ∃ below,
        GroupsAsk ordered deeper (keyScope level scope group.key) (group.groups?.getD []) below ∧
        part = recipe.entryAsks deeper (keyScope level scope group.key) ++ below ++
          recipe.summaryAsks summaries (keyScope level scope group.key)) groups parts ∧
      Merges ordered parts asks

/-- What they ask for one after the other. -/
def groupAsks : List RecipeLevel → (scope : Pipeline) → List Group → List Ask
  | [], _, _ => []
  | level :: deeper, scope, groups =>
      groups.flatMap fun group =>
        let inner := keyScope level scope group.key
        recipe.entryAsks deeper inner ++ groupAsks deeper inner (group.groups?.getD []) ++
          recipe.summaryAsks summaries inner

theorem groupsAsk_ordered (levels : List RecipeLevel) (scope : Pipeline) (groups : List Group)
    (asks : List Ask) (asked : recipe.GroupsAsk summaries true levels scope groups asks) :
    asks = recipe.groupAsks summaries levels scope groups := by
  induction levels generalizing scope groups asks with
  | nil => exact asked
  | cons level deeper ih =>
      obtain ⟨parts, each, merged⟩ := asked
      rw [merged.eq_flatten, groupAsks, List.flatMap_def]
      congr 1
      refine List.forall₂_eq_eq_eq ▸ (List.forall₂_map_left_iff.mpr ?_ : List.Forall₂ Eq _ parts) |>.symm
      refine each.imp ?_
      rintro group part ⟨below, inner, rfl⟩
      rw [ih _ _ below inner]

end Recipe

namespace Plan

variable (plan : Plan) (totalCount : Option Nat)

/-- The summary of the whole set, where it is not empty. -/
def summaryAsks : List Ask :=
  if 0 < totalCount.getD 0 then plan.totalSummary.toList.map .summary else []

/-- What a call asks for, given what its groups ask for. -/
def asks (groups : List Ask) : List Ask :=
  .fetch plan.data :: (groups ++ (plan.groupCount.toList.map .fetch ++
    (plan.totalCount.toList.map .fetch ++ plan.summaryAsks totalCount)))

theorem admitted_summaryAsks (slots : Nat) :
    Ask.admitted slots (plan.summaryAsks totalCount) =
      if 0 < totalCount.getD 0 ∧ 0 < slots then plan.totalSummary.toList else [] := by
  unfold summaryAsks
  by_cases filled : 0 < totalCount.getD 0
  · cases plan.totalSummary with
    | none => simp [Ask.admitted]
    | some pipeline => cases slots <;> simp [filled, Ask.admitted]
  · simp [filled, Ask.admitted]

end Plan

namespace Job

variable {ordered : Bool} {answers : Answers} {recipe : Recipe} {summaries : List Summary}
  {cleaner : RowCleaner}

theorem allGive_forall₂ {ι : Type} (part : ι → Job Group) (entries : List ι)
    (traces : List (List Event)) (groups : List Group)
    (all : AllGive ordered answers (entries.map part) traces groups) :
    List.Forall₂ (fun group trace => ∃ entry, Gives ordered answers (part entry) trace group) groups
      traces := by
  induction entries generalizing traces groups with
  | nil =>
      obtain ⟨rfl, rfl⟩ := all
      exact .nil
  | cons entry rest ih =>
      obtain ⟨trace, others, group, groups, given, all, rfl, rfl⟩ := all
      exact .cons ⟨entry, given⟩ (ih others groups all)

theorem summarize_asks {scope : Pipeline} {events : List Event} {found : Option (List Value)}
    (given : Gives ordered answers (summarize recipe scope summaries) events found) :
    events.map Event.ask = [.summary (recipe.summaryStages scope summaries)] := by
  rcases summarize_gives given with ⟨rfl, _⟩ | ⟨_, _, rfl, _⟩ <;> rfl

/-- A group of the deepest level asks for its summary alone, and any other for what is below it. -/
theorem entryGroup_asks {level : RecipeLevel} {deeper : List RecipeLevel} {scope : Pipeline}
    {entry : Document} {events : List Event} {group : Group}
    (deepest : level.last = true → deeper = [])
    (below : ∀ inner own groups, Gives ordered answers
      (loadGroups recipe summaries cleaner deeper inner) own groups →
      ∃ asks, recipe.GroupsAsk summaries ordered deeper inner groups asks ∧
        own.map Event.ask = recipe.entryAsks deeper inner ++ asks)
    (given : Gives ordered answers (entryGroup recipe summaries cleaner level
      (loadGroups recipe summaries cleaner deeper) scope entry) events group) :
    ∃ asks, recipe.GroupsAsk summaries ordered deeper (Recipe.keyScope level scope group.key)
        (group.groups?.getD []) asks ∧
      events.map Event.ask = recipe.entryAsks deeper (Recipe.keyScope level scope group.key) ++ asks ++
        recipe.summaryAsks summaries (Recipe.keyScope level scope group.key) := by
  obtain ⟨named, inside, closing, rfl, content, summed⟩ := entryGroup_gives given
  rw [named]
  have last : closing.map Event.ask =
      recipe.summaryAsks summaries (Recipe.keyScope level scope (Load.entryKey entry)) := by
    unfold Recipe.summaryAsks
    rcases summed with ⟨rfl, rfl, _⟩ | ⟨listed, told⟩
    · rfl
    · rw [if_neg (fun none => listed (List.isEmpty_iff.mp none)), summarize_asks told]
  rw [List.map_append, last]
  rcases content with ⟨bottom, rfl, _⟩ | ⟨_, children, loaded, held⟩
  -- nothing is asked below the deepest level
  · rw [deepest bottom]
    exact ⟨[], rfl, rfl⟩
  · obtain ⟨asks, asked, same⟩ := below _ inside children loaded
    rw [held]
    exact ⟨asks, asked, by rw [same]⟩

theorem loadGroups_asks (offset : Int) (index : Nat) (levels : List GroupLevel) (scope : Pipeline)
    (events : List Event) (groups : List Group)
    (given : Gives ordered answers (loadGroups recipe summaries cleaner
      (RecipeLevel.ofLevels offset index levels) scope) events groups) :
    ∃ asks, recipe.GroupsAsk summaries ordered (RecipeLevel.ofLevels offset index levels) scope groups
        asks ∧
      events.map Event.ask =
        recipe.entryAsks (RecipeLevel.ofLevels offset index levels) scope ++ asks := by
  -- down the levels, with any scope for the groups below
  induction levels generalizing index scope events groups with
  | nil => exact ⟨[], rfl, by rw [(gives_pure given).2]; rfl⟩
  | cons level deeper ih =>
      rw [RecipeLevel.ofLevels] at given ⊢
      obtain ⟨entries, traces, rest, _, all, merged, rfl⟩ := loadGroups_gives given
      refine ⟨rest.map Event.ask, ⟨traces.map (List.map Event.ask), ?_, merged.map Event.ask⟩, rfl⟩
      refine List.forall₂_map_right_iff.mpr ((allGive_forall₂ _ entries traces groups all).imp ?_)
      rintro group trace ⟨entry, given⟩
      refine entryGroup_asks (fun last => ?_) (fun inner own groups => ih (index + 1) inner own groups)
        given
      rw [List.isEmpty_iff.mp last, RecipeLevel.ofLevels]

section Whole

variable {request : Request} {options : Options} {events : List Event}

theorem loadData_asks {result : LoadResult}
    (given : Gives ordered answers (loadData (.ofRequest request options) request options) events
      result.data) :
    ∃ asks, (Recipe.ofRequest request options).GroupsAsk request.groupSummary ordered
        (Recipe.ofRequest request options).levels [] result.groups asks ∧
      events.map Event.ask = .fetch (Plan.ofRequest request options).data :: asks := by
  obtain ⟨data, groupCount, totalCount, summary⟩ := result
  rw [Plan.ofRequest, Recipe.levels_ofRequest]
  rcases loadData_gives given with ⟨flat, rfl, rows, rfl⟩ | ⟨grouped, cleaner, groups, rfl, loaded⟩
  -- a list sends one pipeline and has no groups to ask for anything
  · rw [flat]
    exact ⟨[], rfl, rfl⟩
  · obtain ⟨asks, asked, same⟩ := loadGroups_asks options.offset 0 request.group [] events groups loaded
    obtain ⟨level, deeper, levels⟩ := List.exists_cons_of_ne_nil grouped
    rw [levels] at asked same ⊢
    exact ⟨asks, asked, same⟩

/-- The data make the start of a call. -/
theorem loadData_fresh : ¬ (loadData (.ofRequest request options) request options).Begun := by
  rw [loadData, Recipe.levels_ofRequest]
  cases levels : request.group with
  | nil =>
      rw [if_neg (by simp [Request.isGrouped, levels])]
      exact id
  | cons level deeper =>
      rw [if_pos (by simp [Request.isGrouped, levels])]
      exact id

theorem loadCounts_asks {groupCount totalCount : Option Nat}
    (given : Gives ordered answers (loadCounts (.ofRequest request options) request) events
      (groupCount, totalCount)) :
    events.map Event.ask = (Plan.ofRequest request options).groupCount.toList.map .fetch ++
      (Plan.ofRequest request options).totalCount.toList.map .fetch := by
  obtain ⟨own, others, groups, total, rfl⟩ := loadCounts_gives _ given
  rw [loadGroupCount_gives _ groups, loadTotalCount_gives _ total, List.map_append, Plan.ofRequest]
  dsimp only
  congr 1
  · cases request.groupCount with
    | false => rfl
    | true => cases (Recipe.ofRequest request options).groupCountStages? <;> rfl
  · cases request.needsTotalCount <;> rfl

theorem loadTotalSummary_asks {totalCount : Option Nat} {found : Option (List Value)}
    (given : Gives ordered answers
      (loadTotalSummary (.ofRequest request options) request totalCount) events found) :
    events.map Event.ask = (Plan.ofRequest request options).summaryAsks totalCount := by
  rw [Plan.summaryAsks, Plan.ofRequest]
  unfold loadTotalSummary at given
  split at given
  · rename_i asked
    obtain ⟨positive, listed⟩ : 0 < totalCount.getD 0 ∧ request.totalSummary ≠ [] := by
      simpa using asked
    simp [positive, listed, summarize_asks given]
  · rename_i unasked
    rw [(gives_pure given).2]
    by_cases positive : 0 < totalCount.getD 0
    · have none : request.totalSummary = [] := by simpa [positive] using unasked
      simp [none]
    · simp [positive]

/-- What a call sends that has run to its end: the data, what the groups and the counts ask for, and
the total summary. -/
theorem load_asks (result : LoadResult) (after : Session)
    (given : Gives ordered answers (load request options) events result)
    (ran : events.foldlM Session.after? (Load.start options) = some after) :
    let plan := Plan.ofRequest request options
    let recipe := Recipe.ofRequest request options
    ∃ groups asks,
      recipe.GroupsAsk request.groupSummary ordered recipe.levels [] result.groups groups ∧
      Interleaves ordered groups
        (plan.groupCount.toList.map .fetch ++ plan.totalCount.toList.map .fetch) asks ∧
      after.sent = plan.data :: (Ask.admitted options.summaryLimit asks ++
        if 0 < result.totalCount.getD 0 ∧ asks.countP Ask.isSummary < options.summaryLimit then
          plan.totalSummary.toList
        else []) := by
  intro plan recipe
  obtain ⟨own, counts, whole, rest, data, counted, joined, summed, rfl⟩ := load_gives given
  obtain ⟨groups, asked, same⟩ := loadData_asks data
  cases joined with
  | begun begun => exact absurd begun loadData_fresh
  | @opens event tail _ whole between =>
      obtain ⟨opens, rfl⟩ := List.cons.inj same
      have mixed := between.map Event.ask
      rw [loadCounts_asks counted] at mixed
      refine ⟨_, whole.map Event.ask, asked, mixed, ?_⟩
      rw [Session.sent_admitted options.summaryLimit 0 _ after _ (Limiter.ofLimit_asked _) ran,
        List.map_append, List.map_cons, opens, loadTotalSummary_asks summed, Nat.sub_zero,
        List.cons_append, Ask.admitted, Ask.admitted_append, Plan.admitted_summaryAsks]
      simp only [Nat.sub_pos_iff_lt]
      rfl

end Whole

end Job

namespace LoadResult

end LoadResult

end DataGrid
