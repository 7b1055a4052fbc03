import DataGrid.Proofs.Load.Calls
import DataGrid.Proofs.Load.Pages
import DataGrid.Proofs.Load.Polling
import DataGrid.Proofs.Load.Running
/-!
Slots of a call for its summaries. A call never asks for more summaries than its limiter gives out,
whatever the store answers. Over a collection every node of the tree asks for one slot, after all
nodes below it, and the whole set asks last; each slot that is given out yields a summary. So as many
nodes carry a summary as there are slots, and in a call whose calls are made in order these are the
first of them.
-/
namespace DataGrid

open Result

namespace Limiter

/-- A limiter that was asked for so many slots: it has given out no more than its limit. -/
def asked (limit number : Nat) : Limiter := ⟨limit, min limit number⟩

theorem ofLimit_asked (limit : Nat) : ofLimit limit = asked limit 0 := by simp [ofLimit, asked]

theorem acquire?_asked (limit number : Nat) : (asked limit number).acquire? =
    if number < limit then some (asked limit (number + 1)) else none := by
  unfold acquire? asked
  by_cases free : number < limit
  · have room : min limit number < limit := by omega
    have next : min limit number + 1 = min limit (number + 1) := by omega
    rw [if_pos free, if_pos room, next]
  · have full : ¬ min limit number < limit := by omega
    rw [if_neg free, if_neg full]

theorem asked_full (limit number : Nat) (full : ¬ number < limit) :
    asked limit (number + 1) = asked limit number := by
  unfold asked
  congr 1
  omega

theorem acquire?_full (limiter : Limiter) (full : limiter.limit ≤ limiter.started) :
    limiter.acquire? = none := if_neg (Nat.not_lt.mpr full)

end Limiter

namespace Group

mutual

/-- The groups of a tree, each of them after all groups below it. -/
def postorder : Group → List Group
  | .groups key number items summary => postorders items ++ [.groups key number items summary]
  | .rows key number items summary => [.rows key number items summary]
  | .leaf key number summary => [.leaf key number summary]

def postorders : List Group → List Group
  | [] => []
  | group :: rest => postorder group ++ postorders rest

end

/-- The groups below a group. -/
def descendants (group : Group) : List Group := postorders (group.groups?.getD [])

theorem postorder_eq (group : Group) : postorder group = group.descendants ++ [group] := by
  cases group <;> rfl

mutual

theorem postorder_key : ∀ group : Group, ∀ node ∈ postorder group, node.key ∈ keys group
  | .leaf key number summary, node, member => by
      rw [List.mem_singleton.mp member]
      exact key_mem_keys _
  | .rows key number items summary, node, member => by
      rw [List.mem_singleton.mp member]
      exact key_mem_keys _
  | .groups key number items summary, node, member => by
      rcases List.mem_append.mp member with inside | own
      · exact List.mem_cons_of_mem key (postorders_key items node inside)
      · rw [List.mem_singleton.mp own]
        exact key_mem_keys _

theorem postorders_key : ∀ groups : List Group, ∀ node ∈ postorders groups, node.key ∈ keysOf groups
  | [], node, member => by simp [postorders] at member
  | group :: rest, node, member => by
      rw [keysOf, List.mem_append]
      rcases List.mem_append.mp member with first | later
      · exact Or.inl (postorder_key group node first)
      · exact Or.inr (postorders_key rest node later)

end

end Group

namespace Recipe

variable (recipe : Recipe)

/-- Whether a pipeline ends, behind the filter, by putting documents into one group: the pipelines of
summaries do, and no others that a call sends. -/
def asksSummary (pipeline : Pipeline) : Bool :=
  match (pipeline.drop recipe.filtered.length).getLast? with
  | some (.group _) => true
  | _ => false

theorem asksSummary_append (rest : Pipeline) : recipe.asksSummary (recipe.filtered ++ rest) =
    match rest.getLast? with
    | some (.group _) => true
    | _ => false := by
  rw [asksSummary, List.drop_left]

theorem asksSummary_summaryStages (scope : Pipeline) (summaries : List Summary)
    (listed : summaries ≠ []) : recipe.asksSummary (recipe.summaryStages scope summaries) = true := by
  have some : summaries.isEmpty = false := by simpa using listed
  rw [summaryStages, List.append_assoc, asksSummary_append, Summary.stages, some,
    if_neg (by decide), List.getLast?_concat]

/-- A pipeline that goes on behind the filter asks for no summary if it ends otherwise. -/
theorem asksSummary_tail (front tail : Pipeline) (plain : ∀ spec, Stage.group spec ∉ tail)
    (closed : tail = [] → front = []) :
    recipe.asksSummary (recipe.filtered ++ (front ++ tail)) = false := by
  rw [asksSummary_append, List.getLast?_append]
  cases last : tail.getLast? with
  | none =>
      rw [closed (List.getLast?_eq_none_iff.mp last)]
      rfl
  | some stage =>
      have member := List.mem_of_getLast? last
      cases stage with
      | group spec => exact absurd member (plain spec)
      | _ => rfl

theorem paging_ungrouped (skip take : Option UInt64) (spec : Document) :
    Stage.group spec ∉ Paging.stages skip take := by
  simp [Paging.stages]

theorem levelStages_asks (level : RecipeLevel) (scope : Pipeline)
    (paging : ∀ spec, Stage.group spec ∉ recipe.paging) :
    recipe.asksSummary (recipe.levelStages level scope) = false := by
  have split : recipe.levelStages level scope = recipe.filtered ++
      ((recipe.sort ++ scope ++ level.key.stages ++
        [.group ((recipe.shape level).groupSpec level.key),
          .project (recipe.shape level).entryForm]) ++
        (.sort [("key", GroupShape.direction (recipe.shape level).descending)] ::
          if level.key.level = 0 then recipe.paging else [])) := by
    simp [levelStages, GroupShape.stages]
  rw [split]
  refine asksSummary_tail _ _ _ ?_ (by simp)
  intro spec member
  rcases List.mem_cons.mp member with sort | page
  · contradiction
  · split at page
    · exact paging spec page
    · simp at page

theorem countStages_asks : recipe.asksSummary recipe.countStages = false := by
  have split : recipe.countStages = recipe.filtered ++ ([] ++ [.count "count"]) := by
    simp [countStages, filtered, Filtering.countStages]
  rw [split]
  exact asksSummary_tail _ _ _ (by simp) fun _ => rfl

theorem groupCountStages_asks (pipeline : Pipeline)
    (counted : recipe.groupCountStages? = some pipeline) : recipe.asksSummary pipeline = false := by
  obtain ⟨level, _, rfl⟩ := Option.map_eq_some_iff.mp counted
  have split : recipe.before ++ recipe.filtering.keyCountStages level.key =
      recipe.filtered ++ ((level.key.stages ++ [level.key.distinct]) ++ [.count "groupCount"]) := by
    simp [filtered, Filtering.keyCountStages]
  rw [split]
  exact asksSummary_tail _ _ _ (by simp) (by simp)

/-- No other pipeline of a call asks for a summary. -/
theorem fetches_asks (request : Request) (options : Options) (pipeline : Pipeline)
    (fetched : (ofRequest request options).Fetches pipeline) :
    (ofRequest request options).asksSummary pipeline = false := by
  have paging : ∀ spec, Stage.group spec ∉ (ofRequest request options).paging :=
    paging_ungrouped request.skip request.take
  cases fetched with
  | rows =>
      rw [flatStages, List.append_assoc, List.append_assoc, ← List.nil_append (_ ++ (_ ++ _))]
      refine asksSummary_tail _ [] _ ?_ fun _ => rfl
      intro spec member
      rcases List.mem_append.mp member with sort | later
      · simp [ofRequest, SortKey.stages] at sort
      · rcases List.mem_append.mp later with page | select
        · exact paging spec page
        · simp [ofRequest, Select.stages] at select
  | level level scope => exact levelStages_asks _ level scope paging
  | total => exact countStages_asks _
  | groups _ counted => exact groupCountStages_asks _ pipeline counted

end Recipe

/-- What an event tells of the slots: nothing, or whether one was given out. -/
def Event.slot? : Event → Option Bool
  | .fetched _ => none
  | .claimed _ granted => some granted

/-- The first to ask for slots get them, as many as there are. -/
theorem Session.after?_claimed (limit used : Nat) (before after : Session) (pipeline : Pipeline)
    (granted : Bool) (start : before.limiter = .asked limit used)
    (came : before.after? (.claimed pipeline granted) = some after) :
    after.limiter = .asked limit (used + 1) ∧ (granted = true ↔ used < limit) ∧
      after.sent = if used < limit then before.sent ++ [pipeline] else before.sent := by
  have slot := Limiter.acquire?_asked limit used
  rw [← start] at slot
  simp only [Session.after?, slot] at came
  by_cases free : used < limit
  · obtain ⟨rfl, rfl⟩ : granted = true ∧
        { before.send pipeline with limiter := .asked limit (used + 1) } = after := by
      simpa [free] using came
    exact ⟨rfl, by simp [free], (if_pos free).symm⟩
  · obtain ⟨rfl, rfl⟩ : granted = false ∧ before = after := by simpa [free] using came
    exact ⟨by rw [start, Limiter.asked_full limit used free], by simp [free], (if_neg free).symm⟩

theorem Session.slots_granted (limit used : Nat) (before after : Session) (events : List Event)
    (start : before.limiter = .asked limit used)
    (ran : events.foldlM Session.after? before = some after) :
    after.limiter = .asked limit (used + (events.filterMap Event.slot?).length) ∧
      ∀ place granted, (events.filterMap Event.slot?)[place]? = some granted →
        (granted = true ↔ used + place < limit) := by
  induction events generalizing used before with
  | nil =>
      obtain rfl := Option.some.inj ran
      exact ⟨start, by simp⟩
  | cons event rest ih =>
      rw [List.foldlM_cons] at ran
      obtain ⟨middle, first, later⟩ := Option.bind_eq_some_iff.mp ran
      cases event with
      | fetched pipeline =>
          obtain rfl := Option.some.inj first
          exact ih used (before.send pipeline) start later
      | claimed pipeline granted =>
          obtain ⟨next, given, _⟩ :=
            Session.after?_claimed limit used before middle pipeline granted start first
          obtain ⟨finish, admits⟩ := ih (used + 1) middle next later
          rw [List.filterMap_cons_some (show Event.slot? (.claimed pipeline granted) = _ from rfl),
            List.length_cons, Nat.add_comm _ 1, ← Nat.add_assoc]
          refine ⟨finish, fun place other found => ?_⟩
          cases place with
          | zero =>
              obtain rfl : granted = other := by simpa using found
              exact given
          | succ place =>
              rw [admits place other (by simpa using found), Nat.add_assoc, Nat.add_comm 1]

/-- As many flags are up as there are places below a limit, where these are the ones that are. -/
theorem flags_up (flags : List Bool) (limit : Nat)
    (up : ∀ place flag, flags[place]? = some flag → (flag = true ↔ place < limit)) :
    flags.count true = min limit flags.length := by
  induction flags generalizing limit with
  | nil => simp
  | cons flag rest ih =>
      have first := up 0 flag rfl
      have later := ih (limit - 1) fun place other found => by
        rw [up (place + 1) other (by simpa using found)]
        omega
      cases flag with
      | true =>
          have positive : 0 < limit := first.mp rfl
          rw [List.count_cons_self, later, List.length_cons]
          omega
      | false =>
          have none : limit = 0 := by
            have full := mt first.mpr (by decide)
            omega
          rw [List.count_cons_of_ne (by decide), later, none]
          simp

namespace Job

section AnyStore

/-- The slots that a limiter has given out are those of the summaries that were asked for. -/
structure Counted (limit : Nat) (recipe : Recipe) (session : Session) : Prop where
  limited : session.limiter.limit = limit
  started : session.limiter.started ≤ limit
  counted : (session.sent.filter recipe.asksSummary).length = session.limiter.started

/-- Wherever a run of a call stops, the summaries that it has asked for are those of its slots. -/
theorem load_counted (request : Request) (options : Options) (answers : Answers)
    (later : Job LoadResult) (session : Session)
    (runs : Runs answers (load request options) (Load.start options) later session) :
    Counted options.summaryLimit (.ofRequest request options) session := by
  -- a summary raises the number of those sent together with the number of slots given out, and
  -- every other pipeline leaves both as they are
  refine runs.keeps ?_ ?_ (load_sends request options) ⟨rfl, Nat.zero_le _, rfl⟩
  · intro pipeline fetched session before
    refine ⟨before.limited, before.started, ?_⟩
    rw [Session.send, List.filter_append, List.filter_singleton,
      Recipe.fetches_asks request options pipeline fetched]
    simpa using before.counted
  · rintro pipeline ⟨scope, summaries, listed, rfl⟩ session limiter free before
    unfold Limiter.acquire? at free
    split at free
    · rename_i room
      obtain rfl := Option.some.inj free
      refine ⟨before.limited, before.limited ▸ room, ?_⟩
      rw [Session.send, List.filter_append, List.filter_singleton,
        Recipe.asksSummary_summaryStages _ scope summaries listed]
      simpa using before.counted
    · contradiction

/-- Beyond the limit a summary is neither asked for nor an error. -/
theorem summarize_full (answers : Answers) (recipe : Recipe) (scope : Pipeline)
    (summaries : List Summary) (session : Session)
    (full : session.limiter.limit ≤ session.limiter.started)
    (later : Job (Option (List Value))) (after : Session) :
    Step answers (summarize recipe scope summaries) session later after ↔
      later = .over (.ok none) ∧ after = session := by
  have none := Limiter.acquire?_full _ full
  constructor
  · intro step
    cases step with
    | granted _ _ _ limiter free =>
        rw [none] at free
        contradiction
    | refused => exact ⟨rfl, rfl⟩
  · rintro ⟨rfl, rfl⟩
    exact .refused _ _ after none

end AnyStore

section Filling

variable {α : Type} (summaries : List Summary)

/-- Slots that were asked for by some nodes, in their order: a node has a summary if it got one. Without
summaries to ask for there is neither. -/
structure Tells (slots : List Bool) (nodes : List Group) : Prop where
  listed : summaries ≠ [] → slots = nodes.map fun node => node.summary.isSome
  unlisted : summaries = [] → slots = [] ∧ ∀ node ∈ nodes, node.summary = none

theorem tells_nil : Tells summaries [] [] := ⟨fun _ => rfl, fun _ => ⟨rfl, by simp⟩⟩

theorem tells_append {slots others : List Bool} {nodes rest : List Group}
    (first : Tells summaries slots nodes) (later : Tells summaries others rest) :
    Tells summaries (slots ++ others) (nodes ++ rest) := by
  constructor
  · intro listed
    rw [first.listed listed, later.listed listed, List.map_append]
  · intro none
    obtain ⟨rfl, bare⟩ := first.unlisted none
    obtain ⟨rfl, bareToo⟩ := later.unlisted none
    refine ⟨rfl, fun node member => ?_⟩
    rcases List.mem_append.mp member with inside | inside
    · exact bare node inside
    · exact bareToo node inside

variable (patterns : PatternCompiler) (collection : Collection) (recipe : Recipe)

/-- A job that asks for one slot for each of its nodes, in their order, and gives a summary to those
that get one; unless one of their keys is spelled with operators. -/
def Fills (nodes : α → List Group) (job : Job α) : Prop :=
  ∀ events value, Gives true (collection.store patterns).answers job events value →
    (∀ node ∈ nodes value, Predicate.isOperators node.key = false) →
    Tells summaries (events.filterMap Event.slot?) (nodes value)

theorem allGive_fills {ι : Type} (part : ι → Job Group) (entries : List ι)
    (each : ∀ entry ∈ entries, Fills summaries patterns collection Group.postorder (part entry))
    (traces : List (List Event)) (groups : List Group)
    (all : AllGive true (collection.store patterns).answers (entries.map part) traces groups)
    (plain : ∀ node ∈ Group.postorders groups, Predicate.isOperators node.key = false) :
    Tells summaries (traces.flatten.filterMap Event.slot?) (Group.postorders groups) := by
  induction entries generalizing traces groups with
  | nil =>
      obtain ⟨rfl, rfl⟩ := all
      exact tells_nil summaries
  | cons entry rest ih =>
      obtain ⟨trace, others, group, groups, given, all, rfl, rfl⟩ := all
      rw [Group.postorders] at plain ⊢
      have first := each entry List.mem_cons_self trace group given
        fun node member => plain node (List.mem_append_left _ member)
      have later := ih (fun other member => each other (List.mem_cons_of_mem entry member)) others
        groups all fun node member => plain node (List.mem_append_right _ member)
      rw [List.flatten_cons, List.filterMap_append]
      exact tells_append summaries first later

/-- Over a scope with rows in it, a summary is there just if it gets a slot. -/
theorem summarize_slot {ordered : Bool} (listed : summaries ≠ []) (scope : Pipeline)
    (docs : List Document) (reached : collection.run patterns (recipe.filtered ++ scope) = .ok docs)
    (filled : docs ≠ []) (events : List Event) (found : Option (List Value))
    (given : Gives ordered (collection.store patterns).answers (summarize recipe scope summaries)
      events found) :
    events.filterMap Event.slot? = [found.isSome] := by
  obtain ⟨doc, computed, _⟩ := Summary.run_stages_filled summaries patterns listed docs filled
  have answer : collection.run patterns (recipe.summaryStages scope summaries) = .ok [doc] :=
    (Pipeline.run_append_ok _ _ _ _ _).mpr ⟨docs, reached, computed⟩
  rcases summarize_gives given with ⟨rfl, rfl⟩ | ⟨out, ⟨_, known⟩, rfl, rfl⟩
  · rfl
  · obtain rfl := Except.ok.inj (answer.symm.trans known)
    rfl

variable (cleaner : RowCleaner)

/-- An entry asks for the slots of the groups below it, and then for its own. -/
theorem fills_entry (level : RecipeLevel) (below : Pipeline → Job (List Group)) (scope : Pipeline)
    (entry : Document)
    (inner : Predicate.isOperators (Load.entryKey entry) = false →
      (∃ docs, docs ≠ [] ∧ collection.run patterns
        (recipe.filtered ++ Recipe.keyScope level scope (Load.entryKey entry)) = .ok docs) ∧
      Fills summaries patterns collection Group.postorders
        (below (Recipe.keyScope level scope (Load.entryKey entry)))) :
    Fills summaries patterns collection Group.postorder
      (entryGroup recipe summaries cleaner level below scope entry) := by
  intro events group given plain
  obtain ⟨named, inside, closing, rfl, content, summed⟩ := entryGroup_gives given
  rw [Group.postorder_eq] at plain ⊢
  obtain ⟨⟨docs, filled, reached⟩, fills⟩ := inner (named ▸ plain group (by simp))
  -- the groups below have asked for their slots before the group itself does
  have first : Tells summaries (inside.filterMap Event.slot?) group.descendants := by
    rcases content with ⟨_, rfl, alone⟩ | ⟨_, children, loaded, held⟩
    · rw [Group.descendants, alone]
      exact tells_nil summaries
    · rw [Group.descendants, held] at plain ⊢
      exact fills inside children loaded fun node member => plain node (List.mem_append_left _ member)
  rw [List.filterMap_append]
  refine tells_append summaries first ?_
  rcases summed with ⟨none, rfl, bare⟩ | ⟨listed, told⟩
  · exact ⟨fun listed => absurd none listed, fun _ => ⟨rfl, by simp [bare]⟩⟩
  · refine ⟨fun _ => ?_, fun none => absurd none listed⟩
    exact summarize_slot summaries patterns collection recipe listed _ docs reached filled closing _
      told

variable (sort : List SortKey) (compiled : recipe.sort = SortKey.stages sort)
  (skip take : Option UInt64) (paging : recipe.paging = Paging.stages skip take)

include paging in
theorem entry_scope (level : RecipeLevel) (scope : Pipeline) (rows entries : List Document)
    (within : collection.run patterns (recipe.filtered ++ recipe.sort ++ scope) = .ok rows)
    (ran : collection.run patterns (recipe.levelStages level scope) = .ok entries)
    (entry : Document) (member : entry ∈ entries)
    (plain : Predicate.isOperators (Load.entryKey entry) = false) :
    ∃ docs, docs ≠ [] ∧ collection.run patterns (recipe.filtered ++ recipe.sort ++
      Recipe.keyScope level scope (Load.entryKey entry)) = .ok docs := by
  obtain ⟨extended, keys, items, computed, siblings, _, rfl⟩ :=
    Load.level_entries patterns collection recipe skip take paging level scope rows entries within ran
  obtain ⟨key, shown, rfl⟩ := List.mem_map.mp member
  have inKeys : key ∈ keys := by
    split at shown
    · exact (Paging.page_sublist skip take keys).subset shown
    · exact shown
  obtain ⟨row, inRows, same⟩ := siblings.nonempty key inKeys
  refine ⟨_, ?_, Load.keyScope_ok patterns collection _ level scope rows extended key within computed
    plain⟩
  exact List.ne_nil_of_mem (List.mem_filter.mpr ⟨inRows, by rw [same, Value.equal_refl]⟩)

include compiled paging in
/-- The groups of a call ask for their slots one after the other, in the order of their nodes. -/
theorem loadGroups_fills (levels : List RecipeLevel) (scope : Pipeline) (rows : List Document)
    (rowwise : Pipeline.Rowwise scope)
    (within : collection.run patterns (recipe.filtered ++ recipe.sort ++ scope) = .ok rows) :
    Fills summaries patterns collection Group.postorders
      (loadGroups recipe summaries cleaner levels scope) := by
  -- down the levels, every scope leaves the rows of a class
  induction levels generalizing scope rows with
  | nil =>
      intro events groups given _
      obtain ⟨rfl, rfl⟩ := gives_pure given
      exact tells_nil summaries
  | cons level deeper ih =>
      intro events groups given plain
      obtain ⟨entries, traces, whole, ⟨_, answer⟩, all, merged, rfl⟩ := loadGroups_gives given
      rw [List.filterMap_cons_none rfl, merged.eq_flatten]
      refine allGive_fills summaries patterns collection _ entries (fun entry member => ?_) traces
        groups all plain
      refine fills_entry summaries patterns collection recipe cleaner level _ scope entry ?_
      intro key
      obtain ⟨docs, filled, reached⟩ := entry_scope patterns collection recipe skip take paging level
        scope rows entries within answer entry member key
      have narrowed := Recipe.keyScope_rowwise level scope (Load.entryKey entry) rowwise
      obtain ⟨others, unsorted, order⟩ :=
        Load.unsorted_ok patterns collection recipe sort compiled _ docs narrowed reached
      refine ⟨⟨others, ?_, unsorted⟩, ih _ docs narrowed reached⟩
      rintro rfl
      exact filled order.eq_nil

end Filling

section Whole

variable (patterns : PatternCompiler) (collection : Collection) (request : Request)
  (options : Options)

theorem loadData_fills (events : List Event) (result : LoadResult)
    (given : Gives true (collection.store patterns).answers
      (loadData (.ofRequest request options) request options) events result.data)
    (plain : ∀ node ∈ Group.postorders result.groups, Predicate.isOperators node.key = false) :
    Tells request.groupSummary (events.filterMap Event.slot?) (Group.postorders result.groups) := by
  obtain ⟨data, groupCount, totalCount, summary⟩ := result
  rcases loadData_gives given with ⟨_, rfl, rows, rfl⟩ | ⟨grouped, cleaner, groups, rfl, loaded⟩
  -- rows ask for no slot
  · exact tells_nil _
  · obtain ⟨level, deeper, levels⟩ := List.exists_cons_of_ne_nil grouped
    rw [levels, RecipeLevel.ofLevels] at loaded
    obtain ⟨entries, _, _, ⟨_, answer⟩, _, _, _⟩ := loadGroups_gives loaded
    obtain ⟨rows, within⟩ := Load.levelStages_within _ _ _ _ _ _ answer
    exact loadGroups_fills request.groupSummary patterns collection _ _ request.sort rfl request.skip
      request.take rfl _ [] rows (by simp [Pipeline.Rowwise]) within events groups loaded plain

/-- The total summary asks for a slot where rows were counted, and is there if it gets one. -/
theorem loadTotalSummary_slot {ordered : Bool} (totalCount : Option Nat)
    (found : Option (List Value)) (counting events : List Event)
    (counted : Gives ordered (collection.store patterns).answers
      (loadTotalCount (.ofRequest request options) request) counting totalCount)
    (given : Gives ordered (collection.store patterns).answers
      (loadTotalSummary (.ofRequest request options) request totalCount) events found) :
    (request.totalSummary ≠ [] ∧ (∃ number, totalCount = some number ∧ 0 < number) ∧
        events.filterMap Event.slot? = [found.isSome]) ∨
      ((¬ (request.totalSummary ≠ [] ∧ ∃ number, totalCount = some number ∧ 0 < number)) ∧
        found = none) := by
  unfold loadTotalSummary at given
  split at given
  · rename_i asked
    obtain ⟨positive, listed⟩ : 0 < totalCount.getD 0 ∧ request.totalSummary ≠ [] := by
      simpa using asked
    -- the total count was asked for, so that rows were counted and there is a scope to sum up
    have needed : request.needsTotalCount = true := by simp [Request.needsTotalCount, listed]
    rw [loadTotalCount, if_pos needed] at counted
    obtain ⟨number, numbered, rfl⟩ := gives_map _ _ _ _ counted
    obtain ⟨_, docs, ⟨_, ran⟩, read⟩ := count_gives numbered
    rw [Load.countStages_eq] at ran
    obtain ⟨rows, filtered, rfl⟩ := Load.counted_rows patterns collection _ _ number docs ran read
    have filled : rows ≠ [] := List.length_pos_iff.mp positive
    rw [← List.append_nil (Recipe.filtered _)] at filtered
    exact .inl ⟨listed, ⟨_, rfl, positive⟩, summarize_slot request.totalSummary patterns collection _
      listed [] rows filtered filled events found given⟩
  · rename_i unasked
    refine .inr ⟨?_, (gives_pure given).1⟩
    rintro ⟨listed, number, rfl, positive⟩
    exact unasked (by simp [listed, positive])

/-- The slots of a call that has run to its end: those of the groups, and then the one of the total
summary, if there is one to ask for. -/
theorem load_slots {ordered : Bool} (events : List Event) (result : LoadResult) (after : Session)
    (given : Gives ordered (collection.store patterns).answers (load request options) events result)
    (ran : events.foldlM Session.after? (Load.start options) = some after) :
    ∃ own slots, Gives ordered (collection.store patterns).answers
        (loadData (.ofRequest request options) request options) own result.data ∧
      slots.Perm (own.filterMap Event.slot?) ∧
      (ordered = true → slots = own.filterMap Event.slot?) ∧
      (∀ place granted, slots[place]? = some granted →
        (granted = true ↔ place < options.summaryLimit)) ∧
      (result.summary.isSome = true ↔ request.totalSummary ≠ [] ∧
        (∃ number, result.totalCount = some number ∧ 0 < number) ∧
        slots.length < options.summaryLimit) := by
  obtain ⟨own, counts, whole, rest, data, counted, joined, summed, rfl⟩ := load_gives given
  obtain ⟨first, second, groups, total, rfl⟩ := loadCounts_gives _ counted
  -- the counts ask for no slot
  have none : (first ++ second).filterMap Event.slot? = [] := by
    rw [loadGroupCount_gives _ groups, loadTotalCount_gives _ total]
    cases (Recipe.ofRequest request options).groupCountStages? <;> cases request.groupCount <;>
      cases request.needsTotalCount <;> rfl
  obtain ⟨middle, firstRan, lastRan⟩ : ∃ middle,
      whole.foldlM Session.after? (Load.start options) = some middle ∧
        rest.foldlM Session.after? middle = some after := by
    rw [List.foldlM_append] at ran
    exact Option.bind_eq_some_iff.mp ran
  obtain ⟨left, admits⟩ := Session.slots_granted options.summaryLimit 0 _ middle whole
    (Limiter.ofLimit_asked _) firstRan
  obtain ⟨_, last⟩ := Session.slots_granted options.summaryLimit _ middle after rest left lastRan
  rw [Nat.zero_add] at last
  refine ⟨own, whole.filterMap Event.slot?, data, ?_, ?_, fun place granted found => ?_, ?_⟩
  · have order := joined.interleaves.perm.filterMap Event.slot?
    rwa [List.filterMap_append, none, List.append_nil] at order
  · rintro rfl
    rw [joined.interleaves.eq_append, List.filterMap_append, none, List.append_nil]
  · rw [admits place granted found, Nat.zero_add]
  · rcases loadTotalSummary_slot patterns collection request options _ _ _ rest total summed with
      ⟨listed, positive, slot⟩ | ⟨unasked, absent⟩
    · have given := last 0 result.summary.isSome (by rw [slot]; rfl)
      rw [given, and_iff_right listed, and_iff_right positive]
      rfl
    · rw [absent]
      constructor
      · intro yes
        contradiction
      · rintro ⟨listed, positive, _⟩
        exact absurd ⟨listed, positive⟩ unasked

end Whole

end Job

namespace LoadResult

variable (patterns : PatternCompiler) (collection : Collection) (request : Request)
  (options : Options)

/-- Visits by city and device, with the summaries of each and of all. -/
def visitsSummed : Request :=
  { visitsByCity with
    groupSummary := [⟨"count", none⟩, ⟨"max", some "device"⟩]
    totalSummary := [⟨"min", some "device"⟩] }

/-- Two tills in each of forty shops. -/
def tills : Collection :=
  .ofDocuments <| (List.range 40).flatMap fun shop =>
    [[("shop", .int shop), ("till", .int 1)], [("shop", .int shop), ("till", .int 2)]]

def tillsByShop : Request :=
  { group := [{ selector := "shop" }, { selector := "till" }]
    groupSummary := [⟨"count", none⟩] }

end LoadResult

end DataGrid
