import DataGrid.Proofs.Load.Counts
import DataGrid.Proofs.Load.Events
/-!
The events of each call of a load, whether its parts are done side by side or in order. A count sends
its pipeline, a summary asks for one slot, and a group asks for what is below it before its summary.
-/
namespace DataGrid.Job

variable {ordered : Bool} {answers : Answers}

theorem send_gives {pipeline : Pipeline} {events : List Event} {docs : List Document}
    (given : Gives ordered answers (send pipeline) events docs) :
    answers pipeline (.ok docs) ∧ events = [.fetched pipeline] := by
  obtain ⟨answer, rest, known, ⟨same, rfl⟩, rfl⟩ := given
  cases answer with
  | error fault => contradiction
  | ok docs' =>
      obtain rfl := Except.ok.inj same
      exact ⟨known, rfl⟩

theorem count_gives {pipeline : Pipeline} {field : String} {events : List Event} {number : Nat}
    (given : Gives ordered answers (count pipeline field) events number) :
    events = [.fetched pipeline] ∧
      ∃ docs, answers pipeline (.ok docs) ∧ Load.counted? field docs = some number := by
  obtain ⟨docs, own, rest, sent, last, rfl⟩ := gives_bind _ number _ events given
  obtain ⟨known, rfl⟩ := send_gives sent
  cases docs with
  | nil =>
      obtain ⟨rfl, rfl⟩ := gives_pure last
      exact ⟨rfl, [], known, rfl⟩
  | cons doc others =>
      dsimp only at last
      split at last
      · rename_i stored
        obtain ⟨rfl, rfl⟩ := gives_pure last
        exact ⟨rfl, _, known, stored⟩
      · exact nomatch last.1

variable {recipe : Recipe} {summaries : List Summary} {cleaner : RowCleaner}

/-- A summary asks for a slot. If it gets one, it tells what the store answers, and otherwise
nothing. -/
theorem summarize_gives {scope : Pipeline} {events : List Event} {found : Option (List Value)}
    (given : Gives ordered answers (summarize recipe scope summaries) events found) :
    (events = [.claimed (recipe.summaryStages scope summaries) false] ∧ found = none) ∨
      ∃ docs, answers (recipe.summaryStages scope summaries) (.ok docs) ∧
        events = [.claimed (recipe.summaryStages scope summaries) true] ∧
        found = docs.head?.map (Summary.read summaries) := by
  obtain ⟨value, own, rest, sent, last, rfl⟩ := gives_bind _ found _ events given
  obtain ⟨rfl, rfl⟩ := gives_pure last
  rcases sent with ⟨answer, rest, known, ⟨same, rfl⟩, rfl⟩ | ⟨rest, ⟨same, rfl⟩, rfl⟩
  · cases answer with
    | error fault => contradiction
    | ok docs =>
        obtain rfl := Except.ok.inj same
        exact .inr ⟨docs, known, rfl, rfl⟩
  · obtain rfl := Except.ok.inj same
    exact .inl ⟨rfl, rfl⟩

/-- The group of an entry asks for the groups below it, where it is not on the deepest level, and
then for its summary, if there is one to ask for. -/
theorem entryGroup_gives {level : RecipeLevel} {below : Pipeline → Job (List Group)}
    {scope : Pipeline} {entry : Document} {events : List Event} {group : Group}
    (given : Gives ordered answers (entryGroup recipe summaries cleaner level below scope entry)
      events group) :
    group.key = Load.entryKey entry ∧ ∃ inside closing, events = inside ++ closing ∧
      ((level.last = true ∧ inside = [] ∧ group.groups? = none) ∨
        (level.last = false ∧ ∃ children, Gives ordered answers
          (below (Recipe.keyScope level scope (Load.entryKey entry))) inside children ∧
          group.groups? = some children)) ∧
      ((summaries = [] ∧ closing = [] ∧ group.summary = none) ∨
        (summaries ≠ [] ∧ Gives ordered answers
          (summarize recipe (Recipe.keyScope level scope (Load.entryKey entry)) summaries) closing
          group.summary)) := by
  obtain ⟨own, inside, closing, content, summed, rfl⟩ := gives_bind _ group _ events given
  have known : own.key = Load.entryKey entry ∧ own.summary = none ∧
      ((level.last = true ∧ inside = [] ∧ own.groups? = none) ∨
        (level.last = false ∧ ∃ children, Gives ordered answers
          (below (Recipe.keyScope level scope (Load.entryKey entry))) inside children ∧
          own.groups? = some children)) := by
    cases last : level.last with
    | true =>
        rw [Job.content, if_pos last] at content
        obtain ⟨named, bare, alone⟩ :=
          Load.ownGroup_bare cleaner level entry (Load.entryKey entry) own content.1
        exact ⟨named, bare, .inl ⟨rfl, content.2, alone⟩⟩
    | false =>
        rw [Job.content, if_neg (by simp [last])] at content
        obtain ⟨children, loaded, rfl⟩ := gives_map _ own _ inside content
        exact ⟨rfl, rfl, .inr ⟨rfl, children, loaded, rfl⟩⟩
  obtain ⟨named, bare, content⟩ := known
  unfold summarized at summed
  split at summed
  · rename_i none
    obtain ⟨rfl, rfl⟩ := gives_pure summed
    exact ⟨named, inside, [], rfl, content, .inl ⟨List.isEmpty_iff.mp none, rfl, bare⟩⟩
  · rename_i asked
    obtain ⟨found, told, rest, tells, made, rfl⟩ := gives_bind _ group _ closing summed
    obtain ⟨rfl, rfl⟩ := gives_pure made
    rw [Group.key_withSummary, Group.groups?_withSummary, Group.summary_withSummary]
    exact ⟨named, inside, told, by rw [List.append_nil], content,
      .inr ⟨fun none => asked (List.isEmpty_iff.mpr none), tells⟩⟩

/-- The groups of a level ask for their entries, and then each for what is its own. -/
theorem loadGroups_gives {level : RecipeLevel} {deeper : List RecipeLevel} {scope : Pipeline}
    {events : List Event} {groups : List Group}
    (given : Gives ordered answers (loadGroups recipe summaries cleaner (level :: deeper) scope)
      events groups) :
    ∃ entries traces rest, answers (recipe.levelStages level scope) (.ok entries) ∧
      AllGive ordered answers
        (entries.map (entryGroup recipe summaries cleaner level
          (loadGroups recipe summaries cleaner deeper) scope)) traces groups ∧
      Merges ordered traces rest ∧
      events = .fetched (recipe.levelStages level scope) :: rest := by
  obtain ⟨entries, own, rest, sent, each, rfl⟩ := gives_bind _ groups _ events given
  obtain ⟨known, rfl⟩ := send_gives sent
  obtain ⟨values, traces, whole, rest, all, merged, made, rfl⟩ := each
  obtain ⟨rfl, rfl⟩ := gives_pure made
  exact ⟨entries, traces, whole, known, all, merged, by rw [List.append_nil]; rfl⟩

section Whole

variable (recipe) {request : Request} {options : Options} {events : List Event}

/-- The data of a call are the rows that one pipeline yields, or the groups of its levels. -/
theorem loadData_gives {data : LoadData}
    (given : Gives ordered answers (loadData (.ofRequest request options) request options) events
      data) :
    (request.group = [] ∧ events = [.fetched (Recipe.ofRequest request options).flatStages] ∧
        ∃ rows, data = .rows rows) ∨
      (request.group ≠ [] ∧ ∃ cleaner groups, data = .groups groups ∧
        Gives ordered answers (loadGroups (.ofRequest request options) request.groupSummary cleaner
          (RecipeLevel.ofLevels options.offset 0 request.group) []) events groups) := by
  rw [loadData] at given
  by_cases flat : request.group = []
  · rw [if_neg (by simp [Request.isGrouped, flat])] at given
    obtain ⟨rows, sent, rfl⟩ := gives_map _ _ _ _ given
    exact .inl ⟨flat, (send_gives sent).2, _, rfl⟩
  · rw [if_pos (by simp [Request.isGrouped, flat])] at given
    obtain ⟨groups, loaded, rfl⟩ := gives_map _ _ _ _ given
    exact .inr ⟨flat, _, groups, rfl, loaded⟩

/-- A number that is asked for sends its pipeline, and does so before anything else. -/
theorem asked_gives {wanted : Bool} {pipeline : Pipeline} {field : String} {found : Option Nat}
    (given : Gives ordered answers
      (if wanted then some <$> count pipeline field else pure none) events found) :
    events = if wanted then [.fetched pipeline] else [] := by
  cases wanted with
  | false => exact (gives_pure given).2
  | true =>
      obtain ⟨number, counted, rfl⟩ := gives_map _ found _ events given
      exact (count_gives counted).1

theorem loadGroupCount_gives {found : Option Nat}
    (given : Gives ordered answers (loadGroupCount recipe request) events found) :
    events = if request.groupCount then recipe.groupCountStages?.toList.map .fetched else [] := by
  unfold loadGroupCount at given
  cases compiled : recipe.groupCountStages? with
  | none =>
      rw [compiled] at given
      rw [(gives_pure given).2]
      simp
  | some pipeline =>
      rw [compiled] at given
      exact asked_gives given

theorem loadGroupCount_begun (begun : (loadGroupCount recipe request).Begun) :
    (if request.groupCount then recipe.groupCountStages?.toList.map Event.fetched else []) = [] := by
  unfold loadGroupCount at begun
  cases compiled : recipe.groupCountStages? with
  | none => simp
  | some pipeline =>
      rw [compiled] at begun
      cases wanted : request.groupCount with
      | false => rfl
      | true =>
          rw [wanted] at begun
          exact begun.elim

theorem loadTotalCount_gives {found : Option Nat}
    (given : Gives ordered answers (loadTotalCount recipe request) events found) :
    events = if request.needsTotalCount then [.fetched recipe.countStages] else [] :=
  asked_gives given

/-- The number of groups is asked for before the total count. -/
theorem loadCounts_gives {groupCount totalCount : Option Nat}
    (given : Gives ordered answers (loadCounts recipe request) events (groupCount, totalCount)) :
    ∃ own others, Gives ordered answers (loadGroupCount recipe request) own groupCount ∧
      Gives ordered answers (loadTotalCount recipe request) others totalCount ∧
      events = own ++ others := by
  obtain ⟨one, two, own, others, whole, rest, left, right, joined, made, rfl⟩ := given
  obtain ⟨same, rfl⟩ := gives_pure made
  obtain ⟨rfl, rfl⟩ := Prod.mk.inj same
  refine ⟨own, others, left, right, ?_⟩
  rw [List.append_nil]
  have known := loadGroupCount_gives recipe left
  cases joined with
  | begun begun rest =>
      rw [loadGroupCount_begun recipe begun] at known
      subst known
      rw [rest.eq_second, List.nil_append]
  | @opens event later _ whole rest =>
      -- its one event is the first, and none is left to come between the others
      have short : (event :: later).length ≤ 1 := by
        rw [known]
        cases recipe.groupCountStages? <;> split <;> simp
      obtain rfl : later = [] := by simpa using short
      rw [rest.eq_second, List.singleton_append]

theorem load_gives {result : LoadResult}
    (given : Gives ordered answers (load request options) events result) :
    let recipe := Recipe.ofRequest request options
    ∃ own counts whole rest, Gives ordered answers (loadData recipe request options) own result.data ∧
      Gives ordered answers (loadCounts recipe request) counts
        (result.groupCount, result.totalCount) ∧
      Joins ordered (loadData recipe request options).Begun own counts whole ∧
      Gives ordered answers (loadTotalSummary recipe request result.totalCount) rest
        result.summary ∧
      events = whole ++ rest := by
  obtain ⟨data, ⟨groupCount, totalCount⟩, own, counts, whole, rest, left, right, joined, later, rfl⟩ :=
    given
  obtain ⟨summary, rest, last, summed, made, rfl⟩ := gives_bind _ result _ _ later
  obtain ⟨rfl, rfl⟩ := gives_pure made
  exact ⟨own, counts, whole, rest, left, right, joined, summed, by rw [List.append_nil]⟩

end Whole

end DataGrid.Job
