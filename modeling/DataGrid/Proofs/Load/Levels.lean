import DataGrid.Proofs.Load.InOrder
/-!
The parts of a call, and one level of it, entry by entry. The group of an entry is completed in two
steps: its content, which for all but the deepest level are the groups below it, and then its
summary. An invariant of the session holds at the end of a call when no pipeline and no summary of
the call breaks it.
-/
namespace DataGrid

namespace Group

variable (group : Group) (summary : Option (List Value))

@[simp] theorem key_withSummary : (group.withSummary summary).key = group.key := by
  cases group <;> rfl

@[simp] theorem summary_withSummary : (group.withSummary summary).summary = summary := by
  cases group <;> rfl

@[simp] theorem size_withSummary : (group.withSummary summary).size = group.size := by
  cases group <;> rfl

@[simp] theorem rows?_withSummary : (group.withSummary summary).rows? = group.rows? := by
  cases group <;> rfl

@[simp] theorem groups?_withSummary : (group.withSummary summary).groups? = group.groups? := by
  cases group <;> rfl

end Group

/-- The pipelines of a call that ask for no summary. -/
inductive Recipe.Fetches (recipe : Recipe) : Pipeline → Prop
  | rows : Fetches recipe recipe.flatStages
  | level (level : RecipeLevel) (scope : Pipeline) : Fetches recipe (recipe.levelStages level scope)
  | total : Fetches recipe recipe.countStages
  | groups (pipeline : Pipeline) (counted : recipe.groupCountStages? = some pipeline) :
      Fetches recipe pipeline

namespace Load

variable (store : Store) (recipe : Recipe) (summaries : List Summary) (cleaner : RowCleaner)

theorem run_summarize (store : Store) (recipe : Recipe) (scope : Pipeline)
    (summaries : List Summary) (session : Session) :
    run (summarize store recipe scope summaries) session =
      match session.limiter.acquire? with
      | some limiter =>
          (((store session.sent (recipe.summaryStages scope summaries)).mapError .store).map
              fun docs => docs.head?.map (Summary.read summaries),
            ⟨session.sent ++ [recipe.summaryStages scope summaries], limiter⟩)
      | none => (.ok none, session) := by
  rw [summarize_def, run_bind, run_limited]
  cases session.limiter.acquire? with
  | none => rfl
  | some limiter =>
      dsimp only
      rw [run_map, run_send]
      cases store session.sent (recipe.summaryStages scope summaries) <;> rfl

section Succeeded

variable (level : RecipeLevel) (entry : Document) (before after : Session)

/-- A group of the deepest level is made of its entry alone: of the rows or the number in it. -/
theorem ownGroup_ok (key : Value) (group : Group)
    (read : ownGroup level cleaner key entry = .ok group) :
    (level.withItems = true ∧ ∃ items rows, entry.get? "items" = some items ∧
        cleaner.cleanItems items = .ok rows ∧ group = .ofRows key rows) ∨
      (level.withItems = false ∧ ∃ number,
        (entry.get? "count").bind Value.nat64? = some number ∧ group = .counted key number) := by
  unfold ownGroup at read
  split at read
  · rename_i expanded
    split at read
    · rename_i items stored
      obtain ⟨rows, cleaned, same⟩ := (Result.bind_ok _ _ _).mp read
      exact Or.inl ⟨expanded, items, rows, stored, cleaned, (Except.ok.inj same).symm⟩
    · contradiction
  · rename_i counted
    split at read
    · rename_i number stored
      exact Or.inr ⟨by simpa using counted, number, stored, (Except.ok.inj read).symm⟩
    · contradiction

theorem ownGroup_bare (key : Value) (group : Group)
    (read : ownGroup level cleaner key entry = .ok group) :
    group.key = key ∧ group.summary = none ∧ group.groups? = none := by
  rcases ownGroup_ok cleaner level entry key group read with ⟨_, _, _, _, _, rfl⟩ | ⟨_, _, _, rfl⟩
  · exact ⟨rfl, rfl, rfl⟩
  · exact ⟨rfl, rfl, rfl⟩

theorem content_ok (below : Load (List Group)) (own : Group)
    (ran : run (content level cleaner entry below) before = (.ok own, after)) :
    (level.last = true ∧ ownGroup level cleaner (entryKey entry) entry = .ok own ∧ after = before) ∨
      (level.last = false ∧ ∃ children, run below before = (.ok children, after) ∧
        own = .ofGroups (entryKey entry) children) := by
  unfold content at ran
  split at ran
  · rename_i last
    obtain ⟨read, same⟩ := Prod.mk.inj ran
    exact Or.inl ⟨last, read, same.symm⟩
  · rename_i inner
    obtain ⟨children, loaded, same⟩ := (run_map_ok _ _ _ _ _).mp ran
    exact Or.inr ⟨by simpa using inner, children, loaded, same.symm⟩

theorem content_own (below : Load (List Group)) (own : Group)
    (ran : run (content level cleaner entry below) before = (.ok own, after)) :
    own.key = entryKey entry ∧ own.summary = none := by
  rcases content_ok cleaner level entry before after below own ran with
    ⟨_, read, _⟩ | ⟨_, children, _, rfl⟩
  · obtain ⟨named, bare, _⟩ := ownGroup_bare cleaner level entry _ own read
    exact ⟨named, bare⟩
  · exact ⟨rfl, rfl⟩

theorem summarize_ok (scope : Pipeline) (found : Option (List Value))
    (ran : run (summarize store recipe scope summaries) before = (.ok found, after)) :
    (before.limiter.acquire? = none ∧ found = none ∧ after = before) ∨
      ∃ limiter docs, before.limiter.acquire? = some limiter ∧
        store before.sent (recipe.summaryStages scope summaries) = .ok docs ∧
        found = docs.head?.map (Summary.read summaries) ∧
        after = ⟨before.sent ++ [recipe.summaryStages scope summaries], limiter⟩ := by
  rw [run_summarize] at ran
  cases slot : before.limiter.acquire? with
  | none =>
      rw [slot] at ran
      obtain ⟨same, rest⟩ := Prod.mk.inj ran
      exact Or.inl ⟨rfl, (Except.ok.inj same).symm, rest.symm⟩
  | some limiter =>
      rw [slot] at ran
      obtain ⟨same, rest⟩ := Prod.mk.inj ran
      cases answer : store before.sent (recipe.summaryStages scope summaries) with
      | error fault =>
          rw [answer] at same
          contradiction
      | ok docs =>
          rw [answer] at same
          exact Or.inr ⟨limiter, docs, rfl, rfl, (Except.ok.inj same).symm, rest.symm⟩

theorem summarized_ok (inner : Pipeline) (own group : Group)
    (ran : run (summarized store recipe summaries inner own) before = (.ok group, after)) :
    (summaries = [] ∧ group = own ∧ after = before) ∨
      (summaries ≠ [] ∧ ∃ found, run (summarize store recipe inner summaries) before =
        (.ok found, after) ∧ group = own.withSummary found) := by
  unfold summarized at ran
  split at ran
  · rename_i none
    exact Or.inl ⟨List.isEmpty_iff.mp none, (run_pure_ok _ _ _ _).mp ran⟩
  · rename_i asked
    obtain ⟨found, middle, first, last⟩ := (run_bind_ok _ _ _ _ _).mp ran
    obtain ⟨made, rfl⟩ := (run_pure_ok _ _ _ _).mp last
    exact Or.inr ⟨fun none => asked (List.isEmpty_iff.mpr none), found, first, made⟩

/-- The group of an entry. On the deepest level its content is read from the entry alone, and above it
is the groups below; its summary is the last that is asked for, if any is. -/
theorem entryGroup_ok (deeper : List RecipeLevel) (scope : Pipeline) (group : Group)
    (ran : run (entryGroup store recipe summaries cleaner level deeper scope entry) before =
      (.ok group, after)) :
    group.key = entryKey entry ∧ ∃ middle,
      ((level.last = true ∧ middle = before ∧ group.groups? = none ∧
          ∃ own, ownGroup level cleaner (entryKey entry) entry = .ok own ∧
            group.size = own.size ∧ group.rows? = own.rows?) ∨
        (level.last = false ∧ ∃ children, run (loadGroups store recipe summaries cleaner deeper
            (Recipe.keyScope level scope (entryKey entry))) before = (.ok children, middle) ∧
          group.groups? = some children ∧ group.size = children.length ∧ group.rows? = none)) ∧
      ((summaries = [] ∧ group.summary = none ∧ after = middle) ∨
        (summaries ≠ [] ∧ run (summarize store recipe (Recipe.keyScope level scope (entryKey entry))
          summaries) middle = (.ok group.summary, after))) := by
  obtain ⟨own, middle, first, later⟩ := (run_bind_ok _ _ _ _ _).mp ran
  obtain ⟨named, bare⟩ := content_own cleaner level entry before middle _ own first
  -- the summary is put into the group and changes nothing else of it
  have same : group.key = own.key ∧ group.size = own.size ∧ group.rows? = own.rows? ∧
      group.groups? = own.groups? := by
    rcases summarized_ok _ _ _ _ _ _ _ _ later with ⟨_, rfl, _⟩ | ⟨_, found, _, rfl⟩
    · exact ⟨rfl, rfl, rfl, rfl⟩
    · simp
  obtain ⟨key, size, rows, groups⟩ := same
  refine ⟨key.trans named, middle, ?_, ?_⟩
  · rcases content_ok cleaner level entry before middle _ own first with
      ⟨last, read, started⟩ | ⟨inner, children, loaded, rfl⟩
    · have alone := (ownGroup_bare cleaner level entry _ own read).2.2
      exact Or.inl ⟨last, started, groups.trans alone, own, read, size, rows⟩
    · exact Or.inr ⟨inner, children, loaded, groups, size, rows⟩
  · rcases summarized_ok _ _ _ _ _ _ _ _ later with ⟨none, rfl, ended⟩ | ⟨listed, found, sent, rfl⟩
    · exact Or.inl ⟨none, bare, ended⟩
    · exact Or.inr ⟨listed, by rw [sent, Group.summary_withSummary]⟩

end Succeeded

section Failed

theorem cleanItem_malformed (value : Value) (fault : LoadError)
    (failed : cleaner.cleanItem value = .error fault) : ∃ reason, fault = .malformed reason := by
  cases value with
  | object row => contradiction
  | _ => exact ⟨_, (Except.error.inj failed).symm⟩

theorem cleanItems_malformed (items : Value) (fault : LoadError)
    (failed : cleaner.cleanItems items = .error fault) : ∃ reason, fault = .malformed reason := by
  cases items with
  | array values =>
      obtain ⟨value, _, found⟩ := Result.mapM_error _ values fault failed
      exact cleanItem_malformed cleaner value fault found
  | _ => exact ⟨_, (Except.error.inj failed).symm⟩

theorem ownGroup_malformed (level : RecipeLevel) (key : Value) (entry : Document) (fault : LoadError)
    (failed : ownGroup level cleaner key entry = .error fault) :
    ∃ reason, fault = .malformed reason := by
  unfold ownGroup at failed
  split at failed
  · split at failed
    · rcases (Result.bind_error _ _ _).mp failed with read | ⟨rows, _, made⟩
      · exact cleanItems_malformed cleaner _ fault read
      · contradiction
    · exact ⟨_, (Except.error.inj failed).symm⟩
  · split at failed
    · contradiction
    · exact ⟨_, (Except.error.inj failed).symm⟩

end Failed

section Ended

variable {recipe} {kept : Session → Prop} {failed : LoadError → Session → Prop}
  (malformed : ∀ fault session, kept session → failed (.malformed fault) session)

theorem count_ends (pipeline : Pipeline) (field : String)
    (sent : Ends kept failed (send store pipeline))
    (malformed : ∀ fault session, kept session → failed (.malformed fault) session) :
    Ends kept failed (count store pipeline field) := by
  rw [count_def]
  apply ends_bind _ _ sent
  intro docs
  cases docs with
  | nil => exact ends_pure 0
  | cons doc rest =>
      dsimp only
      split
      · exact ends_pure _
      · exact ends_throw _ (malformed _)

/-- A summary ends as its pipeline does, when it does not matter how many slots are left. -/
theorem summarize_ends (scope : Pipeline)
    (sent : Ends kept failed (send store (recipe.summaryStages scope summaries)))
    (free : ∀ session limiter, kept session → kept { session with limiter := limiter }) :
    Ends kept failed (summarize store recipe scope summaries) := by
  rw [summarize_def]
  exact ends_bind _ _ (ends_limited _ sent free) fun _ => ends_pure _

theorem summarized_ends (inner : Pipeline) (group : Group)
    (summed : summaries ≠ [] → Ends kept failed (summarize store recipe inner summaries)) :
    Ends kept failed (summarized store recipe summaries inner group) := by
  unfold summarized
  split
  · exact ends_pure group
  · rename_i asked
    have listed : summaries ≠ [] := fun none => asked (by rw [none]; rfl)
    exact ends_bind _ _ (summed listed) fun summary => ends_pure _

/-- A call ends as its parts do: the data, the two counts and the summary, in the order in which they
are asked for. -/
theorem parts_end (request : Request) (options : Options)
    (data : Ends kept failed (loadData store (.ofRequest request options) request options))
    (groupCount : Ends kept failed (loadGroupCount store (.ofRequest request options) request))
    (totalCount : Ends kept failed (loadTotalCount store (.ofRequest request options) request))
    (summed : request.totalSummary ≠ [] →
      Ends kept failed (summarize store (.ofRequest request options) [] request.totalSummary)) :
    Ends kept failed (load store request options) := by
  rw [load_def]
  refine ends_bind _ _ data fun found => ?_
  refine ends_bind _ _ groupCount fun groups => ?_
  refine ends_bind _ _ totalCount fun total => ?_
  refine ends_bind _ _ ?_ fun summary => ends_pure _
  rw [loadTotalSummary_def]
  split
  · rename_i asked
    exact summed fun none => by simp [none] at asked
  · exact ends_pure none

include malformed

theorem content_ends (level : RecipeLevel) (entry : Document) (below : Load (List Group))
    (loaded : Ends kept failed below) : Ends kept failed (content level cleaner entry below) := by
  unfold content
  split
  · intro session before
    cases read : ownGroup level cleaner (entryKey entry) entry with
    | ok own => exact before
    | error fault =>
        obtain ⟨reason, rfl⟩ := ownGroup_malformed cleaner level _ entry fault read
        exact malformed reason session before
  · exact ends_map _ _ loaded

theorem loadGroups_ends (levels : List RecipeLevel) (scope : Pipeline)
    (fetched : ∀ level scope, Ends kept failed (send store (recipe.levelStages level scope)))
    (summed : summaries ≠ [] → ∀ scope,
      Ends kept failed (summarize store recipe scope summaries)) :
    Ends kept failed (loadGroups store recipe summaries cleaner levels scope) := by
  induction levels generalizing scope with
  | nil => exact ends_pure []
  | cons level deeper ih =>
      rw [loadGroups_cons]
      apply ends_bind _ _ (fetched level scope)
      intro entries
      apply ends_mapM
      intro entry _
      apply ends_bind _ _ (content_ends cleaner malformed level entry _ (ih _))
      intro group
      exact summarized_ends store summaries _ group fun listed => summed listed _

variable (request : Request)

theorem loadGroupCount_ends
    (fetched : ∀ pipeline, recipe.groupCountStages? = some pipeline →
      Ends kept failed (send store pipeline)) :
    Ends kept failed (loadGroupCount store recipe request) := by
  rw [loadGroupCount_def]
  split
  · rename_i pipeline found
    split
    · exact ends_map _ _ (count_ends store _ _ (fetched pipeline found) malformed)
    · exact ends_pure none
  · exact ends_pure none

theorem loadTotalCount_ends (fetched : Ends kept failed (send store recipe.countStages)) :
    Ends kept failed (loadTotalCount store recipe request) := by
  rw [loadTotalCount_def]
  split
  · exact ends_map _ _ (count_ends store _ _ fetched malformed)
  · exact ends_pure none

theorem load_ends (options : Options)
    (fetched : ∀ pipeline, (Recipe.ofRequest request options).Fetches pipeline →
      Ends kept failed (send store pipeline))
    (summed : ∀ scope summaries, summaries ≠ [] →
      Ends kept failed (summarize store (.ofRequest request options) scope summaries)) :
    Ends kept failed (load store request options) := by
  refine parts_end store request options ?_ ?_ ?_ fun listed => summed [] _ listed
  · rw [loadData_def]
    split
    · refine ends_map _ _ (loadGroups_ends store _ _ malformed _ _ ?_
        fun listed scope => summed scope _ listed)
      exact fun level scope => fetched _ (.level level scope)
    · exact ends_map _ _ (fetched _ .rows)
  · exact loadGroupCount_ends store malformed request fun _ found => fetched _ (.groups _ found)
  · exact loadTotalCount_ends store malformed request (fetched _ .total)

end Ended

section Kept

variable {recipe} {inv : Session → Prop} (request : Request)

/-- What every pipeline of a call keeps, and every summary, the call keeps. -/
theorem load_keeps (options : Options)
    (fetched : ∀ pipeline, (Recipe.ofRequest request options).Fetches pipeline →
      Keeps inv (send store pipeline))
    (summed : ∀ scope summaries, summaries ≠ [] →
      Keeps inv (summarize store (.ofRequest request options) scope summaries)) :
    Keeps inv (load store request options) :=
  (keeps_iff inv _).mpr (load_ends store (fun _ _ before => before) request options
    (fun pipeline fetches => (keeps_iff inv _).mp (fetched pipeline fetches))
    fun scope summaries listed => (keeps_iff inv _).mp (summed scope summaries listed))

end Kept

variable (request : Request) (options : Options)

/-- The parts of a call, each in the session that the one before has left. -/
theorem load_ok (before after : Session) (result : LoadResult)
    (ran : run (load store request options) before = (.ok result, after)) :
    ∃ first second third,
      run (loadData store (.ofRequest request options) request options) before =
        (.ok result.data, first) ∧
      run (loadGroupCount store (.ofRequest request options) request) first =
        (.ok result.groupCount, second) ∧
      run (loadTotalCount store (.ofRequest request options) request) second =
        (.ok result.totalCount, third) ∧
      run (loadTotalSummary store (.ofRequest request options) request result.totalCount) third =
        (.ok result.summary, after) := by
  rw [load_def] at ran
  obtain ⟨data, first, loaded, later⟩ := (run_bind_ok _ _ _ _ _).mp ran
  obtain ⟨groupCount, second, groups, later⟩ := (run_bind_ok _ _ _ _ _).mp later
  obtain ⟨totalCount, third, total, later⟩ := (run_bind_ok _ _ _ _ _).mp later
  obtain ⟨summary, last, summed, made⟩ := (run_bind_ok _ _ _ _ _).mp later
  obtain ⟨rfl, rfl⟩ := (run_pure_ok _ _ _ _).mp made
  exact ⟨first, second, third, loaded, groups, total, summed⟩

theorem ofRequest_ran (outcome : Except LoadError LoadResult) (sent : List Pipeline)
    (loaded : LoadResult.ofRequest store request options = (outcome, sent)) :
    ∃ after, run (load store request options) (start options) = (outcome, after) ∧
      after.sent = sent := by
  obtain ⟨same, rest⟩ := Prod.mk.inj loaded
  exact ⟨_, Prod.ext same rfl, rest⟩

theorem returns_load (result : LoadResult)
    (loaded : (LoadResult.ofRequest store request options).1 = .ok result) :
    Returns (loadData store (.ofRequest request options) request options) result.data ∧
      Returns (loadGroupCount store (.ofRequest request options) request) result.groupCount ∧
      Returns (loadTotalCount store (.ofRequest request options) request) result.totalCount := by
  obtain ⟨first, second, third, data, groups, total, _⟩ :=
    load_ok store request options (start options) _ result (Prod.ext loaded rfl)
  exact ⟨⟨_, _, data⟩, ⟨_, _, groups⟩, ⟨_, _, total⟩⟩

theorem returns_summary (result : LoadResult)
    (loaded : (LoadResult.ofRequest store request options).1 = .ok result) :
    Returns (loadTotalSummary store (.ofRequest request options) request result.totalCount)
      result.summary := by
  obtain ⟨_, _, _, _, _, _, summed⟩ :=
    load_ok store request options (start options) _ result (Prod.ext loaded rfl)
  exact ⟨_, _, summed⟩

theorem returns_groups (grouped : request.group ≠ []) (data : LoadData)
    (returned : Returns (loadData store (.ofRequest request options) request options) data) :
    ∃ groups, data = .groups groups ∧
      Returns (loadGroups store (.ofRequest request options) request.groupSummary
        ((Recipe.ofRequest request options).cleaner options)
        (Recipe.ofRequest request options).levels []) groups := by
  have isGrouped : request.isGrouped = true := by simp [Request.isGrouped, grouped]
  rw [loadData_def, if_pos isGrouped] at returned
  obtain ⟨groups, loaded, same⟩ := returns_map _ _ _ returned
  exact ⟨groups, same.symm, loaded⟩

theorem load_succeeds (succeeds : Succeeds (load store request options)) :
    ∃ result, (LoadResult.ofRequest store request options).1 = .ok result := by
  obtain ⟨result, after, ran⟩ := succeeds (start options)
  exact ⟨result, (Prod.mk.inj ran).1⟩

end Load

end DataGrid
