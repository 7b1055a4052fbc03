import DataGrid.Pattern.Reader
import DataGrid.Proofs.Load.DrillDown
/-!
The order of the rows of a flat call. What the filter leaves comes back whole, ordered by the sort keys
of the request one after the other, and in stored order where no key tells two rows apart. A store
sorts by one direction for each path, so this holds as long as no path is given two; where one is, the
direction that comes last counts at the place that comes first.
-/
namespace DataGrid.LoadResult

/-- A flat call without paging and selection shows the filtered rows in the order of the settled sort
keys, which are the sort keys themselves where no path is given two directions. -/
theorem ofRequest_ordered (patterns : PatternCompiler) (collection : Collection) (request : Request)
    (options : Options) (flat : request.group = []) (start : request.skip = none)
    (stop : request.take = none) (whole : request.select = []) (rows : List Document)
    (filtered : collection.run patterns (Recipe.ofRequest request options).filtered = .ok rows)
    (small : request.needsTotalCount = true → rows.length < 2 ^ 64) :
    ∃ result docs,
      (ofRequest (collection.store patterns) request options).1 = .ok result ∧
      result.rows? = some (docs.map (RowCleaner.shown options.replaceIds)) ∧
      InOrder (SortKey.orderBy (SortKey.settled request.sort)) rows docs ∧
      (SortKey.Agree request.sort → InOrder (SortKey.orderBy request.sort) rows docs) := by
  obtain ⟨keys, order, sorts⟩ := SortKey.stages_settled request.sort
  have ran : collection.run patterns (Recipe.ofRequest request options).flatStages =
      .ok (Sorting.sort keys rows) := by
    have stages : (Recipe.ofRequest request options).flatStages =
        (Recipe.ofRequest request options).filtered ++ SortKey.stages request.sort := by
      change (Recipe.ofRequest request options).filtered ++ SortKey.stages request.sort ++
        Paging.stages request.skip request.take ++ Select.stages request.select = _
      rw [start, stop, whole]
      simp [Paging.stages, Paging.positive, Select.stages]
    rw [stages]
    exact (Pipeline.run_append_ok _ _ _ _ _).mpr ⟨rows, filtered, sorts patterns rows⟩
  obtain ⟨result, loaded⟩ := Load.flat_loads patterns collection request options flat rows _ small
    filtered ran
  obtain ⟨docs, again, shown⟩ := Load.flat_rows patterns collection request options flat result loaded
  obtain rfl := Except.ok.inj (ran.symm.trans again)
  have inOrder :
      InOrder (SortKey.orderBy (SortKey.settled request.sort)) rows (Sorting.sort keys rows) :=
    order ▸ Sorting.inOrder_sort keys rows
  exact ⟨result, _, loaded, shown, inOrder,
    fun agree => SortKey.settled_of_agree request.sort agree ▸ inOrder⟩

/-- Parcels of all kinds of weights, some of them without one. -/
def parcels : Collection :=
  .ofDocuments
    [[("no", .int 1), ("size", .object [("kg", .int 2)])],
      [("no", .int 2)],
      [("no", .int 3), ("size", .object [("kg", .string "heavy")])],
      [("no", .int 4), ("size", .object [("kg", .double (.ofInt 2))]), ("late", .bool true)],
      [("no", .int 5), ("size", .object [("kg", .null)])],
      [("no", .int 6), ("size", .object [("kg", .int 9)])]]

/-- The heaviest first, with one path that comes again, and the late ones ahead of others. -/
def heaviestFirst : Request :=
  { filter := some (.array [.string "no", .string "<", .int 6])
    sort := [⟨"size.kg", true⟩, ⟨"late", false⟩, ⟨"size.kg", true⟩]
    totalCount := true }

theorem ofRequest_ordered_parcels :
    ∃ result docs,
      parcels.run Pattern.compile (Recipe.ofRequest heaviestFirst {}).filtered =
        .ok (parcels.documents.take 5) ∧
      SortKey.Agree heaviestFirst.sort ∧
      (ofRequest (parcels.store Pattern.compile) heaviestFirst {}).1 = .ok result ∧
      result.rows? = some (docs.map (RowCleaner.shown true)) ∧
      InOrder (SortKey.orderBy heaviestFirst.sort) (parcels.documents.take 5) docs ∧
      result.rows?.map (fun rows => rows.map fun row => row.get? "no") =
        some ([3, 1, 4, 2, 5].map fun number => some (.int number)) := by
  have filtered : parcels.run Pattern.compile (Recipe.ofRequest heaviestFirst {}).filtered =
      .ok (parcels.documents.take 5) := by decide +kernel
  have numbers : ((ofRequest (parcels.store Pattern.compile) heaviestFirst {}).1.toOption.map
      fun result => result.rows?.map fun rows => rows.map fun row => row.get? "no") =
      some (some ([3, 1, 4, 2, 5].map fun number => some (.int number))) := by
    decide +kernel
  have agree : SortKey.Agree heaviestFirst.sort := by decide
  obtain ⟨result, docs, loaded, shown, _, inOrder⟩ := ofRequest_ordered Pattern.compile parcels
    heaviestFirst {} rfl rfl rfl rfl _ filtered (fun _ => by decide)
  obtain ⟨again, same, listed⟩ := (Result.toOption_map_ok _ _ _).mp numbers
  obtain rfl := Except.ok.inj (loaded.symm.trans same)
  exact ⟨result, docs, filtered, agree, loaded, shown, inOrder agree, listed⟩

def twoSteps : Collection := .ofDocuments [[("n", .int 1)], [("n", .int 2)]]

/-- One path in both directions. -/
def upAndDown : Request := { sort := [⟨"n", false⟩, ⟨"n", true⟩] }

/-- The key that comes first tells all rows apart, and yet the direction that comes last counts. -/
theorem ofRequest_ordered_fails :
    twoSteps.run Pattern.compile (Recipe.ofRequest upAndDown {}).filtered = .ok twoSteps.documents ∧
      ∃ result docs,
        (ofRequest (twoSteps.store Pattern.compile) upAndDown {}).1 = .ok result ∧
        result.rows? = some docs ∧
        ¬ InOrder (SortKey.orderBy upAndDown.sort) twoSteps.documents docs := by
  have answer : ((ofRequest (twoSteps.store Pattern.compile) upAndDown {}).1.toOption.map rows?) =
      some (some [[("n", .int 2)], [("n", .int 1)]]) := by
    decide +kernel
  obtain ⟨result, loaded, shown⟩ := (Result.toOption_map_ok _ _ _).mp answer
  refine ⟨rfl, result, _, loaded, shown, fun ordered => ?_⟩
  have falling : ¬ [[("n", Value.int 2)], [("n", .int 1)]].Pairwise
      (fun a b => SortKey.orderBy upAndDown.sort a b ≠ .gt) := by
    decide +kernel
  exact falling ordered.sorted

end DataGrid.LoadResult
