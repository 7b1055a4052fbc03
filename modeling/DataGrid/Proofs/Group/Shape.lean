import DataGrid.Group.Shape
import DataGrid.Proofs.Group.Key
import DataGrid.Proofs.Pipeline.Projection
import DataGrid.Proofs.Pipeline.Sorting
/-!
The entries of a group level: one for each class of the rows under equality of their keys, in the
order of the keys. An entry carries the key of the first row of its class, the number of its rows or
the rows themselves. Where items have values, as whole rows do, there is an entry for any rows
whatever.
-/
namespace DataGrid

open Result

namespace GroupShape

variable (shape : GroupShape)

def columns : List Grouping.Column :=
  (if shape.countedElsewhere then [] else [⟨"count", "$sum", .int 1⟩]) ++
    (if shape.withItems then [⟨"items", "$push", shape.collected⟩] else [])

def accumulators : List Accumulator :=
  (if shape.countedElsewhere then [] else [.sum]) ++ (if shape.withItems then [.push] else [])

theorem columns_groupSpec (key : GroupKey) :
    Grouping.columns (shape.groupSpec key) = .ok shape.columns := by
  cases shape with
  | mk descending withItems countedElsewhere rowForm =>
      cases withItems <;> cases countedElsewhere <;> rfl

theorem accumulators_columns : Grouping.accumulators shape.columns = .ok shape.accumulators := by
  cases shape with
  | mk descending withItems countedElsewhere rowForm =>
      cases withItems <;> cases countedElsewhere <;> rfl

/-- The entry of a group. -/
def entry (key count items : Value) : Document :=
  [("key", key)] ++ (if shape.countedElsewhere then [] else [("count", count)]) ++
    [("items", if shape.withItems then items else .null)]

theorem entry_items (key count items : Value) (collected : shape.withItems = true) :
    (shape.entry key count items).get? "items" = some items := by
  rw [entry, collected]
  cases shape.countedElsewhere <;> rfl

theorem entry_count (key count items : Value) (counted : shape.countedElsewhere = false) :
    (shape.entry key count items).get? "count" = some count := by
  rw [entry, counted]
  rfl

section Entry

variable (doc : Document) (key count items : Value)

theorem include_key (keyed : doc.get? "_id" = some key) :
    Projection.includeEntries doc [] [("_id", .int 0), ("key", .string "$_id")] =
      .ok [("key", key)] := by
  have named : Expression.evaluate (.object doc) (Term.field "_id") = .ok key := by
    rw [Expression.evaluate_field, Expression.reference_of_plain doc "_id" (by decide) (by decide),
      keyed]
    rfl
  rw [Projection.includeEntries, Projection.includeEntry_id]
  exact (Projection.includeEntries_single doc [] _ _).trans
    (Projection.includeEntry_expression doc [] "key" _ key (by decide) (by decide) rfl rfl named)

theorem include_count (counted : shape.countedElsewhere = false → doc.get? "count" = some count) :
    Projection.includeEntries doc [("key", key)]
      (if shape.countedElsewhere then [] else [("count", .int 1)]) =
        .ok ([("key", key)] ++ if shape.countedElsewhere then [] else [("count", count)]) := by
  cases given : shape.countedElsewhere with
  | true => rfl
  | false =>
      exact (Projection.includeEntries_single doc _ _ _).trans
        (Projection.includeEntry_on doc _ "count" count (by decide) (by decide) (counted given))

theorem include_items (out : Document) (absent : "items" ∉ out.keys)
    (collected : shape.withItems = true → doc.get? "items" = some items) :
    Projection.includeEntries doc out
      [("items", if shape.withItems then .int 1 else .single "$literal" .null)] =
        .ok (out ++ [("items", if shape.withItems then items else .null)]) := by
  have appended (value : Value) := Document.put_append_right out [] "items" value absent
  rw [List.append_nil] at appended
  rw [Projection.includeEntries_single]
  cases given : shape.withItems with
  | true =>
      exact (Projection.includeEntry_on doc _ "items" items (by decide) (by decide)
        (collected given)).trans (congrArg Except.ok (appended items))
  | false =>
      exact (Projection.includeEntry_expression doc _ "items" _ .null (by decide) (by decide) rfl rfl
        rfl).trans (congrArg Except.ok (appended .null))

theorem project_entry (keyed : doc.get? "_id" = some key)
    (counted : shape.countedElsewhere = false → doc.get? "count" = some count)
    (collected : shape.withItems = true → doc.get? "items" = some items) :
    Projection.project shape.entryForm doc = .ok (shape.entry key count items) := by
  have inclusion : Projection.isExclusion shape.entryForm = false := by
    cases shape with
    | mk descending withItems countedElsewhere rowForm => rfl
  have noId : Projection.keptId shape.entryForm doc = [] := by
    have off : Document.get? shape.entryForm "_id" = some (.int 0) := rfl
    rw [Projection.keptId, off, keyed]
    exact if_pos Projection.isFlag_zero
  have absent : "items" ∉ Document.keys
      ([("key", key)] ++ if shape.countedElsewhere then [] else [("count", count)]) := by
    cases shape.countedElsewhere <;> simp [Document.keys]
  rw [Projection.project, inclusion, if_neg (by decide), noId, entryForm,
    Projection.includeEntries_append, Projection.includeEntries_append, include_key doc key keyed]
  change (Projection.includeEntries doc [("key", key)] _).bind _ = _
  rw [shape.include_count doc key count counted]
  exact shape.include_items doc items _ absent collected

end Entry

/-- Where the items of a group stand among the operands of its rows. -/
def place : Nat := if shape.countedElsewhere then 0 else 1

theorem entry_ok (key : GroupKey) (doc : Document) (entry : Grouping.Entry)
    (ran : Grouping.entry (Term.field key.field) shape.columns doc = .ok entry) :
    entry.key = key.carried doc ∧
      (shape.countedElsewhere = false → entry.operands.getD 0 .null = .int 1) ∧
      (shape.withItems = true →
        Expression.evaluate (.object doc) shape.collected =
          .ok (entry.operands.getD shape.place .null)) := by
  rw [Grouping.entry, Expression.evaluate_field, shape.accumulators_columns] at ran
  obtain ⟨_, read, later⟩ := (bind_ok _ _ _).mp ran
  obtain rfl := Except.ok.inj read
  obtain ⟨_, _, last⟩ := (bind_ok _ _ _).mp later
  obtain ⟨operands, mapped, same⟩ := (bind_ok _ _ _).mp last
  have each := (mapM_ok _ _ _).mp mapped
  obtain rfl := Except.ok.inj same
  refine ⟨rfl, ?_, ?_⟩
  · intro counted
    rw [columns, counted] at each
    obtain ⟨value, rest, one, _, rfl⟩ := List.forall₂_cons_left_iff.mp each
    exact (Except.ok.inj one).symm
  · intro collected
    rw [columns, collected] at each
    unfold place
    -- the items stand behind the count, or first where there is none
    cases given : shape.countedElsewhere with
    | true =>
        rw [given] at each
        obtain ⟨value, rest, one, _, rfl⟩ := List.forall₂_cons_left_iff.mp each
        exact one
    | false =>
        rw [given] at each
        obtain ⟨_, rest, _, more, rfl⟩ := List.forall₂_cons_left_iff.mp each
        obtain ⟨value, _, one, _, rfl⟩ := List.forall₂_cons_left_iff.mp more
        exact one

theorem project_bucket (entries : List Grouping.Entry) (value : Value)
    (ones : shape.countedElsewhere = false →
      ∀ entry ∈ entries, entry.operands.getD 0 .null = .int 1) :
    Projection.project shape.entryForm
        (Grouping.Bucket.document (shape.columns.zip shape.accumulators)
          (Grouping.bucketOf entries value)) =
      .ok (shape.entry value
        (Accumulator.total
          (List.replicate (Grouping.members Grouping.Entry.key entries value).length (.int 1))).value
        (.array (Grouping.operandsOf (Grouping.bucketOf entries value).rows shape.place))) := by
  apply project_entry
  · rfl
  · intro counted
    have terms : Grouping.operandsOf (Grouping.bucketOf entries value).rows 0 =
        List.replicate (Grouping.members Grouping.Entry.key entries value).length (.int 1) := by
      rw [Grouping.operandsOf, Grouping.bucketOf, List.map_map, List.eq_replicate_iff]
      refine ⟨by simp, ?_⟩
      intro operand member
      obtain ⟨entry, inMembers, rfl⟩ := List.mem_map.mp member
      exact ones counted entry (List.mem_filter.mp inMembers).1
    rw [← terms, Grouping.Bucket.document, columns, accumulators, counted]
    cases shape.withItems <;> rfl
  · intro collected
    rw [Grouping.Bucket.document, columns, accumulators, collected, place]
    cases shape.countedElsewhere <;> rfl

/-- The order of the entries of a level. -/
def Precedes (descending : Bool) (a b : Value) : Prop :=
  a.compare b = if descending then .gt else .lt

theorem precedes_irrefl (descending : Bool) (key : Value) : ¬ Precedes descending key key := by
  have self : key.compare key = .eq := Std.ReflCmp.compare_self
  rw [Precedes, self]
  cases descending <;> decide

theorem precedes_asymm (descending : Bool) (a b : Value) (ahead : Precedes descending a b) :
    ¬ Precedes descending b a := by
  rw [Precedes] at ahead ⊢
  rw [Value.compare_swap, ahead]
  cases descending <;> decide

theorem keys_unique {α : Type} {keyOf : α → Value} {rows : List α} {keys others : List Value}
    (descending : Bool) (left : Grouping.Classes keyOf rows keys)
    (right : Grouping.Classes keyOf rows others) (ordered : keys.Pairwise (Precedes descending))
    (orderedToo : others.Pairwise (Precedes descending)) : keys = others := by
  have once (list : List Value) (order : list.Pairwise (Precedes descending)) : list.Nodup := by
    refine order.imp ?_
    rintro a b ahead rfl
    exact precedes_irrefl descending a ahead
  have same : keys.Perm others :=
    (List.perm_ext_iff_of_nodup (once keys ordered) (once others orderedToo)).mpr fun key =>
      ⟨left.mem_of_mem right key, right.mem_of_mem left key⟩
  refine same.eq_of_pairwise ?_ ordered orderedToo
  exact fun a b _ _ ahead behind => absurd behind (precedes_asymm descending a b ahead)

theorem keys_direction (descending : Bool) :
    Sorting.keys [("key", direction descending)] = .ok [("key", descending)] := by
  cases descending <;> rfl

theorem compareBy_entry (form : Value → Document) (descending : Bool) (a b : Value)
    (keyed : ∀ value, (form value).get? "key" = some value) :
    Sorting.compareBy [("key", descending)] (form a) (form b) =
      if descending then (a.compare b).swap else a.compare b := by
  have stored (value : Value) : (Value.object (form value)).get? "key" = some value := by
    rw [Value.get?_of_plain _ _ (by decide), keyed value]
  have order : Sorting.compareAt "key" (form a) (form b) = a.compare b := by
    rw [Sorting.compareAt, stored, stored]
    rfl
  rw [Sorting.compareBy_cons, compareLex, Sorting.directed, order, Sorting.compareBy]
  cases descending <;> cases a.compare b <;> rfl

theorem sort_entries (form : Value → Document) (descending : Bool) (keys : List Value)
    (keyed : ∀ value, (form value).get? "key" = some value)
    (distinct : keys.Pairwise fun a b => a.equal b = false) :
    ∃ ordered : List Value, ordered.Perm keys ∧ ordered.Pairwise (Precedes descending) ∧
      Sorting.sort [("key", descending)] (keys.map form) = ordered.map form := by
  let ahead (a b : Value) : Prop := Sorting.Follows [("key", descending)] (form a) (form b)
  have same : Sorting.sort [("key", descending)] (keys.map form) =
      (keys.insertionSort ahead).map form := by
    rw [Sorting.sort_eq]
    exact (List.map_insertionSort ahead _ form keys fun _ _ _ _ => Iff.rfl).symm
  have order := List.perm_insertionSort ahead keys
  have sorted := Sorting.sort_ordered [("key", descending)] (keys.map form)
  rw [same, List.pairwise_map] at sorted
  -- unequal keys that may follow each other are in strict order
  have apart : (keys.insertionSort ahead).Pairwise fun a b => a.equal b = false := by
    refine (order.pairwise_iff ?_).mpr distinct
    intro a b differs
    rw [Value.equal_comm, differs]
  refine ⟨_, order, ?_, same⟩
  refine (sorted.and apart).imp ?_
  intro a b both
  obtain ⟨follows, differs⟩ := both
  rw [Sorting.Follows, compareBy_entry form descending a b keyed] at follows
  rw [Value.equal] at differs
  unfold Precedes
  cases descending <;> cases order : a.compare b <;> simp_all

/-- The entry of the rows of one class. -/
def entryOf (key : GroupKey) (docs : List Document) (items : Value → List Value) (value : Value) :
    Document :=
  shape.entry value (Accumulator.total
    (List.replicate (Grouping.members key.carried docs value).length (.int 1))).value
    (.array (items value))

theorem shaped_ok (key : GroupKey) (docs groups : List Document)
    (grouped : Grouping.group (shape.groupSpec key) docs = .ok groups) :
    ∃ (keys : List Value) (items : Value → List Value),
      Grouping.Classes key.carried docs keys ∧
      groups.mapM (Projection.project shape.entryForm) =
        .ok (keys.map (shape.entryOf key docs items)) ∧
      (shape.withItems = true → ∀ value, List.Forall₂
        (fun doc item => Expression.evaluate (.object doc) shape.collected = .ok item)
        (Grouping.members key.carried docs value) (items value)) := by
  obtain ⟨collected, read, rfl⟩ := (Grouping.group_ok _ docs groups _ _ _ rfl
    (shape.columns_groupSpec key) shape.accumulators_columns).mp grouped
  -- entries correspond to documents one by one, and have the same keys
  have each := ((mapM_ok _ _ _).mp read).imp (shape.entry_ok key)
  obtain ⟨keys, classes, buckets⟩ := Grouping.buckets_classes collected
  have matched (value : Value) := Grouping.members_forall₂ _ docs collected each
    (fun doc entry known => known.1.symm) value
  have ones (counted : shape.countedElsewhere = false) :
      ∀ entry ∈ collected, entry.operands.getD 0 .null = .int 1 := by
    intro entry member
    obtain ⟨doc, _, known⟩ := exists_left each entry member
    exact known.2.1 counted
  let items (value : Value) : List Value :=
    Grouping.operandsOf (Grouping.bucketOf collected value).rows shape.place
  refine ⟨keys, items, ?_, ?_, ?_⟩
  · exact Grouping.Classes.forall₂ _ _ _ each.flip (fun entry doc known => known.1) keys classes
  · rw [buckets, List.map_map, mapM_ok, List.forall₂_map_left_iff, List.forall₂_map_right_iff]
    refine List.forall₂_same.mpr fun value _ => ?_
    rw [Function.comp_apply, shape.project_bucket collected value ones, ← (matched value).length_eq]
    rfl
  · intro collectedRows value
    have operands : items value = (Grouping.members Grouping.Entry.key collected value).map
        fun entry => entry.operands.getD shape.place .null := by
      simp [items, Grouping.operandsOf, Grouping.bucketOf]
    rw [operands, List.forall₂_map_right_iff]
    exact (matched value).imp fun doc entry known => known.2.2 collectedRows

theorem stages_ok (patterns : PatternCompiler) (key : GroupKey) (docs entries : List Document)
    (ran : Pipeline.run patterns (shape.stages key) docs = .ok entries) :
    ∃ (keys : List Value) (items : Value → List Value),
      Grouping.Classes key.carried docs keys ∧ keys.Pairwise (Precedes shape.descending) ∧
      entries = keys.map (shape.entryOf key docs items) ∧
      (shape.withItems = true → ∀ value, List.Forall₂
        (fun doc item => Expression.evaluate (.object doc) shape.collected = .ok item)
        (Grouping.members key.carried docs value) (items value)) := by
  obtain ⟨groups, grouped, later⟩ := (bind_ok _ _ _).mp ran
  obtain ⟨shaped, projected, last⟩ := (bind_ok _ _ _).mp later
  obtain ⟨keys, items, classes, made, collected⟩ := shape.shaped_ok key docs groups grouped
  obtain rfl := Except.ok.inj (projected.symm.trans made)
  obtain ⟨ordered, order, sorted, same⟩ := sort_entries (shape.entryOf key docs items)
    shape.descending keys (fun _ => rfl) classes.distinct
  rw [Pipeline.run_single, Stage.apply, keys_direction] at last
  refine ⟨ordered, items, classes.perm order.symm, sorted, ?_, collected⟩
  rw [← Except.ok.inj last]
  exact same

/-- What is collected of rows has a value for every row. -/
def Collects : Prop :=
  ∀ doc : Document, ∃ item, Expression.evaluate (.object doc) shape.collected = .ok item

theorem collects_whole (whole : shape.rowForm = none) : shape.Collects := by
  intro doc
  refine ⟨.object doc, ?_⟩
  rw [collected, whole]
  rfl

theorem groupSpec_computes (collects : shape.Collects) (key : GroupKey) (field : String × Value)
    (member : field ∈ shape.groupSpec key) (other : field.1 ≠ "_id") :
    Grouping.Computes field.2 := by
  have counts : Grouping.Computes (.single "$sum" (.int 1)) :=
    ⟨"$sum", .int 1, .sum, rfl, rfl, fun doc => ⟨.int 1, rfl⟩⟩
  have pushes : Grouping.Computes (.single "$push" shape.collected) :=
    ⟨"$push", shape.collected, .push, rfl, rfl, collects⟩
  unfold groupSpec at member
  rcases List.mem_append.mp member with front | items
  · rcases List.mem_append.mp front with id | count
    · rw [List.mem_singleton.mp id] at other
      exact absurd rfl other
    · split at count
      · simp at count
      · rw [List.mem_singleton.mp count]
        exact counts
  · split at items
    · rw [List.mem_singleton.mp items]
      exact pushes
    · simp at items

/-- The stages of a level never fail over rows that carry their keys, where items have values. -/
theorem stages_total (collects : shape.Collects) (patterns : PatternCompiler) (key : GroupKey)
    (docs : List Document) : ∃ entries, Pipeline.run patterns (shape.stages key) docs = .ok entries := by
  obtain ⟨groups, grouped⟩ := Grouping.group_total (shape.groupSpec key) docs (Term.field key.field) rfl
    (fun doc => ⟨_, Expression.evaluate_field doc key.field⟩) (shape.groupSpec_computes collects key)
  obtain ⟨keys, items, _, made, _⟩ := shape.shaped_ok key docs groups grouped
  have sorted (shaped : List Document) :
      Pipeline.run patterns [.sort [("key", direction shape.descending)]] shaped =
        .ok (Sorting.sort [("key", shape.descending)] shaped) := by
    rw [Pipeline.run_single, Stage.apply, keys_direction]
    rfl
  exact ⟨_, (bind_ok _ _ _).mpr ⟨groups, grouped, (bind_ok _ _ _).mpr ⟨_, made, sorted _⟩⟩⟩

end GroupShape

theorem GroupKey.distinct_ok (key : GroupKey) (patterns : PatternCompiler)
    (docs out : List Document) (ran : key.distinct.apply patterns docs = .ok out) :
    ∃ keys, Grouping.Classes key.carried docs keys ∧ out.length = keys.length := by
  let shape : GroupShape := ⟨false, false, true, none⟩
  have spelled : key.distinct = .group (shape.groupSpec key) := rfl
  rw [spelled] at ran
  obtain ⟨collected, read, rfl⟩ := (Grouping.group_ok _ docs out _ _ _ rfl
    (shape.columns_groupSpec key) shape.accumulators_columns).mp ran
  obtain ⟨keys, classes, buckets⟩ := Grouping.buckets_classes collected
  refine ⟨keys, ?_, by rw [buckets, List.length_map, List.length_map]⟩
  exact Grouping.Classes.forall₂ _ _ _ ((mapM_ok _ _ _).mp read).flip
    (fun entry doc ran => (shape.entry_ok key doc entry ran).1) keys classes

theorem GroupKey.distinct_total (key : GroupKey) (patterns : PatternCompiler) (docs : List Document) :
    ∃ out, key.distinct.apply patterns docs = .ok out ∧ out.length ≤ docs.length := by
  let shape : GroupShape := ⟨false, false, true, none⟩
  obtain ⟨out, listed⟩ := Grouping.group_total (shape.groupSpec key) docs (Term.field key.field) rfl
    (fun doc => ⟨_, Expression.evaluate_field doc key.field⟩)
    (shape.groupSpec_computes (shape.collects_whole rfl) key)
  obtain ⟨keys, classes, same⟩ := key.distinct_ok patterns docs out listed
  exact ⟨out, listed, same ▸ classes.length_le⟩

end DataGrid
