import DataGrid.Proofs.Pipeline.Sorting
import DataGrid.Request.Sort
/-!
Sort keys of a request. Two documents are ordered by the first key that tells them apart, in the
direction of that key. The keys are handed to a store as the fields of one document, in which a path
has one place and one direction: its first place, and the direction that it is given last. So the
rows come in the order of the keys as long as no path is given two directions.
-/
namespace DataGrid

/-- Documents put in order: none is lost or doubled, no document stands ahead of one that it comes
after, and documents that the order does not tell apart stand as they stood before. -/
structure InOrder (order : Document → Document → Ordering) (docs ordered : List Document) : Prop where
  same : ordered.Perm docs
  sorted : ordered.Pairwise fun a b => order a b ≠ .gt
  stable : ∀ doc, ordered.filter (fun other => order doc other == .eq) =
    docs.filter fun other => order doc other == .eq

namespace SortKey

/-- The order of two documents by one key: that of the values at its path, of which a missing one
counts as null, in its direction. -/
def order (key : SortKey) (a b : Document) : Ordering :=
  let upward := (((Value.object a).get? key.selector).getD .null).compare
    (((Value.object b).get? key.selector).getD .null)
  if key.descending then upward.swap else upward

/-- The first key that tells two documents apart orders them. -/
def orderBy (sort : List SortKey) (a b : Document) : Ordering :=
  ((sort.map fun key => key.order a b).find? fun verdict => verdict != .eq).getD .eq

/-- The direction that a path is given last. -/
def lastDirection (sort : List SortKey) (path : String) : Bool :=
  ((sort.reverse.find? fun key => key.selector = path).map SortKey.descending).getD false

/-- The keys with one direction for each path, the one that it is given last. -/
def settled (sort : List SortKey) : List SortKey :=
  sort.map fun key => { key with descending := lastDirection sort key.selector }

/-- No path is given two directions. -/
def Agree (sort : List SortKey) : Prop :=
  ∀ key ∈ sort, ∀ other ∈ sort, key.selector = other.selector → key.descending = other.descending

instance (sort : List SortKey) : Decidable (Agree sort) := by
  unfold Agree
  infer_instance

theorem exists_last (sort : List SortKey) (path : String) (member : path ∈ sort.map SortKey.selector) :
    ∃ last ∈ sort, last.selector = path ∧
      (sort.reverse.find? fun key => key.selector = path) = some last := by
  obtain ⟨key, inSort, rfl⟩ := List.mem_map.mp member
  have given : (sort.reverse.find? fun other => other.selector = key.selector).isSome :=
    List.find?_isSome.mpr ⟨key, List.mem_reverse.mpr inSort, by simp⟩
  obtain ⟨last, found⟩ := Option.isSome_iff_exists.mp given
  exact ⟨last, List.mem_reverse.mp (List.mem_of_find?_eq_some found),
    by simpa using List.find?_some found, found⟩

theorem settled_of_agree (sort : List SortKey) (agree : Agree sort) : settled sort = sort := by
  have same : ∀ key ∈ sort, { key with descending := lastDirection sort key.selector } = key := by
    intro key member
    obtain ⟨last, inSort, path, found⟩ := exists_last sort key.selector (List.mem_map_of_mem member)
    rw [lastDirection, found, Option.map_some, Option.getD_some, agree last inSort key member path]
  rw [settled, List.map_congr_left same, List.map_id']

theorem orderBy_eq (sort : List SortKey) :
    orderBy sort = Sorting.compareBy (sort.map fun key => (key.selector, key.descending)) := by
  funext a b
  induction sort with
  | nil => rfl
  | cons key sort ih =>
      have first : key.order a b = Sorting.directed key.selector key.descending a b := rfl
      rw [List.map_cons, Sorting.compareBy_cons, compareLex, ← ih, ← first, orderBy, List.map_cons,
        List.find?_cons]
      cases key.order a b <;> rfl

def fields (sort : List SortKey) : Document :=
  sort.map fun key => (key.selector, GroupShape.direction key.descending)

theorem get?_fields (sort : List SortKey) (path : String) :
    Document.get? (fields sort) path = (sort.find? fun key => key.selector = path).map
      fun key => GroupShape.direction key.descending := by
  induction sort with
  | nil => rfl
  | cons key sort ih =>
      have tail : Document.get? (fields (key :: sort)) path =
          if key.selector = path then some (GroupShape.direction key.descending)
          else Document.get? (fields sort) path := rfl
      rw [tail, ih]
      by_cases same : key.selector = path <;> simp [same]

theorem lastOf_fields (sort : List SortKey) (path : String) (member : path ∈ sort.map SortKey.selector) :
    Document.lastOf (fields sort) path = GroupShape.direction (lastDirection sort path) := by
  obtain ⟨last, _, _, found⟩ := exists_last sort path member
  have reversed : (fields sort).reverse = fields sort.reverse := List.map_reverse.symm
  rw [Document.lastOf, reversed, get?_fields, lastDirection, found]
  rfl

/-- The keys that a store reads order documents as the settled keys do. -/
theorem keys_settled (sort : List SortKey) :
    ∃ keys, Sorting.keys (Document.ofFields (fields sort)) = .ok keys ∧
      Sorting.compareBy keys = orderBy (settled sort) := by
  have names : Document.keys (fields sort) = sort.map SortKey.selector := by
    simp [Document.keys, fields, Function.comp_def]
  -- the document has one field for each path, at the path's first place
  have once : Document.ofFields (fields sort) =
      Document.ofNames (sort.map SortKey.selector).eraseDups
        fun path => GroupShape.direction (lastDirection sort path) := by
    rw [Document.ofFields_lastOf, names]
    refine List.map_congr_left fun path member => ?_
    rw [lastOf_fields sort path (List.mem_eraseDups.mp member)]
  refine ⟨_, once ▸ Sorting.keys_directions _ (lastDirection sort), ?_⟩
  rw [Sorting.compareBy_eraseDups, orderBy_eq, settled, List.map_map, List.map_map]
  rfl

theorem stages_settled (sort : List SortKey) :
    ∃ keys, Sorting.compareBy keys = orderBy (settled sort) ∧
      ∀ patterns docs,
        Pipeline.run patterns (stages sort) docs = .ok (Sorting.sort keys docs) := by
  obtain ⟨keys, read, settles⟩ := keys_settled sort
  refine ⟨keys, settles, fun patterns docs => ?_⟩
  unfold stages
  split
  · rename_i none
    obtain rfl := List.isEmpty_iff.mp none
    obtain rfl := Except.ok.inj read
    rw [Sorting.sort_nil]
    rfl
  · rw [Pipeline.run_single, Stage.apply, show Document.ofFields (sort.map _) =
      Document.ofFields (fields sort) from rfl, read]
    rfl

theorem stages_sort (sort : List SortKey) :
    ∃ keys, ∀ patterns docs, Pipeline.run patterns (stages sort) docs = .ok (Sorting.sort keys docs) :=
  (stages_settled sort).imp fun _ sorts => sorts.2

theorem run_stages (patterns : PatternCompiler) (sort : List SortKey)
    (docs out : List Document) (ran : Pipeline.run patterns (stages sort) docs = .ok out) :
    out.Perm docs := by
  obtain ⟨keys, sorts⟩ := stages_sort sort
  rw [← Except.ok.inj ((sorts patterns docs).symm.trans ran)]
  exact Sorting.sort_perm keys docs

end SortKey

theorem Sorting.inOrder_sort (keys : Keys) (docs : List Document) :
    InOrder (compareBy keys) docs (sort keys docs) :=
  ⟨sort_perm keys docs, sort_ordered keys docs, sort_stable keys docs⟩

end DataGrid
