import DataGrid.Group.Shape
import DataGrid.Proofs.Pipeline.Run
import DataGrid.Proofs.Value.Order
import DataGrid.Proofs.Value.Writing
import Mathlib.Data.List.Sort
/-!
Sorting of documents. The order by several keys is oriented and transitive, like the order of values
that it is made of, so that sorting yields an ordered arrangement of the documents. Documents that
compare as equal keep their places, and so do the others when some documents are left out.
-/
namespace DataGrid

namespace Sorting

instance (path : String) : Std.OrientedCmp (compareAt path) := ⟨Value.compare_swap _ _⟩

instance (path : String) : Std.TransCmp (compareAt path) :=
  ⟨fun ab bc => (Value.compare_fits _ _ _ ab bc).1⟩

/-- The order by one key in its direction. -/
def directed (path : String) (descending : Bool) (a b : Document) : Ordering :=
  if descending then (compareAt path a b).swap else compareAt path a b

theorem directed_true (path : String) : directed path true = fun a b => compareAt path b a := by
  funext a b
  exact (Value.compare_swap _ _).symm

instance (path : String) (descending : Bool) : Std.TransCmp (directed path descending) := by
  cases descending with
  | false => exact inferInstanceAs (Std.TransCmp (compareAt path))
  | true =>
      rw [directed_true]
      exact Std.TransCmp.opposite

theorem compareBy_cons (path : String) (descending : Bool) (rest : Keys) :
    compareBy ((path, descending) :: rest) =
      compareLex (directed path descending) (compareBy rest) := rfl

instance (keys : Keys) : Std.TransCmp (compareBy keys) := by
  induction keys with
  | nil =>
      have oriented : Std.OrientedCmp (compareBy []) := ⟨fun {_ _} => rfl⟩
      exact ⟨fun _ _ => rfl⟩
  | cons key rest ih =>
      rw [compareBy_cons]
      infer_instance

/-- Documents that may stand in this order. -/
abbrev Follows (keys : Keys) (a b : Document) : Prop := compareBy keys a b ≠ .gt

theorem follows_iff (keys : Keys) (a b : Document) : Follows keys a b ↔ (compareBy keys a b).isLE := by
  unfold Follows
  cases compareBy keys a b <;> simp

instance (keys : Keys) : IsTrans Document (Follows keys) where
  trans a b c ab bc := by
    rw [follows_iff] at *
    exact Std.TransCmp.isLE_trans ab bc

instance (keys : Keys) : Std.Total (Follows keys) where
  total a b := by
    have swapped : compareBy keys a b = (compareBy keys b a).swap := Std.OrientedCmp.eq_swap
    unfold Follows
    rw [swapped]
    cases compareBy keys b a <;> simp

theorem place_eq (keys : Keys) (doc : Document) (docs : List Document) :
    place keys doc docs = docs.orderedInsert (Follows keys) doc := by
  induction docs with
  | nil => rfl
  | cons other rest ih =>
      by_cases after : compareBy keys doc other = .gt <;> simp [place, after, ih]

theorem sort_eq (keys : Keys) (docs : List Document) :
    sort keys docs = docs.insertionSort (Follows keys) := by
  induction docs with
  | nil => rfl
  | cons doc rest ih =>
      rw [List.insertionSort_cons, ← ih, ← place_eq]
      rfl

theorem sort_perm (keys : Keys) (docs : List Document) : (sort keys docs).Perm docs := by
  rw [sort_eq]
  exact List.perm_insertionSort (Follows keys) docs

theorem sort_ordered (keys : Keys) (docs : List Document) :
    (sort keys docs).Pairwise (Follows keys) := by
  rw [sort_eq]
  exact List.pairwise_insertionSort (Follows keys) docs

theorem place_first (keys : Keys) (doc : Document) (docs : List Document)
    (ahead : ∀ other ∈ docs, Follows keys doc other) : place keys doc docs = doc :: docs := by
  cases docs with
  | nil => rfl
  | cons other rest =>
      have notAfter : compareBy keys doc other ≠ .gt := ahead other List.mem_cons_self
      simp [place, notAfter]

theorem sort_nil (docs : List Document) : sort [] docs = docs := by
  induction docs with
  | nil => rfl
  | cons doc rest ih =>
      change place [] doc (sort [] rest) = doc :: rest
      rw [ih, place_first [] doc rest fun _ _ => Ordering.noConfusion]

/-- Documents that are left out of a sorted list do not change the place of a new one. -/
theorem filter_place (keys : Keys) (test : Document → Bool) (doc : Document) (docs : List Document)
    (ordered : docs.Pairwise (Follows keys)) :
    (place keys doc docs).filter test =
      if test doc then place keys doc (docs.filter test) else docs.filter test := by
  induction docs with
  | nil => cases kept : test doc <;> simp [place, kept]
  | cons other rest ih =>
      obtain ⟨ahead, tail⟩ := List.pairwise_cons.mp ordered
      by_cases after : compareBy keys doc other = .gt
      · have later := ih tail
        cases kept : test doc <;> cases keptToo : test other <;>
          simp_all [place]
      -- a document ahead of a sorted list is ahead of what is kept of it
      · have first : ∀ item ∈ (other :: rest).filter test, Follows keys doc item := by
          intro item member
          rcases List.mem_cons.mp (List.mem_filter.mp member).1 with rfl | inRest
          · exact after
          · exact IsTrans.trans doc other item after (ahead item inRest)
        have placed : place keys doc (other :: rest) = doc :: other :: rest := by
          simp [place, after]
        rw [placed, place_first keys doc _ first, List.filter_cons]

/-- Sorting is stable, so that it may be done before documents are left out or after that. -/
theorem filter_sort (keys : Keys) (test : Document → Bool) (docs : List Document) :
    (sort keys docs).filter test = sort keys (docs.filter test) := by
  induction docs with
  | nil => rfl
  | cons doc rest ih =>
      change (place keys doc (sort keys rest)).filter test = _
      rw [filter_place keys test doc _ (sort_ordered keys rest), ih, List.filter_cons]
      cases test doc <;> rfl

theorem sort_of_ordered (keys : Keys) (docs : List Document) (ordered : docs.Pairwise (Follows keys)) :
    sort keys docs = docs := by
  rw [sort_eq]
  exact ordered.insertionSort_eq

/-- Documents that are equal to one another under every key are passed on in their order. -/
theorem sort_stable (keys : Keys) (docs : List Document) (doc : Document) :
    (sort keys docs).filter (fun other => compareBy keys doc other == .eq) =
      docs.filter fun other => compareBy keys doc other == .eq := by
  rw [filter_sort]
  refine sort_of_ordered keys _ (List.pairwise_of_forall_mem_list fun a first b second => ?_)
  have toFirst : compareBy keys doc a = .eq := by simpa using (List.mem_filter.mp first).2
  have toSecond : compareBy keys doc b = .eq := by simpa using (List.mem_filter.mp second).2
  have swapped : compareBy keys a doc = (compareBy keys doc a).swap := Std.OrientedCmp.eq_swap
  have fromFirst : compareBy keys a doc = .eq := by
    rw [swapped, toFirst]
    rfl
  rw [follows_iff]
  exact Std.TransCmp.isLE_trans (by rw [fromFirst]; rfl) (by rw [toSecond]; rfl)

section Repeated

theorem compareBy_append (first second : Keys) (a b : Document) :
    compareBy (first ++ second) a b = (compareBy first a b).then (compareBy second a b) := by
  induction first with
  | nil => rfl
  | cons key first ih =>
      simp only [List.cons_append, compareBy, ih, Ordering.then_assoc]

/-- A key that comes again has nothing left to decide. -/
theorem compareBy_again (keys : Keys) (key : String × Bool) (member : key ∈ keys) (a b : Document) :
    (compareBy keys a b).then (directed key.1 key.2 a b) = compareBy keys a b := by
  induction keys with
  | nil => simp at member
  | cons first keys ih =>
      rw [compareBy_cons, compareLex, Ordering.then_assoc]
      rcases List.mem_cons.mp member with rfl | later
      · cases directed key.1 key.2 a b with
        | lt | gt => rfl
        | eq => exact Ordering.then_eq
      · rw [ih later]

/-- Only the first mention of a path counts, where all mentions have one direction. -/
theorem compareBy_eraseDups (paths : List String) (descending : String → Bool) :
    compareBy (paths.eraseDups.map fun path => (path, descending path)) =
      compareBy (paths.map fun path => (path, descending path)) := by
  funext a b
  induction paths using List.reverseRecOn with
  | nil => rfl
  | append_singleton paths path ih =>
      have single : compareBy [(path, descending path)] a b = directed path (descending path) a b :=
        Ordering.then_eq
      rw [Document.eraseDups_concat, List.map_append, List.map_singleton, compareBy_append, ← ih, single]
      by_cases again : path ∈ paths
      · rw [if_pos again, compareBy_again _ (path, descending path)]
        exact List.mem_map.mpr ⟨path, List.mem_eraseDups.mpr again, rfl⟩
      · rw [if_neg again, List.map_append, List.map_singleton, compareBy_append, single]

theorem keys_directions (paths : List String) (descending : String → Bool) :
    keys (Document.ofNames paths fun path => GroupShape.direction (descending path)) =
      .ok (paths.map fun path => (path, descending path)) := by
  induction paths with
  | nil => rfl
  | cons path paths ih =>
      rw [Document.ofNames] at ih
      rw [Document.ofNames, List.map_cons, keys, ih, List.map_cons]
      cases descending path <;> rfl

end Repeated

end Sorting

end DataGrid
