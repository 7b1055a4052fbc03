import DataGrid.Proofs.Load.Tree
import DataGrid.Proofs.Pipeline.Summary
import DataGrid.Proofs.Request.Sorting
/-!
Counts of a grouped call. The number of top-level groups, the total count and the tree of groups come
from separate pipelines, of which only the one of the tree sorts and pages. They agree on the rows
and on their classes: the groups of the whole tree are counted by the first, the rows of its deepest
groups add up to the second, and a page of the groups leaves both as they are. A count fails for one
reason only, which is that 64 bits cannot hold it.
-/
namespace DataGrid

open Result

namespace Group

/-- The counts of the groups at a depth below a group, added up. -/
def sizeAt : (depth : Nat) → Group → Nat
  | 0, group => group.size
  | depth + 1, group => ((group.groups?.getD []).map (sizeAt depth)).sum

def sizesAt (depth : Nat) (groups : List Group) : Nat := (groups.map (sizeAt depth)).sum

mutual

/-- The keys of a group and of all groups below it. -/
def keys : Group → List Value
  | .leaf key _ _ | .rows key _ _ _ => [key]
  | .groups key _ items _ => key :: keysOf items

def keysOf : List Group → List Value
  | [] => []
  | group :: rest => keys group ++ keysOf rest

end

theorem keysOf_mem (groups : List Group) (group : Group) (member : group ∈ groups) :
    ∀ key ∈ keys group, key ∈ keysOf groups := by
  induction groups with
  | nil => simp at member
  | cons first rest ih =>
      intro key found
      rw [keysOf, List.mem_append]
      rcases List.mem_cons.mp member with rfl | later
      · exact Or.inl found
      · exact Or.inr (ih later key found)

theorem key_mem_keys (group : Group) : group.key ∈ keys group := by
  cases group <;> simp [keys, key]

theorem keys_of_groups? (group : Group) (children : List Group)
    (below : group.groups? = some children) : keys group = group.key :: keysOf children := by
  cases group with
  | groups key number items summary =>
      obtain rfl := Option.some.inj below
      rfl
  | _ => contradiction

mutual

theorem innerKeys_subset : ∀ group : Group, ∀ key ∈ innerKeys group, key ∈ keys group
  | .leaf _ _ _, key, inner => by simp [innerKeys] at inner
  | .rows _ _ _ _, key, inner => by simp [innerKeys] at inner
  | .groups own _ items _, key, inner => by
      rw [keys]
      rcases List.mem_cons.mp inner with rfl | below
      · exact List.mem_cons_self
      · exact List.mem_cons_of_mem own (innerKeysOf_subset items key below)

theorem innerKeysOf_subset : ∀ groups : List Group, ∀ key ∈ innerKeysOf groups, key ∈ keysOf groups
  | [], key, inner => by simp [innerKeysOf] at inner
  | group :: rest, key, inner => by
      rw [keysOf, List.mem_append]
      rw [innerKeysOf, List.mem_append] at inner
      rcases inner with own | later
      · exact Or.inl (innerKeys_subset group key own)
      · exact Or.inr (innerKeysOf_subset rest key later)

end

/-- Sibling groups that each count their class count all rows together. -/
theorem sizesAt_classes {α : Type} (depth : Nat) (keyOf : α → Value) (rows : List α)
    (values : List Value) (groups : List Group) (classes : Grouping.Classes keyOf rows values)
    (each : List.Forall₂ (fun value group =>
      sizeAt depth group = (Grouping.members keyOf rows value).length) values groups) :
    sizesAt depth groups = rows.length := by
  have same : groups.map (sizeAt depth) =
      values.map fun value => (Grouping.members keyOf rows value).length := by
    rw [← List.forall₂_eq_eq_eq, List.forall₂_map_left_iff, List.forall₂_map_right_iff]
    exact each.flip
  rw [sizesAt, same]
  exact Grouping.sum_members rows values classes.distinct classes.covered

/-- The deepest groups below a group count the rows of its class. -/
theorem covers_sizeAt (recipe : Recipe) (options : Options) (cleaner : RowCleaner)
    (level : GroupLevel) (deeper : List GroupLevel) (index : Nat) (extended : List Document)
    (value : Value) (group : Group)
    (covers : Covers recipe options cleaner index (level :: deeper) extended value group) :
    sizeAt deeper.length group =
      (Grouping.members (level.keyAt options index).carried extended value).length := by
  induction deeper generalizing level index extended value group with
  | nil =>
      unfold Covers at covers
      dsimp only at covers
      split at covers
      · obtain ⟨rows, summary, rfl, _⟩ := covers
        rfl
      · obtain ⟨summary, rfl⟩ := covers
        rfl
  | cons next deeper ih =>
      unfold Covers at covers
      obtain ⟨inner, values, children, summary, computed, siblings, each, rfl⟩ := covers
      -- the groups below count the classes of the rows that reached this one
      have counted := sizesAt_classes deeper.length _ inner values children siblings.toClasses
        (each.imp fun key child covers => ih next (index + 1) inner key child covers)
      rw [((mapM_ok _ _ _).mp computed).length_eq, ← counted]
      rfl

end Group

namespace Load

variable (patterns : PatternCompiler) (collection : Collection)

section Counting

theorem run_count (pipeline : Pipeline) (name : String) (out : List Document)
    (ran : collection.run patterns (pipeline ++ [.count name]) = .ok out) :
    ∃ docs, collection.run patterns pipeline = .ok docs ∧
      out = if docs.isEmpty then [] else [[(name, .int docs.length)]] := by
  obtain ⟨docs, before, counted⟩ := (Pipeline.run_append_ok _ _ _ _ _).mp ran
  rw [Pipeline.run_single] at counted
  exact ⟨docs, before, (Except.ok.inj counted).symm⟩

/-- The number in an answer that is no longer than one document. -/
def counted? (field : String) : List Document → Option Nat
  | [] => some 0
  | doc :: _ => (doc.get? field).bind Value.nat64?

theorem counted_written (name : String) (docs : List Document) (small : docs.length < 2 ^ 64) :
    counted? name (if docs.isEmpty then [] else [[(name, .int docs.length)]]) =
      some docs.length := by
  cases docs with
  | nil => rfl
  | cons doc rest =>
      rw [if_neg (by simp), counted?, Document.get?, if_pos rfl, Option.bind_some]
      exact Value.nat64?_small _ small

theorem count_eq (store : Store) (pipeline : Pipeline) (field : String) :
    count store pipeline field = send store pipeline >>= fun docs =>
      match counted? field docs with
      | some number => pure number
      | none => throw (.malformed (.countMissing field)) := by
  rw [count_def]
  congr 1
  funext docs
  cases docs <;> rfl

theorem returns_counted (pipeline : Pipeline) (field : String) (number : Nat)
    (returned : Returns (count (collection.store patterns) pipeline field) number) :
    ∃ docs, collection.run patterns pipeline = .ok docs ∧ counted? field docs = some number := by
  rw [count_eq] at returned
  obtain ⟨docs, sent, later⟩ := returns_bind _ _ _ returned
  refine ⟨docs, returns_send patterns collection _ docs sent, ?_⟩
  split at later
  · rename_i found
    rw [found, returns_pure _ _ later]
  · obtain ⟨before, after, threw⟩ := later
    exact absurd (Prod.mk.inj threw).1 (by simp)

/-- A count at the end of a pipeline is the number of documents in front of it. -/
theorem counted_rows (pipeline : Pipeline) (name : String) (number : Nat) (out : List Document)
    (ran : collection.run patterns (pipeline ++ [.count name]) = .ok out)
    (read : counted? name out = some number) :
    ∃ docs, collection.run patterns pipeline = .ok docs ∧ number = docs.length := by
  obtain ⟨docs, before, rfl⟩ := run_count patterns collection pipeline name out ran
  refine ⟨docs, before, ?_⟩
  cases docs with
  | nil => exact (Option.some.inj read).symm
  | cons doc rest =>
      have stored (content : Value) : Document.get? [(name, content)] name = some content := by
        simp [Document.get?]
      rw [if_neg (by simp), counted?, stored, Option.bind_some] at read
      exact Value.nat64?_natCast _ _ read

theorem returns_count (pipeline : Pipeline) (name : String) (number : Nat)
    (returned : Returns (count (collection.store patterns) (pipeline ++ [.count name]) name) number) :
    ∃ docs, collection.run patterns pipeline = .ok docs ∧ number = docs.length := by
  obtain ⟨out, ran, read⟩ := returns_counted patterns collection _ name number returned
  exact counted_rows patterns collection pipeline name number out ran read

theorem count_unique (pipeline : Pipeline) (field : String) (number other : Nat)
    (first : Returns (count (collection.store patterns) pipeline field) number)
    (again : Returns (count (collection.store patterns) pipeline field) other) : number = other := by
  obtain ⟨docs, ran, read⟩ := returns_counted patterns collection pipeline field number first
  obtain ⟨others, ranAgain, readAgain⟩ :=
    returns_counted patterns collection pipeline field other again
  obtain rfl := Except.ok.inj (ran.symm.trans ranAgain)
  exact Option.some.inj (read.symm.trans readAgain)

theorem count_known (pipeline : Pipeline) (field : String) (docs : List Document) (number : Nat)
    (ran : collection.run patterns pipeline = .ok docs) (read : counted? field docs = some number) :
    Succeeds (count (collection.store patterns) pipeline field) := by
  rw [count_eq]
  refine succeeds_bind _ _ (send_succeeds patterns collection pipeline docs ran) ?_
  intro others again
  obtain rfl := Except.ok.inj (ran.symm.trans (returns_send patterns collection _ others again))
  rw [read]
  exact succeeds_pure number

theorem count_again (pipeline : Pipeline) (field : String) (number : Nat)
    (returned : Returns (count (collection.store patterns) pipeline field) number) :
    Succeeds (count (collection.store patterns) pipeline field) := by
  obtain ⟨docs, ran, read⟩ := returns_counted patterns collection pipeline field number returned
  exact count_known patterns collection pipeline field docs number ran read

theorem count_succeeds (pipeline : Pipeline) (name : String) (docs : List Document)
    (ran : collection.run patterns pipeline = .ok docs) (small : docs.length < 2 ^ 64) :
    Succeeds (count (collection.store patterns) (pipeline ++ [.count name]) name) := by
  have counted : collection.run patterns (pipeline ++ [.count name]) =
      .ok (if docs.isEmpty then [] else [[(name, .int docs.length)]]) :=
    (Pipeline.run_append_ok _ _ _ _ _).mpr ⟨docs, ran, rfl⟩
  exact count_known patterns collection _ name _ docs.length counted (counted_written name docs small)

theorem counted_lt (pipeline : Pipeline) (field : String) (number : Nat)
    (returned : Returns (count (collection.store patterns) pipeline field) number) :
    number < 2 ^ 64 := by
  obtain ⟨docs, _, read⟩ := returns_counted patterns collection pipeline field number returned
  cases docs with
  | nil =>
      obtain rfl := Option.some.inj read
      decide
  | cons doc rest =>
      obtain ⟨value, _, fits⟩ := Option.bind_eq_some_iff.mp read
      exact value.nat64?_lt number fits

end Counting

section Numbers

/-- A number that a request may ask for. -/
def asked (store : Store) (wanted : Bool) (pipeline : Pipeline) (field : String) :
    Load (Option Nat) :=
  if wanted then some <$> count store pipeline field else pure none

theorem returns_asked (store : Store) (pipeline : Pipeline) (field : String) (found : Option Nat)
    (returned : Returns (asked store true pipeline field) found) :
    ∃ number, found = some number ∧ Returns (count store pipeline field) number := by
  rw [asked, if_pos rfl] at returned
  obtain ⟨number, counted, same⟩ := returns_map _ _ _ returned
  exact ⟨number, same.symm, counted⟩

theorem asked_unique (wanted : Bool) (pipeline : Pipeline) (field : String)
    (found other : Option Nat)
    (first : Returns (asked (collection.store patterns) wanted pipeline field) found)
    (again : Returns (asked (collection.store patterns) wanted pipeline field) other) :
    found = other := by
  cases wanted with
  | false => rw [returns_pure none found first, returns_pure none other again]
  | true =>
      obtain ⟨number, rfl, counted⟩ := returns_asked _ _ _ _ first
      obtain ⟨number', rfl, counted'⟩ := returns_asked _ _ _ _ again
      rw [count_unique patterns collection pipeline field number number' counted counted']

theorem asked_again (wanted : Bool) (pipeline : Pipeline) (field : String) (found : Option Nat)
    (returned : Returns (asked (collection.store patterns) wanted pipeline field) found) :
    Succeeds (asked (collection.store patterns) wanted pipeline field) := by
  cases wanted with
  | false => exact succeeds_pure none
  | true =>
      obtain ⟨number, _, counted⟩ := returns_asked _ _ _ _ returned
      exact succeeds_map some _ (count_again patterns collection pipeline field number counted)

theorem asked_succeeds (wanted : Bool) (pipeline : Pipeline) (name : String) (docs : List Document)
    (ran : collection.run patterns pipeline = .ok docs)
    (small : wanted = true → docs.length < 2 ^ 64) :
    Succeeds (asked (collection.store patterns) wanted (pipeline ++ [.count name]) name) := by
  cases wanted with
  | false => exact succeeds_pure none
  | true =>
      exact succeeds_map some _ (count_succeeds patterns collection pipeline name docs ran (small rfl))

variable (recipe : Recipe) (request : Request)

theorem loadTotalCount_eq (store : Store) : loadTotalCount store recipe request =
    asked store request.needsTotalCount recipe.countStages "count" :=
  loadTotalCount_def store recipe request

theorem loadGroupCount_eq (store : Store) (pipeline : Pipeline)
    (compiled : recipe.groupCountStages? = some pipeline) : loadGroupCount store recipe request =
      asked store request.groupCount pipeline "groupCount" := by
  rw [loadGroupCount_def, compiled]
  rfl

theorem countStages_eq : recipe.countStages = recipe.filtered ++ [.count "count"] :=
  (List.append_assoc _ _ _).symm

theorem keyCountStages_eq (key : GroupKey) :
    recipe.before ++ recipe.filtering.keyCountStages key =
      (recipe.filtered ++ key.stages ++ [key.distinct]) ++ [.count "groupCount"] := by
  simp [Filtering.keyCountStages, Recipe.filtered]

theorem totalCount_rows (number : Nat)
    (returned : Returns (count (collection.store patterns) recipe.countStages "count") number) :
    ∃ rows, collection.run patterns recipe.filtered = .ok rows ∧ number = rows.length := by
  rw [countStages_eq] at returned
  exact returns_count patterns collection recipe.filtered "count" number returned

theorem groupCount_classes (key : GroupKey) (number : Nat)
    (returned : Returns (count (collection.store patterns)
      (recipe.before ++ recipe.filtering.keyCountStages key) "groupCount") number) :
    ∃ rows extended keys, collection.run patterns recipe.filtered = .ok rows ∧
      rows.mapM key.extend = .ok extended ∧ Grouping.Classes key.carried extended keys ∧
      number = keys.length := by
  rw [keyCountStages_eq] at returned
  obtain ⟨entries, ran, rfl⟩ := returns_count patterns collection _ _ number returned
  rw [Collection.run, Pipeline.run_append_ok] at ran
  obtain ⟨extended, before, listed⟩ := ran
  obtain ⟨rows, filtered, computed⟩ := (Pipeline.run_append_ok _ _ _ _ _).mp before
  rw [Pipeline.run_single] at listed
  obtain ⟨keys, classes, same⟩ := key.distinct_ok patterns extended entries listed
  exact ⟨rows, extended, keys, filtered, (key.run_stages patterns rows extended).mp computed,
    classes, same⟩

/-- The rows of a request in their order are those which the request filters for. -/
theorem sorted_perm (sort : List SortKey) (compiled : recipe.sort = SortKey.stages sort)
    (rows sorted : List Document) (filtered : collection.run patterns recipe.filtered = .ok rows)
    (within : collection.run patterns (recipe.filtered ++ recipe.sort) = .ok sorted) :
    sorted.Perm rows := by
  rw [compiled, Collection.run, Pipeline.run_append_ok] at within
  obtain ⟨middle, first, ordered⟩ := within
  obtain rfl := Except.ok.inj (filtered.symm.trans first)
  exact SortKey.run_stages patterns sort rows sorted ordered

section Filtered

variable (rows : List Document) (filtered : collection.run patterns recipe.filtered = .ok rows)
include filtered

theorem loadTotalCount_succeeds (small : request.needsTotalCount = true → rows.length < 2 ^ 64) :
    Succeeds (loadTotalCount (collection.store patterns) recipe request) := by
  rw [loadTotalCount_eq, countStages_eq]
  exact asked_succeeds patterns collection _ _ _ rows filtered small

theorem loadTotalCount_small (found : Option Nat)
    (returned : Returns (loadTotalCount (collection.store patterns) recipe request) found)
    (wanted : request.needsTotalCount = true) : rows.length < 2 ^ 64 := by
  rw [loadTotalCount_eq, wanted] at returned
  obtain ⟨number, _, answered⟩ := returns_asked _ _ _ _ returned
  obtain ⟨others, again, same⟩ := totalCount_rows patterns collection recipe number answered
  obtain rfl := Except.ok.inj (filtered.symm.trans again)
  exact same ▸ counted_lt patterns collection _ _ number answered

theorem loadGroupCount_succeeds (level : RecipeLevel) (deeper : List RecipeLevel)
    (levels : recipe.levels = level :: deeper) (extended : List Document)
    (computed : rows.mapM level.key.extend = .ok extended)
    (small : request.groupCount = true → rows.length < 2 ^ 64) :
    Succeeds (loadGroupCount (collection.store patterns) recipe request) := by
  have compiled : recipe.groupCountStages? = some
      ((recipe.filtered ++ level.key.stages ++ [level.key.distinct]) ++ [.count "groupCount"]) := by
    simp only [Recipe.groupCountStages?, levels, List.head?_cons, Option.map_some,
      keyCountStages_eq]
  obtain ⟨keys, listed, fewer⟩ := level.key.distinct_total patterns extended
  have same := ((mapM_ok _ _ _).mp computed).length_eq
  rw [loadGroupCount_eq _ _ _ _ compiled]
  refine asked_succeeds patterns collection _ _ _ keys ?_ fun wanted => by
    have few := small wanted
    omega
  refine (Pipeline.run_append_ok _ _ _ _ _).mpr ⟨extended, ?_, by rw [Pipeline.run_single, listed]⟩
  exact (Pipeline.run_append_ok _ _ _ _ _).mpr
    ⟨rows, filtered, (level.key.run_stages patterns rows extended).mpr computed⟩

end Filtered

end Numbers

end Load

end DataGrid
