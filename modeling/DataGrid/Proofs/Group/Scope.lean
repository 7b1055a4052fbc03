import DataGrid.Pattern.Reader
import DataGrid.Plan.Recipe
import DataGrid.Proofs.Group.Shape
/-!
The scope of a group against the group itself. A group collects the rows whose keys are equal to its
own; its scope computes the keys again and matches them with the key that the group was given. The
two find the same rows for every key that a match takes for a value. A key that is spelled with
operators is not looked for but obeyed, so its scope may lose the rows or refuse to answer.
-/
namespace DataGrid

open Result

namespace Recipe

variable (patterns : PatternCompiler) (level : RecipeLevel) (shape : GroupShape)
  (rows : List Document)

/-- The scope of a key leaves the rows that an entry was made from, in their order: it lists them,
where it lists any, and counts them, where it counts. -/
def Restores (entry : Document) (value : Value) : Prop :=
  ∃ extended selected, rows.mapM level.key.extend = .ok extended ∧
    selected = Grouping.members level.key.carried extended value ∧ selected ≠ [] ∧
    Pipeline.run patterns (keyScope level [] value) rows = .ok selected ∧
    (shape.withItems = true → ∃ items, entry.get? "items" = some (.array items) ∧
      List.Forall₂ (fun doc item =>
        Expression.evaluate (.object doc) shape.collected = .ok item) selected items) ∧
    (shape.countedElsewhere = false → selected.length < 2 ^ 63 →
      entry.get? "count" = some (.int selected.length))

/-- The scope of a group holds the rows that were grouped under its key. -/
theorem keyScope_restores (entries : List Document)
    (ran : Pipeline.run patterns (level.key.stages ++ shape.stages level.key) rows = .ok entries)
    (entry : Document) (member : entry ∈ entries) (value : Value)
    (keyed : entry.get? "key" = some value) (plain : Predicate.isOperators value = false) :
    Restores patterns level shape rows entry value := by
  obtain ⟨extended, computed, grouped⟩ := (Pipeline.run_append_ok _ _ _ _ _).mp ran
  obtain ⟨keys, items, classes, _, rfl, collected⟩ :=
    shape.stages_ok patterns level.key extended entries grouped
  obtain ⟨own, inKeys, rfl⟩ := List.mem_map.mp member
  obtain rfl : own = value := Option.some.inj keyed
  refine ⟨extended, _, (level.key.run_stages patterns rows extended).mp computed, rfl, ?_, ?_, ?_, ?_⟩
  · -- the first row of a class is the one that gave it its key
    have first := classes.first own inKeys
    intro empty
    rw [empty] at first
    contradiction
  · rw [keyScope, List.nil_append, Pipeline.run_append_ok]
    exact ⟨extended, computed, by rw [Pipeline.run_single, level.key.keyMatch_apply _ _ _ plain]⟩
  · intro listed
    exact ⟨items own, shape.entry_items _ _ _ listed, collected listed own⟩
  · intro counted small
    rw [GroupShape.entryOf, shape.entry_count _ _ _ counted, Accumulator.total_ones_value _ small]

/-- Rows by their state, which is a native date, a missing value, a list or a number. -/
def statedRows : List Document :=
  [[("state", .single "$date" (.int 86400000)), ("n", .int 1)],
    [("n", .int 2)],
    [("state", .array [.string "$gt", .int 5]), ("n", .int 3)],
    [("n", .int 4), ("state", .null)],
    [("state", .object []), ("n", .int 5)]]

def byState : RecipeLevel := ⟨.ofInterval "state" none 2 0, true, true, true⟩

theorem keyScope_restores_state :
    ∃ entries, Pipeline.run Pattern.compile (byState.key.stages ++
        GroupShape.stages ⟨true, true, false, none⟩ byState.key) statedRows = .ok entries ∧
      entries.length = 4 ∧
      ∀ entry ∈ entries, ∃ value, entry.get? "key" = some value ∧
        Predicate.isOperators value = false ∧
        Restores Pattern.compile byState ⟨true, true, false, none⟩ statedRows entry value := by
  have answer : ((Pipeline.run Pattern.compile (byState.key.stages ++
      GroupShape.stages ⟨true, true, false, none⟩ byState.key) statedRows).toOption.map fun entries =>
        (entries.length, entries.all fun entry => ((entry.get? "key").map fun value =>
          !Predicate.isOperators value).getD false)) = some (4, true) := by
    decide +kernel
  obtain ⟨entries, ran, shown⟩ := (toOption_map_ok _ _ _).mp answer
  obtain ⟨four, all⟩ := Prod.mk.inj shown
  refine ⟨entries, ran, four, fun entry member => ?_⟩
  have one := List.all_eq_true.mp all entry member
  cases keyed : entry.get? "key" with
  | none => simp [keyed] at one
  | some value =>
      have plain : Predicate.isOperators value = false := by simpa [keyed] using one
      exact ⟨value, rfl, plain, keyScope_restores Pattern.compile byState _ statedRows entries ran
        entry member value keyed plain⟩

/-- Whether the scopes of all groups of some rows hold their rows. -/
def RestoresAll : Prop :=
  ∀ entries, Pipeline.run patterns (level.key.stages ++ shape.stages level.key) rows = .ok entries →
    ∀ entry ∈ entries, ∀ value, entry.get? "key" = some value →
      Restores patterns level shape rows entry value

/-- A row whose state is a condition, and one whose state is not quite a date. -/
def conditionRow : Document := [("state", .single "$gt" (.int 5))]

def soonRow : Document := [("state", .single "$date" (.string "soon"))]

/-- A key that is spelled with operators is obeyed: no row satisfies the first, and the second is
refused. -/
theorem restoresAll_fails :
    ¬ RestoresAll Pattern.compile byState ⟨true, true, false, none⟩ [conditionRow] ∧
      ¬ RestoresAll Pattern.compile byState ⟨true, true, false, none⟩ [soonRow] := by
  constructor
  · intro restores
    obtain ⟨_, selected, _, _, filled, ran, _⟩ := restores
      [[("key", .single "$gt" (.int 5)), ("count", .int 1),
        ("items", .array [.object (conditionRow ++ [("___group_key_2", .single "$gt" (.int 5))])])]]
      (by decide +kernel) _ List.mem_cons_self (.single "$gt" (.int 5)) rfl
    have none : Pipeline.run Pattern.compile (keyScope byState [] (.single "$gt" (.int 5)))
        [conditionRow] = .ok [] := by
      decide +kernel
    exact filled (Except.ok.inj (ran.symm.trans none))
  · intro restores
    obtain ⟨_, selected, _, _, _, ran, _⟩ := restores
      [[("key", .single "$date" (.string "soon")), ("count", .int 1),
        ("items", .array [.object
          (soonRow ++ [("___group_key_2", .single "$date" (.string "soon"))])])]]
      (by decide +kernel) _ List.mem_cons_self (.single "$date" (.string "soon")) rfl
    have refused : Pipeline.run Pattern.compile
        (keyScope byState [] (.single "$date" (.string "soon"))) [soonRow] =
          .error (.unsupportedOperator "$date") := by
      decide +kernel
    rw [refused] at ran
    contradiction

end Recipe

end DataGrid
