import DataGrid.Pipeline.Grouping
import DataGrid.Proofs.Value.Order
import Mathlib.Data.List.Induction
/-!
Accumulators that are fed value by value. Each keeps as much of the values so far as its result needs:
a running total, a count beside it, the value that nothing has beaten yet, or all of them. The one that
is left of an extreme is ahead of all values before it and not behind any after it. So it is the first
of the extreme values, and which values are extreme does not depend on their order.
-/
namespace DataGrid.Accumulator

/-- What an accumulator keeps between two values. -/
inductive Running where
  | sum (total : Total)
  | average (total : Total) (count : Nat)
  | extreme (beats : Ordering) (champion : Option Value)
  | items (values : List Value)

namespace Running

/-- The champion after one more value, which takes its place by beating it. -/
def challenge (beats : Ordering) (champion : Option Value) (value : Value) : Option Value :=
  match champion with
  | none => some value
  | some champion => some (if value.compare champion == beats then value else champion)

/-- What is no number does not count for a sum or an average, and null for no extreme. -/
def feed (running : Running) (value : Value) : Running :=
  match running with
  | .sum total => .sum (total.add value)
  | .average total count =>
      .average (total.add value) (if value.double?.isSome then count + 1 else count)
  | .extreme beats champion =>
      .extreme beats (if value.isNull then champion else challenge beats champion value)
  | .items values => .items (values ++ [value])

def finish : Running → Value
  | .sum total => total.value
  | .average total count =>
      match total.rough with
      | none => .null
      | some x => if count = 0 then .null else .ofDouble (x.div (.ofNat count))
  | .extreme _ champion => champion.getD .null
  | .items values => .array values

end Running

def start : Accumulator → Running
  | .sum => .sum .none
  | .avg => .average .none 0
  | .min => .extreme .lt none
  | .max => .extreme .gt none
  | .push => .items []

/-- What is read off an accumulator after all values have been fed to it, in their order. -/
def fed (accumulator : Accumulator) (values : List Value) : Value :=
  (values.foldl Running.feed accumulator.start).finish

section Feeding

theorem feed_sum (values : List Value) (start : Total) :
    values.foldl Running.feed (.sum start) = .sum (values.foldl Total.add start) := by
  induction values generalizing start with
  | nil => rfl
  | cons value values ih => exact ih (start.add value)

theorem feed_average (values : List Value) (start : Total) (count : Nat) :
    values.foldl Running.feed (.average start count) =
      .average (values.foldl Total.add start) (count + (numbers values).length) := by
  induction values generalizing start count with
  | nil => rfl
  | cons value values ih =>
      rw [List.foldl_cons, Running.feed, ih, List.foldl_cons]
      cases number : value.double? with
      | none => simp [numbers, number]
      | some x => simp [numbers, number, Nat.add_assoc, Nat.add_comm 1]

theorem feed_items (values before : List Value) :
    values.foldl Running.feed (.items before) = .items (before ++ values) := by
  induction values generalizing before with
  | nil => rw [List.append_nil]; rfl
  | cons value values ih =>
      rw [List.foldl_cons, Running.feed, ih, List.append_assoc]
      rfl

theorem feed_champion (beats : Ordering) (values : List Value) (champion : Option Value) :
    values.foldl Running.feed (.extreme beats champion) =
      .extreme beats (best beats champion (values.filter fun value => !value.isNull)) := by
  induction values generalizing champion with
  | nil => cases champion <;> rfl
  | cons value values ih =>
      rw [List.foldl_cons, Running.feed, ih]
      cases null : value.isNull with
      | true => simp [null]
      | false => cases champion <;> simp [null, best, Running.challenge]

theorem result_fed (accumulator : Accumulator) (values : List Value) :
    accumulator.result values = accumulator.fed values := by
  unfold fed
  cases accumulator with
  | sum => rw [start, feed_sum]; rfl
  | avg =>
      rw [start, feed_average, Nat.zero_add]
      rfl
  | min => rw [start, feed_champion]; rfl
  | max => rw [start, feed_champion]; rfl
  | push => rw [start, feed_items]; rfl

end Feeding

section Extremes

/-- A value of a list that is ahead of all values before it and not behind any after it. -/
def Leads (order : Value → Value → Ordering) (values : List Value) (value : Value) : Prop :=
  ∃ before after, values = before ++ value :: after ∧
    (∀ other ∈ before, order value other = .lt) ∧ ∀ other ∈ after, (order value other).isLE

variable {order : Value → Value → Ordering} {beats : Ordering}

theorem best_append (champion : Option Value) (values : List Value) (value : Value) :
    best beats champion (values ++ [value]) =
      Running.challenge beats (best beats champion values) value := by
  induction values generalizing champion with
  | nil => cases champion <;> rfl
  | cons first values ih => cases champion <;> exact ih _

theorem Leads.mem {values : List Value} {value : Value} (leads : Leads order values value) :
    value ∈ values := by
  obtain ⟨before, after, rfl, _⟩ := leads
  simp

variable [Std.TransCmp order]

theorem Leads.isLE {values : List Value} {value : Value} (leads : Leads order values value)
    (other : Value) (member : other ∈ values) : (order value other).isLE := by
  obtain ⟨before, after, rfl, ahead, level⟩ := leads
  rcases List.mem_append.mp member with early | late
  · rw [ahead other early]
    rfl
  · rcases List.mem_cons.mp late with rfl | later
    · have self : order other other = .eq := Std.ReflCmp.compare_self
      rw [self]
      rfl
    · exact level other later

/-- One more value takes the lead by being ahead of the one that has it. -/
theorem leads_challenge (turned : ∀ a b : Value, a.compare b = beats ↔ order a b = .lt)
    (values : List Value) (champion value : Value) (leads : Leads order values champion) :
    ∃ next, Running.challenge beats (some champion) value = some next ∧
      Leads order (values ++ [value]) next := by
  -- a new leader is ahead of all; an old one stays, since the value is not ahead of it
  by_cases wins : value.compare champion = beats
  · refine ⟨value, by rw [Running.challenge, if_pos (beq_iff_eq.mpr wins)], values, [], rfl, ?_, by simp⟩
    intro other member
    exact Std.TransCmp.lt_of_lt_of_isLE ((turned _ _).mp wins) (leads.isLE other member)
  · obtain ⟨before, after, rfl, ahead, level⟩ := leads
    refine ⟨champion, by rw [Running.challenge, if_neg (by simpa using wins)], before,
      after ++ [value], by simp, ahead, ?_⟩
    intro other member
    rcases List.mem_append.mp member with old | new
    · exact level other old
    · rw [List.mem_singleton.mp new]
      have turn : order champion value = (order value champion).swap := Std.OrientedCmp.eq_swap
      have behind : order value champion ≠ .lt := fun less => wins ((turned _ _).mpr less)
      rw [turn]
      cases compared : order value champion with
      | lt => exact absurd compared behind
      | eq | gt => rfl

theorem leads_best (turned : ∀ a b : Value, a.compare b = beats ↔ order a b = .lt)
    (values : List Value) (filled : values ≠ []) :
    ∃ champion, best beats none values = some champion ∧ Leads order values champion := by
  induction values using List.reverseRecOn with
  | nil => exact absurd rfl filled
  | append_singleton values value ih =>
      rw [best_append]
      by_cases first : values = []
      · subst first
        exact ⟨value, rfl, [], [], rfl, by simp, by simp⟩
      · obtain ⟨champion, known, leads⟩ := ih first
        rw [known]
        exact leads_challenge turned values champion value leads

/-- A value that is not null, and that no value of a list but null comes before. -/
def isFirst (order : Value → Value → Ordering) (values : List Value) (value : Value) : Bool :=
  !value.isNull && values.all fun other => other.isNull || (order value other).isLE

theorem not_isNull (value : Value) : (!value.isNull) = true ↔ value ≠ .null := by
  cases value <;> simp [Value.isNull]

omit [Std.TransCmp order] in
theorem isFirst_iff (values : List Value) (value : Value) :
    isFirst order values value = true ↔
      value ≠ .null ∧ ∀ other ∈ values, other ≠ .null → (order value other).isLE := by
  simp only [isFirst, Bool.and_eq_true, List.all_eq_true, Bool.or_eq_true_iff,
    or_iff_not_imp_left, ← not_isNull, Bool.not_eq_true, Bool.not_eq_eq_eq_not, Bool.not_true]

/-- The leader of the values that are not null is the first of those that nothing comes before. -/
theorem find?_leader (values : List Value) (value : Value)
    (leads : Leads order (values.filter fun value => !value.isNull) value) :
    values.find? (isFirst order values) = some value := by
  have level := leads.isLE
  obtain ⟨before, after, split, ahead, _⟩ := leads
  obtain ⟨early, late, rfl, rfl, rest⟩ := List.filter_eq_append_iff.mp split
  obtain ⟨nulls, behind, rfl, skipped, filled, rfl⟩ := List.filter_eq_cons_iff.mp rest
  refine List.find?_eq_some_iff_append.mpr ⟨?_, early ++ nulls, behind, by simp, ?_⟩
  · refine (isFirst_iff _ _).mpr ⟨(not_isNull value).mp filled, fun other member present => ?_⟩
    exact level other (List.mem_filter.mpr ⟨member, (not_isNull other).mpr present⟩)
  · intro other member
    rw [Bool.not_eq_true', Bool.eq_false_iff, Ne, isFirst_iff]
    rintro ⟨present, least⟩
    rcases List.mem_append.mp member with inEarly | null
    · -- the leader is ahead of this value, which would be at most the leader
      have less := ahead other (List.mem_filter.mpr ⟨inEarly, (not_isNull other).mpr present⟩)
      have turn : order other value = (order value other).swap := Std.OrientedCmp.eq_swap
      have most := least value (by simp) ((not_isNull value).mp filled)
      rw [turn, less] at most
      contradiction
    · exact skipped other null ((not_isNull other).mpr present)

/-- The leaders of two lists with the same values are equal, each being at most the other. -/
theorem leads_same (equals : ∀ a b : Value, order a b = .eq → a.equal b = true)
    {others values : List Value} (same : others.Perm values) {left right : Value}
    (first : Leads order others left) (second : Leads order values right) :
    left.equal right = true := by
  have below := first.isLE right (same.mem_iff.mpr second.mem)
  have above := second.isLE left (same.mem_iff.mp first.mem)
  exact equals left right (Std.OrientedCmp.isLE_antisymm below above)

/-- The extreme of nulls is null, and of other values it leads those that are not null. -/
theorem extreme_leads (turned : ∀ a b : Value, a.compare b = beats ↔ order a b = .lt)
    (values : List Value) :
    ((∀ value ∈ values, value = .null) → extreme beats values = .null) ∧
      ((∃ value ∈ values, value ≠ .null) →
        Leads order (values.filter fun value => !value.isNull) (extreme beats values)) := by
  constructor
  · intro nulls
    have none : values.filter (fun value => !value.isNull) = [] :=
      List.filter_eq_nil_iff.mpr fun value member kept =>
        (not_isNull value).mp kept (nulls value member)
    rw [extreme, none]
    rfl
  · rintro ⟨value, member, present⟩
    have filled : values.filter (fun value => !value.isNull) ≠ [] :=
      List.ne_nil_of_mem (List.mem_filter.mpr ⟨member, (not_isNull value).mpr present⟩)
    obtain ⟨champion, known, leads⟩ := leads_best turned _ filled
    rwa [extreme, known]

/-- An accumulator finds null among nulls, else the first of the values that nothing else but null
comes before in its order, and an equal one when the values come in another order. -/
structure Finds (accumulator : Accumulator) (order : Value → Value → Ordering) (values : List Value) :
    Prop where
  nothing : (∀ value ∈ values, value = .null) → accumulator.fed values = .null
  first : (∃ value ∈ values, value ≠ .null) →
    values.find? (isFirst order values) = some (accumulator.fed values)
  unordered : ∀ others : List Value, others.Perm values →
    (accumulator.fed others).equal (accumulator.fed values) = true

theorem finds_extreme (accumulator : Accumulator)
    (seeks : ∀ values, accumulator.result values = extreme beats values)
    (turned : ∀ a b : Value, a.compare b = beats ↔ order a b = .lt)
    (equals : ∀ a b : Value, order a b = .eq → a.equal b = true) (values : List Value) :
    accumulator.Finds order values := by
  obtain ⟨nothing, leads⟩ := extreme_leads turned values
  constructor
  case nothing =>
    rw [← result_fed, seeks]
    exact nothing
  case first =>
    intro present
    rw [← result_fed, seeks]
    exact find?_leader values _ (leads present)
  case unordered =>
    intro others same
    obtain ⟨nothingToo, leadsToo⟩ := extreme_leads turned others
    rw [← result_fed, ← result_fed, seeks, seeks]
    by_cases present : ∃ value ∈ values, value ≠ .null
    · obtain ⟨value, member, filled⟩ := present
      have left := leadsToo ⟨value, same.mem_iff.mpr member, filled⟩
      exact leads_same equals (same.filter _) left (leads ⟨value, member, filled⟩)
    · push Not at present
      rw [nothing present, nothingToo fun value member => present value (same.mem_iff.mp member)]
      exact Value.equal_refl .null

/-- The smallest and the largest value are found in whatever order the values are fed: the first of
the extreme ones, which is equal to that of any rearrangement. -/
theorem extremes_found (values : List Value) :
    Finds .min Value.compare values ∧ Finds .max (fun a b => b.compare a) values := by
  have opposite : Std.TransCmp fun a b : Value => b.compare a := inferInstance
  refine ⟨finds_extreme .min (fun _ => rfl) ?_ ?_ values,
    finds_extreme .max (fun _ => rfl) ?_ ?_ values⟩
  · exact fun a b => Iff.rfl
  · exact fun a b same => beq_iff_eq.mpr same
  · intro a b
    rw [Value.compare_swap a b]
    cases b.compare a <;> simp
  · intro a b same
    exact Value.equal_symm b a (beq_iff_eq.mpr same)

/-- Null is no extreme, a truth value is larger than a number, and of equal numbers the first stays. -/
example : fed .max [.int 2, .bool false, .null] = .bool false ∧
    fed .min [.null, .double (.ofNat 2), .int 2, .bool false] = .double (.ofNat 2) := by decide +kernel

end Extremes

end DataGrid.Accumulator
