import DataGrid.Pattern.Reader
import DataGrid.Proofs.Pipeline.Summary
/-!
Sums of integers. A sum runs through the values in their order and stays an integer as long as 64 bits
hold every total on the way; once one of them is out of range, the sum is a double for good. So it is
the exact total just where all totals on the way are in range. They are so in every order of the rows
if and only if both all gains and all losses together are.
-/
namespace DataGrid

namespace Accumulator

/-- Integers of 64 bits with a sign. -/
def InRange (n : Int) : Prop := -0x8000000000000000 ≤ n ∧ n < 0x8000000000000000

instance (n : Int) : Decidable (InRange n) := inferInstanceAs (Decidable (_ ∧ _))

/-- Values that a sum adds as integers, or not at all. -/
def Addable (value : Value) : Prop := value.double?.isSome → value.int64?.isSome

instance (value : Value) : Decidable (Addable value) :=
  inferInstanceAs (Decidable (_ → _))

def terms (values : List Value) : List Int := values.filterMap Value.int64?

/-- Every total on the way is in range. -/
def Steady (terms : List Int) : Prop := ∀ front ∈ terms.inits, InRange front.sum

instance (terms : List Int) : Decidable (Steady terms) := by
  unfold Steady
  infer_instance

section Steps

theorem double_of_int64 (value : Value) (n : Int) (known : value.int64? = some n) :
    value.double? = some (.ofInt n) := by
  cases value with
  | int m =>
      simp only [Value.int64?, inInt64, Option.ite_none_right_eq_some, Option.some.injEq] at known
      rw [Value.double?, known.2]
  | _ => contradiction

theorem add_uncounted (total : Total) (value : Value) (uncounted : value.double? = none) :
    total.add value = total := by
  rw [Total.add, uncounted]

theorem whole_lost (values : List Value) (total : Total) (lost : total.whole = none) :
    (values.foldl Total.add total).whole = none := by
  induction values generalizing total with
  | nil => exact lost
  | cons value values ih =>
      refine ih _ ?_
      cases number : value.double? with
      | none => rwa [add_uncounted total value number]
      | some x => rw [Total.add_whole total value x number, lost, Option.bind_none]

theorem ranges_cons (start term : Int) (terms : List Int) :
    (∀ front, front <+: term :: terms → InRange (start + front.sum)) ↔
      InRange start ∧ ∀ front, front <+: terms → InRange (start + term + front.sum) := by
  constructor
  · intro each
    refine ⟨by simpa using each [] (List.nil_prefix), fun front opens => ?_⟩
    have longer := each (term :: front) ((List.prefix_cons_inj term).mpr opens)
    rwa [List.sum_cons, ← add_assoc] at longer
  · rintro ⟨inside, each⟩ front opens
    rcases List.prefix_cons_iff.mp opens with rfl | ⟨later, rfl, inRest⟩
    · rwa [List.sum_nil, add_zero]
    · rw [List.sum_cons, ← add_assoc]
      exact each later inRest

theorem whole_running (values : List Value) (addable : ∀ value ∈ values, Addable value)
    (total : Total) (start n : Int) (whole : total.whole = some start) (inside : InRange start) :
    (values.foldl Total.add total).whole = some n ↔
      n = start + (terms values).sum ∧
        ∀ front, front <+: terms values → InRange (start + front.sum) := by
  -- by the values in their order, where the start is the total so far
  induction values generalizing total start with
  | nil =>
      rw [List.foldl_nil, whole, Option.some_inj]
      simp [terms, inside, eq_comm]
  | cons value values ih =>
      have rest : ∀ other ∈ values, Addable other := fun other member =>
        addable other (List.mem_cons_of_mem value member)
      rw [List.foldl_cons]
      cases number : value.double? with
      | none =>
          have uncounted : value.int64? = none := by
            rw [Option.eq_none_iff_forall_ne_some]
            intro m known
            rw [double_of_int64 value m known] at number
            contradiction
          rw [add_uncounted total value number, terms, List.filterMap_cons_none uncounted]
          exact ih rest total start whole inside
      | some x =>
          obtain ⟨m, counted⟩ := Option.isSome_iff_exists.mp
            (addable value List.mem_cons_self (by rw [number]; rfl))
          have added : (total.add value).whole = inInt64 (start + m) := by
            rw [Total.add_whole total value x number, whole, counted]
            rfl
          rw [terms, List.filterMap_cons_some counted, ← terms, List.sum_cons, ← add_assoc, ranges_cons,
            and_iff_right inside]
          by_cases stays : InRange (start + m)
          · exact ih rest (total.add value) (start + m) (added.trans (if_pos stays)) stays
          · -- the sum is lost here, and this total is one of those on the way
            rw [whole_lost values _ (added.trans (if_neg stays))]
            refine ⟨fun never => by contradiction, fun ⟨_, each⟩ => absurd ?_ stays⟩
            simpa using each [] List.nil_prefix

theorem total_whole (values : List Value) (addable : ∀ value ∈ values, Addable value) (n : Int) :
    (total values).whole = some n ↔ n = (terms values).sum ∧ Steady (terms values) := by
  rw [total, whole_running values addable .none 0 n rfl (by decide)]
  simp [Steady, List.mem_inits]

/-- A sum is the exact total just where the totals on the way are in range. -/
theorem total_exact (values : List Value) (addable : ∀ value ∈ values, Addable value) :
    (total values).value = .int (terms values).sum ↔ Steady (terms values) := by
  have whole := total_whole values addable (terms values).sum
  rw [and_iff_right rfl] at whole
  rw [← whole, Total.value]
  cases (total values).whole with
  | some n => simp
  | none => cases (total values).rough <;> simp

end Steps

section Orders

def gains (terms : List Int) : Int := (terms.filter (0 < ·)).sum

def losses (terms : List Int) : Int := (terms.filter (· < 0)).sum

theorem gains_nonneg (terms : List Int) : 0 ≤ gains terms :=
  List.sum_nonneg fun term member => by
    simpa using le_of_lt (of_decide_eq_true (List.mem_filter.mp member).2)

theorem losses_nonpos (terms : List Int) : losses terms ≤ 0 := by
  have each : ∀ term ∈ terms.filter (· < 0), term ≤ 0 := fun term member =>
    le_of_lt (of_decide_eq_true (List.mem_filter.mp member).2)
  exact (List.sum_le_card_nsmul _ 0 each).trans_eq (smul_zero _)

theorem gains_append (first second : List Int) :
    gains (first ++ second) = gains first + gains second := by
  rw [gains, List.filter_append, List.sum_append]
  rfl

theorem losses_append (first second : List Int) :
    losses (first ++ second) = losses first + losses second := by
  rw [losses, List.filter_append, List.sum_append]
  rfl

theorem sum_eq (terms : List Int) : terms.sum = gains terms + losses terms := by
  induction terms with
  | nil => rfl
  | cons term terms ih =>
      have gained := gains_append [term] terms
      have lost := losses_append [term] terms
      rw [List.singleton_append] at gained lost
      rw [List.sum_cons, gained, lost, ih]
      rcases lt_trichotomy term 0 with below | rfl | above
      · simp [gains, losses, below, not_lt.mpr below.le]
        omega
      · simp [gains, losses]
      · simp [gains, losses, above, not_lt.mpr above.le]
        omega

/-- Totals on the way stay between all losses and all gains. -/
theorem steady_of_ranges (terms : List Int) (gained : InRange (gains terms))
    (lost : InRange (losses terms)) : Steady terms := by
  intro front member
  obtain ⟨back, rfl⟩ := (List.mem_inits _ _).mp member
  -- a beginning gains and loses no more than all terms do
  rw [gains_append] at gained
  rw [losses_append] at lost
  have up := gains_nonneg front
  have upToo := gains_nonneg back
  have down := losses_nonpos front
  have downToo := losses_nonpos back
  rw [sum_eq]
  exact ⟨by have := lost.1; omega, by have := gained.2; omega⟩

variable {α : Type} (term? : α → Option Int) (items : List α)

/-- Items whose terms pass a test can be taken first. -/
theorem steady_first (each : ∀ others : List α, others.Perm items → Steady (others.filterMap term?))
    (test : Int → Bool) : InRange ((items.filterMap term?).filter test).sum := by
  let first : α → Bool := fun item => (term? item).any test
  have order : (items.filter first ++ items.filter fun item => !first item).Perm items :=
    List.filter_append_perm first items
  have taken : (items.filter first).filterMap term? = (items.filterMap term?).filter test := by
    rw [List.filterMap_filter, List.filter_filterMap]
    refine congrArg (List.filterMap · items) (funext fun item => ?_)
    cases found : term? item with
    | none => simp [first, found]
    | some term => cases passed : test term <;> simp [first, found, passed, Option.filter]
  -- in this order, what passes the test is a beginning
  have opens := each _ order
  rw [List.filterMap_append, taken] at opens
  exact opens _ ((List.mem_inits _ _).mpr (List.prefix_append _ _))

/-- Totals stay in range in every order just where all gains and all losses are in range. -/
theorem steady_orders :
    (∀ others : List α, others.Perm items → Steady (others.filterMap term?)) ↔
      InRange (gains (items.filterMap term?)) ∧ InRange (losses (items.filterMap term?)) := by
  constructor
  · intro each
    exact ⟨steady_first term? items each (0 < ·), steady_first term? items each (· < 0)⟩
  · rintro ⟨gained, lost⟩ others order
    have same := order.filterMap term?
    refine steady_of_ranges _ ?_ ?_
    · rwa [gains, (same.filter _).sum_eq]
    · rwa [losses, (same.filter _).sum_eq]

end Orders

end Accumulator

namespace Summary

open Accumulator

/-- The integers that rows hold at a path, in the order of the rows. -/
def integers (path : String) (rows : List Document) : List Int :=
  rows.filterMap fun row => ((Value.object row).get? path).bind Value.int64?

/-- Rows that hold integers at a path, or nothing that a sum counts. -/
def Countable (path : String) (rows : List Document) : Prop :=
  ∀ row ∈ rows, Addable (((Value.object row).get? path).getD .null)

instance (path : String) (rows : List Document) : Decidable (Countable path rows) :=
  inferInstanceAs (Decidable (∀ row ∈ rows, _))

theorem terms_integers (path : String) (rows : List Document) :
    terms (rows.map fun row => ((Value.object row).get? path).getD .null) = integers path rows := by
  rw [terms, List.filterMap_map, integers]
  refine congrArg (List.filterMap · rows) (funext fun row => ?_)
  cases found : (Value.object row).get? path with
  | none => simp [found, Value.int64?]
  | some value => simp [found]

theorem aggregate?_sum_exact (path : String) (rows : List Document) (countable : Countable path rows) :
    aggregate? ⟨"sum", some path⟩ rows = some (.int (integers path rows).sum) ↔
      Steady (integers path rows) := by
  have exact := total_exact _ (List.forall_mem_map.mpr countable)
  rw [terms_integers] at exact
  rw [← exact]
  exact Option.some_inj

/-- A sum over a path is read back as the exact total of its integers just where 64 bits hold the
totals after each row, and in every order of the rows just where they hold all gains and all losses. -/
theorem run_stages_sum (patterns : PatternCompiler) (summaries : List Summary) (index : Nat)
    (path : String) (asked : summaries[index]? = some ⟨"sum", some path⟩)
    (part : ¬ Expression.IsWhole path) (rows : List Document) (filled : rows ≠ [])
    (countable : Countable path rows) :
    (∀ others : List Document, others.Perm rows →
      ∃ doc, Pipeline.run patterns (stages summaries) others = .ok [doc] ∧
        ((read summaries doc)[index]? = some (.int (integers path rows).sum) ↔
          Steady (integers path others))) ∧
      ((∀ others : List Document, others.Perm rows → Steady (integers path others)) ↔
        InRange (gains (integers path rows)) ∧ InRange (losses (integers path rows))) := by
  refine ⟨fun others order => ?_, steady_orders _ rows⟩
  have member : ⟨"sum", some path⟩ ∈ summaries := List.mem_of_getElem? asked
  have listed : summaries ≠ [] := List.ne_nil_of_mem member
  obtain ⟨doc, ran, reads⟩ := run_stages_read summaries patterns listed others
    (fun none => filled (List.perm_nil.mp (none ▸ order.symm)))
  refine ⟨doc, ran, ?_⟩
  have same : (integers path rows).sum = (integers path others).sum :=
    (order.symm.filterMap _).sum_eq
  have countableToo : Countable path others := fun row held => countable row (order.subset held)
  have told := aggregate?_sum_exact path others countableToo
  obtain ⟨value, known⟩ : ∃ value, aggregate? ⟨"sum", some path⟩ others = some value := ⟨_, rfl⟩
  rw [known, Option.some_inj] at told
  rw [Summary.read, List.getElem?_map, asked, Option.map_some,
    reads _ member (fun other given => Option.some.inj given ▸ part), known, Option.getD_some, same,
    Option.some_inj, told]

def balances : List Document :=
  [[("bank", .object [("cents", .int 9223372036854775807)])], [("bank", .string "closed")],
    [("bank", .object [("cents", .int (-1))])], [("bank", .object [("cents", .null)])], []]

def balanceAsked : List Summary := [⟨"count", none⟩, ⟨"sum", some "bank.cents"⟩]

theorem run_stages_sum_balances :
    Countable "bank.cents" balances ∧ balances ≠ [] ∧
      ∀ others : List Document, others.Perm balances →
        ∃ doc, Pipeline.run Pattern.compile (stages balanceAsked) others = .ok [doc] ∧
          (read balanceAsked doc)[1]? = some (.int 9223372036854775806) := by
  have countable : Countable "bank.cents" balances := by decide +kernel
  have filled : balances ≠ [] := by decide
  obtain ⟨sums, steady⟩ := run_stages_sum Pattern.compile balanceAsked 1 "bank.cents" rfl (by decide)
    balances filled countable
  have total : (integers "bank.cents" balances).sum = 9223372036854775806 := by decide +kernel
  have inside : InRange (gains (integers "bank.cents" balances)) ∧
      InRange (losses (integers "bank.cents" balances)) := by
    decide +kernel
  refine ⟨countable, filled, fun others order => ?_⟩
  obtain ⟨doc, ran, exact⟩ := sums others order
  rw [total] at exact
  exact ⟨doc, ran, exact.mpr (steady.mpr inside others order)⟩

def beyond : List Document :=
  [[("n", .int 9223372036854775807)], [("n", .int 1)], [("n", .int (-1))]]

def namedRoot : List Document := [[("$ROOT", .int 5)]]

/-- A sum that leaves the range on the way is lost, though the total is in range; and so is one over a
field that is called like the whole row. -/
theorem run_stages_sum_fails :
    (Countable "n" beyond ∧ InRange (integers "n" beyond).sum ∧
      ∃ doc, Pipeline.run Pattern.compile (stages [⟨"sum", some "n"⟩]) beyond = .ok [doc] ∧
        read [⟨"sum", some "n"⟩] doc ≠ [.int (integers "n" beyond).sum]) ∧
    (Countable "$ROOT" namedRoot ∧ InRange (integers "$ROOT" namedRoot).sum ∧
      ∃ doc, Pipeline.run Pattern.compile (stages [⟨"sum", some "$ROOT"⟩]) namedRoot = .ok [doc] ∧
        read [⟨"sum", some "$ROOT"⟩] doc ≠ [.int (integers "$ROOT" namedRoot).sum]) := by
  refine ⟨⟨by decide +kernel, by decide +kernel, _, rfl, ?_⟩,
    ⟨by decide +kernel, by decide +kernel, _, rfl, ?_⟩⟩
  · decide +kernel
  · decide +kernel

end Summary

end DataGrid
