import DataGrid.Proofs.Pipeline.Run
import DataGrid.Proofs.Pipeline.Partition
import DataGrid.Proofs.Store.Expression
import DataGrid.Summary
/-!
Summaries over a set of documents. Each of them is described by itself, as the fold of its kind over
the values at its path; the one stage that computes all of them together yields just these values. Its
operands are references and counters, so it has a result over every set of documents, and the names
under which it keeps them tell summaries apart that do not ask for the same.
-/
namespace DataGrid

open Result

namespace SummaryKind

/-- The fold of a kind. A number is a sum of ones. -/
def accumulator : SummaryKind → Accumulator
  | .total | .number => .sum
  | .average => .avg
  | .least => .min
  | .greatest => .max

theorem name_length (kind : SummaryKind) (counts : kind ≠ .number) :
    kind.name.toList.length = 3 := by
  cases kind with
  | number => exact absurd rfl counts
  | _ => rfl

/-- Names of folds have one length, so a fold and a path can be read off a name made of both. -/
theorem name_inj (kind other : SummaryKind) (path more : String) (counts : kind ≠ .number)
    (countsToo : other ≠ .number)
    (same : "___" ++ kind.name ++ path = "___" ++ other.name ++ more) :
    kind = other ∧ path = more := by
  have texts := congrArg String.toList same
  simp only [String.toList_append, List.append_assoc, List.append_cancel_left_eq] at texts
  -- the kinds' names have one length, so they end at the same place
  obtain ⟨names, paths⟩ := List.append_inj texts
    (by rw [name_length kind counts, name_length other countsToo])
  refine ⟨?_, String.toList_injective paths⟩
  have named := String.toList_injective names
  cases kind <;> cases other <;> first | rfl | exact absurd named (by decide)

theorem name_ne_count (kind : SummaryKind) (path : String) (counts : kind ≠ .number) :
    "___count" ≠ "___" ++ kind.name ++ path := by
  intro same
  have texts := congrArg String.toList same
  rw [show "___count" = "___" ++ ("cou" ++ "nt") from rfl] at texts
  simp only [String.toList_append, List.append_assoc, List.append_cancel_left_eq] at texts
  have named := String.toList_injective
    (List.append_inj texts (by rw [name_length kind counts]; rfl)).1
  cases kind <;> exact absurd named (by decide)

end SummaryKind

namespace Summary

/-- So many rows, as a sum of ones counts them: by their number, as long as a signed integer of 64
bits can hold it. -/
def number (rows : Nat) : Value :=
  if rows < 2 ^ 63 then .int rows else (Accumulator.total (List.replicate rows (.int 1))).value

/-- What a summary tells of some rows by itself, in their order: the fold of its kind over the values
at its path, of which a missing one counts as null, or how many rows there are. None where the kind
is unknown or the path is missing. -/
def aggregate? (summary : Summary) (rows : List Document) : Option Value :=
  match SummaryKind.ofName? summary.kind with
  | none => none
  | some .number => some (number rows.length)
  | some kind => summary.selector.map fun path =>
      kind.accumulator.result (rows.map fun row => ((Value.object row).get? path).getD .null)

/-- One value for each summary: null where it tells nothing. -/
def aggregates (summaries : List Summary) (rows : List Document) : List Value :=
  summaries.map fun summary => (summary.aggregate? rows).getD .null

variable (summary : Summary)

/-- The two forms of an accumulator: counting, or a fold over a path. -/
theorem accumulator_ok (name : String) (spec : Value)
    (known : summary.accumulator? = some (name, spec)) :
    (name = "___count" ∧ spec = .single "$sum" (.int 1) ∧
        ∀ rows, summary.aggregate? rows = some (number rows.length)) ∨
      ∃ (kind : SummaryKind) (path : String), kind ≠ .number ∧ summary.selector = some path ∧
        name = "___" ++ kind.name ++ path ∧ spec = .single ("$" ++ kind.name) (Term.field path) ∧
        ∀ rows, summary.aggregate? rows = some (kind.accumulator.result
          (rows.map fun row => ((Value.object row).get? path).getD .null)) := by
  unfold accumulator? at known
  split at known
  · contradiction
  · rename_i counted
    obtain ⟨rfl, rfl⟩ := Prod.mk.inj (Option.some.inj known)
    exact Or.inl ⟨rfl, rfl, fun rows => by rw [aggregate?, counted]⟩
  · rename_i kind counts found
    obtain ⟨path, given, same⟩ := Option.map_eq_some_iff.mp known
    obtain ⟨rfl, rfl⟩ := Prod.mk.inj same
    refine Or.inr ⟨kind, path, counts, given, rfl, rfl, fun rows => ?_⟩
    rw [aggregate?, found, given]
    cases kind with
    | number => exact absurd rfl counts
    | _ => rfl

theorem aggregate?_eq_none (rows : List Document) (unknown : summary.accumulator? = none) :
    summary.aggregate? rows = none := by
  unfold accumulator? at unknown
  split at unknown
  · rename_i none
    rw [aggregate?, none]
  · contradiction
  · rename_i kind counts found
    rw [aggregate?, found, Option.map_eq_none_iff.mp unknown]
    cases kind with
    | number => exact absurd rfl counts
    | _ => rfl

/-- Summaries that are kept under one name ask for the same. -/
theorem accumulator_unique (other : Summary) (name : String) (spec spec' : Value)
    (known : summary.accumulator? = some (name, spec))
    (knownToo : other.accumulator? = some (name, spec')) :
    spec = spec' ∧ ∀ rows, summary.aggregate? rows = other.aggregate? rows := by
  rcases accumulator_ok _ _ _ known with
    ⟨named, rfl, tells⟩ | ⟨kind, path, counts, _, named, rfl, tells⟩
  · rcases accumulator_ok _ _ _ knownToo with
      ⟨_, rfl, tellsToo⟩ | ⟨kind', path', counts', _, named', _, _⟩
    · exact ⟨rfl, fun rows => by rw [tells, tellsToo]⟩
    · exact absurd (named.symm.trans named') (SummaryKind.name_ne_count kind' path' counts')
  · rcases accumulator_ok _ _ _ knownToo with
      ⟨named', _, _⟩ | ⟨kind', path', counts', _, named', rfl, tellsToo⟩
    · exact absurd (named'.symm.trans named) (SummaryKind.name_ne_count kind path counts)
    · obtain ⟨rfl, rfl⟩ := SummaryKind.name_inj kind kind' path path' counts counts'
        (named.symm.trans named')
      exact ⟨rfl, fun rows => by rw [tells, tellsToo]⟩

theorem accumulator_reserved (field : String × Value)
    (known : summary.accumulator? = some field) : Path.Reserved field.1 := by
  rcases accumulator_ok summary field.1 field.2 known with
    ⟨named, _⟩ | ⟨kind, path, _, _, named, _⟩
  · rw [named]
    decide
  · rw [named, String.append_assoc]
    exact Path.reserved_append _

theorem accumulator_named (kind : SummaryKind) :
    Accumulator.ofName? ("$" ++ kind.name) = if kind = .number then none else some kind.accumulator := by
  cases kind <;> rfl

theorem accumulator_computes (field : String × Value)
    (known : summary.accumulator? = some field) : Grouping.Computes field.2 := by
  rcases accumulator_ok summary field.1 field.2 known with
    ⟨_, spelled, _⟩ | ⟨kind, path, counts, _, _, spelled, _⟩
  · exact ⟨"$sum", .int 1, .sum, spelled, rfl, fun _ => ⟨.int 1, rfl⟩⟩
  · exact ⟨"$" ++ kind.name, Term.field path, kind.accumulator, spelled,
      by rw [accumulator_named, if_neg counts], fun doc => ⟨_, Expression.evaluate_field doc path⟩⟩

section Stages

variable (summaries : List Summary)

/-- The group stage of some summaries: one key for all documents, and their accumulators. -/
def spec : Document := .ofFields (("_id", .null) :: summaries.filterMap accumulator?)

theorem mem_spec (field : String × Value) (member : field ∈ spec summaries) :
    field = ("_id", .null) ∨ ∃ summary ∈ summaries, summary.accumulator? = some field := by
  rcases Document.mem_putAll [] _ field member with none | listed
  · simp at none
  · rcases List.mem_cons.mp listed with id | computed
    · exact Or.inl id
    · exact Or.inr (List.mem_filterMap.mp computed)

theorem spec_id : Document.get? (spec summaries) "_id" = some .null := by
  have stored : "_id" ∈ Document.keys (spec summaries) :=
    (Document.mem_keys_putAll [] _ "_id").mpr (Or.inr (by simp [Document.keys]))
  obtain ⟨id, named⟩ := Document.get?_of_key _ "_id" stored
  rcases mem_spec summaries _ (Document.mem_of_get? _ _ _ named) with same | ⟨one, _, known⟩
  · rw [named, (Prod.mk.inj same).2]
  · exact absurd (accumulator_reserved one _ known) (by decide : ¬ Path.Reserved "_id")

theorem spec_computes (field : String × Value) (member : field ∈ spec summaries)
    (other : field.1 ≠ "_id") : Grouping.Computes field.2 := by
  rcases mem_spec summaries field member with same | ⟨one, _, known⟩
  · exact absurd (congrArg Prod.fst same) other
  · exact accumulator_computes one field known

/-- Under its name a summary finds its own accumulator, whichever summary put it there. -/
theorem spec_listed (member : summary ∈ summaries) (name : String) (computed : Value)
    (known : summary.accumulator? = some (name, computed)) :
    (name, computed) ∈ spec summaries ∧ name ≠ "_id" := by
  have listed : (name, computed) ∈ summaries.filterMap accumulator? :=
    List.mem_filterMap.mpr ⟨summary, member, known⟩
  have stored : name ∈ Document.keys (spec summaries) :=
    (Document.mem_keys_putAll [] _ name).mpr
      (Or.inr (List.mem_map_of_mem (List.mem_cons_of_mem _ listed)))
  have other : name ≠ "_id" := by
    rintro rfl
    exact absurd (accumulator_reserved summary _ known) (by decide : ¬ Path.Reserved "_id")
  obtain ⟨found, read⟩ := Document.get?_of_key _ name stored
  have inSpec := Document.mem_of_get? _ _ _ read
  rcases mem_spec summaries _ inSpec with same | ⟨one, _, knownToo⟩
  · exact absurd (Prod.mk.inj same).1 other
  · rw [(accumulator_unique summary one name computed found known knownToo).1]
    exact ⟨inSpec, other⟩

theorem run_spec (patterns : PatternCompiler) (listed : summaries ≠ []) (docs : List Document) :
    Pipeline.run patterns (stages summaries) docs = Grouping.group (spec summaries) docs := by
  have some : summaries.isEmpty = false := by simpa using listed
  rw [stages, some, if_neg (by decide), Pipeline.run_single]
  rfl

theorem run_stages (patterns : PatternCompiler) (docs : List Document) :
    ∃ out, Pipeline.run patterns (stages summaries) docs = .ok out := by
  by_cases listed : summaries = []
  · rw [listed]
    exact ⟨docs, rfl⟩
  · rw [run_spec summaries patterns listed]
    exact Grouping.group_total _ docs .null (spec_id summaries) (fun _ => ⟨.null, rfl⟩)
      (spec_computes summaries)

theorem run_stages_empty (patterns : PatternCompiler) (listed : summaries ≠ []) :
    Pipeline.run patterns (stages summaries) [] = .ok [] := by
  obtain ⟨columns, accumulators, read, known, _⟩ :=
    Grouping.columns_total (spec summaries) (spec_computes summaries)
  rw [run_spec summaries patterns listed]
  exact (Grouping.group_ok _ [] [] .null columns accumulators (spec_id summaries) read known).mpr
    ⟨[], rfl, rfl⟩

theorem operands_path (path : String) (part : ¬ Expression.IsWhole path) (docs : List Document)
    (values : List Value) (evaluated : List.Forall₂ (fun doc value =>
      Expression.evaluate (.object doc) (Term.field path) = .ok value) docs values) :
    values = docs.map fun doc => ((Value.object doc).get? path).getD .null := by
  rw [← List.forall₂_eq_eq_eq, List.forall₂_map_right_iff]
  refine evaluated.flip.imp fun value doc ran => ?_
  rw [Expression.evaluate_field, Expression.reference_of_path doc path part] at ran
  exact (Except.ok.inj ran).symm

theorem operands_one (docs : List Document) (values : List Value)
    (evaluated : List.Forall₂ (fun doc value =>
      Expression.evaluate (.object doc) (.int 1) = .ok value) docs values) :
    (Accumulator.sum.result values) = number docs.length := by
  have ones : values = List.replicate docs.length (.int 1) := by
    rw [List.eq_replicate_iff]
    refine ⟨evaluated.length_eq.symm, fun value member => ?_⟩
    obtain ⟨doc, _, ran⟩ := exists_left evaluated value member
    exact (Except.ok.inj ran).symm
  rw [ones, number]
  split
  · rename_i small
    exact Accumulator.total_ones_value docs.length small
  · rfl

/-- Over documents of which there are some, the stage yields one document, and what is read from it
for a summary is the summary taken by itself. -/
theorem run_stages_read (patterns : PatternCompiler) (listed : summaries ≠ [])
    (docs : List Document) (filled : docs ≠ []) :
    ∃ doc, Pipeline.run patterns (stages summaries) docs = .ok [doc] ∧
      ∀ summary ∈ summaries, (∀ path, summary.selector = some path → ¬ Expression.IsWhole path) →
        ((summary.accumulatorName?).bind doc.get?).getD .null =
          (summary.aggregate? docs).getD .null := by
  obtain ⟨doc, grouped, fields⟩ := Grouping.group_constant (spec summaries) docs .null .null
    (spec_id summaries) (fun _ => rfl) (spec_computes summaries)
    (Document.nodup_keys_putAll [] _ (by simp [Document.keys])) filled
  refine ⟨doc, (run_spec summaries patterns listed docs).trans grouped, fun summary member parts => ?_⟩
  unfold accumulatorName?
  cases known : summary.accumulator? with
  | none =>
      rw [aggregate?_eq_none summary docs known]
      rfl
  | some field =>
      obtain ⟨name, computed⟩ := field
      obtain ⟨inSpec, other⟩ := spec_listed summary summaries member name computed known
      -- the stage folds over what the operand evaluates to, the summary over what is stored
      rcases accumulator_ok summary name computed known with
        ⟨_, rfl, tells⟩ | ⟨kind, path, counts, given, _, rfl, tells⟩
      · obtain ⟨accumulator, values, named, evaluated, found⟩ := fields name _ _ inSpec other
        obtain rfl : Accumulator.sum = accumulator := Option.some.inj named
        rw [tells, Option.map_some, Option.bind_some, found, operands_one docs values evaluated]
      · obtain ⟨accumulator, values, named, evaluated, found⟩ := fields name _ _ inSpec other
        rw [accumulator_named, if_neg counts] at named
        obtain rfl := Option.some.inj named
        rw [tells, Option.map_some, Option.bind_some, found,
          operands_path path (parts path given) docs values evaluated]

theorem run_stages_filled (patterns : PatternCompiler) (listed : summaries ≠ [])
    (docs : List Document) (filled : docs ≠ []) :
    ∃ doc, Pipeline.run patterns (stages summaries) docs = .ok [doc] ∧
      ((∀ summary ∈ summaries, ∀ path, summary.selector = some path → ¬ Expression.IsWhole path) →
        read summaries doc = aggregates summaries docs) := by
  obtain ⟨doc, ran, reads⟩ := run_stages_read summaries patterns listed docs filled
  exact ⟨doc, ran, fun parts => List.map_congr_left fun summary member =>
    reads summary member (parts summary member)⟩

end Stages

end Summary

end DataGrid
