import DataGrid.Proofs.Filter.Filtering
/-!
Date parts that are resolved together. The fields of all parts share two stages and one list of names,
and a name tells what is computed of which date field. So no part disturbs another one: each has the
value that it has when it is resolved alone. A row that has none of the names gets these fields and no
others, and the removal of the names leaves it as it was.
-/
namespace DataGrid.DateParts

open Result

section Names

/-- The names are those of the fields of both stages, each of them once. -/
structure Tracked (parts : DateParts) : Prop where
  distinct : parts.names.Nodup
  computed : ∀ name ∈ parts.names,
    name ∈ Document.keys parts.first ∨ name ∈ Document.keys parts.second

theorem nodup_track (names : List String) (name : String) (distinct : names.Nodup) :
    (track names name).Nodup := by
  unfold track
  split
  · exact distinct
  · rename_i unknown
    have fresh : name ∉ names := by simpa using unknown
    exact List.nodup_append.mpr ⟨distinct, by simp, fun other member last single same =>
      fresh (List.mem_singleton.mp single ▸ same ▸ member)⟩

variable {parts : DateParts}

theorem tracked_add (offset : Int) (part : DatePart) (tracked : Tracked parts) :
    Tracked (add offset parts part) := by
  cases single : part.unit.extract? (Term.localTime part.base offset) with
  | some expression =>
      rw [add_single part expression single]
      refine ⟨nodup_track _ _ tracked.distinct, fun name member => ?_⟩
      rw [Document.mem_keys_put]
      rcases (mem_track _ _ _).mp member with old | new
      · exact (tracked.computed name old).imp_left Or.inl
      · exact Or.inl (Or.inr new)
  | none =>
      rw [add_quarter part (DateUnit.extract_none _ _ single)]
      refine ⟨nodup_track _ _ (nodup_track _ _ tracked.distinct), fun name member => ?_⟩
      rw [Document.mem_keys_put, Document.mem_keys_put]
      rw [mem_track, mem_track] at member
      rcases member with (old | month) | quarter
      · exact (tracked.computed name old).imp Or.inl Or.inl
      · exact Or.inl (Or.inr month)
      · exact Or.inr (Or.inr quarter)

theorem tracked_all (offset : Int) (listed : List DatePart) :
    Tracked (listed.foldl (add offset) none) := by
  induction listed using List.reverseRecOn with
  | nil => exact ⟨List.nodup_nil, fun name member => absurd member List.not_mem_nil⟩
  | append_singleton listed part ih =>
      rw [List.foldl_append]
      exact tracked_add offset part ih

end Names

section Rows

variable {offset : Int} {listed : List DatePart} {parts : DateParts}
  (computes : Computes offset listed parts) (proper : ∀ part ∈ listed, part.Proper)
  (doc out : Document) (ran : parts.extend doc = .ok out)
include computes proper ran

theorem extend_names (tracked : Tracked parts)
    (absent : ∀ name ∈ parts.names, name ∉ Document.keys doc) :
    ∃ computed, out = doc ++ computed ∧ (Document.keys computed).Perm parts.names := by
  obtain ⟨computed, same, unique, named⟩ := extend_behind computes proper doc absent out ran
  refine ⟨computed, same, (List.perm_ext_iff_of_nodup unique tracked.distinct).mpr fun name => ?_⟩
  refine ⟨named name, fun member => ?_⟩
  obtain ⟨firsts, seconds, put, each, eachLater⟩ := extend_yields computes proper doc out ran
  have present : name ∈ Document.keys out := by
    rw [put, Document.mem_keys_putAll, Document.mem_keys_putAll, Projection.keys_yields each,
      Projection.keys_yields eachLater, or_assoc]
    exact Or.inr (tracked.computed name member)
  rw [same, Document.keys, List.map_append, List.mem_append] at present
  exact present.resolve_left (absent name member)

/-- Each of several parts has the value that it has alone, which is the unit of the local time. -/
theorem extend_alone (part : DatePart) (inListed : part ∈ listed) :
    ∃ single value, (add offset none part).extend doc = .ok single ∧
      single.get? part.computedName = some value ∧ out.get? part.computedName = some value ∧
      (Term.localOf offset (Expression.reference doc part.base)).bind part.unit.ofLocal =
        .ok value := by
  obtain ⟨value, found, known⟩ := extend_units computes proper doc out ran part inListed
  have one : Computes offset [part] (add offset none part) := computes_all offset [part]
  have properOne : ∀ other ∈ [part], other.Proper := fun other member =>
    List.mem_singleton.mp member ▸ proper part inListed
  obtain ⟨single, extended⟩ := extend_total one properOne doc fun other member =>
    List.mem_singleton.mp member ▸ ⟨value, known⟩
  obtain ⟨_, foundAlone, knownAlone⟩ :=
    extend_units one properOne doc single extended part List.mem_cons_self
  obtain rfl := Except.ok.inj (known.symm.trans knownAlone)
  exact ⟨single, value, extended, foundAlone, found, known⟩

end Rows

section Fields

variable (patterns : PatternCompiler) (offset : Int) (fields : List String)

/-- A document with the date parts that some fields refer to. Each part has the value that it has when
its field is resolved alone, the unit of the local time. Unless one of the names was there before, they
are the names of all fields that are added, and their removal gives the document back. -/
structure Resolved (doc extended : Document) : Prop where
  alone : ∀ field ∈ fields, ∀ part, DatePart.ofName? field = some part →
    ∃ single value, Pipeline.run patterns (ofFields offset [field]).stages [doc] = .ok [single] ∧
      single.get? part.computedName = some value ∧ extended.get? part.computedName = some value ∧
      (Term.localOf offset (Expression.reference doc part.base)).bind part.unit.ofLocal = .ok value
  added : (∀ name ∈ (ofFields offset fields).names, name ∉ doc.keys) →
    ∃ computed, extended = doc ++ computed ∧ computed.keys.Perm (ofFields offset fields).names
  removed : (∀ name ∈ (ofFields offset fields).names, name ∉ doc.keys) →
    Pipeline.run patterns (removal (ofFields offset fields).names) [extended] = .ok [doc]

theorem resolved_extend (doc extended : Document)
    (ran : (ofFields offset fields).extend doc = .ok extended) :
    Resolved patterns offset fields doc extended := by
  have computes := computes_fields offset fields
  have proper := proper_fields fields
  refine ⟨?_, ?_, ?_⟩
  · intro field member part found
    obtain ⟨single, value, one, holds, same⟩ := extend_alone computes proper doc extended ran part
      (List.mem_filterMap.mpr ⟨field, member, found⟩)
    refine ⟨single, value, (run_stages _ _ _ _).mpr (List.Forall₂.cons ?_ List.Forall₂.nil), holds, same⟩
    rw [ofFields, List.filterMap_cons_some found]
    exact one
  · exact extend_names computes proper doc extended ran (tracked_all offset _)
  · intro absent
    refine run_removal patterns _ _ _ (names_plain computes proper)
      (List.Forall₂.cons ⟨absent, ?_⟩ List.Forall₂.nil)
    exact extend_behind computes proper doc absent extended ran

/-- The stages that resolve a list of fields resolve every document, and list no name twice. -/
theorem stages_resolve (docs extended : List Document)
    (ran : Pipeline.run patterns (ofFields offset fields).stages docs = .ok extended) :
    (ofFields offset fields).names.Nodup ∧
      List.Forall₂ (Resolved patterns offset fields) docs extended :=
  ⟨(tracked_all offset _).distinct, ((run_stages _ _ _ _).mp ran).imp
    (resolved_extend patterns offset fields)⟩

/-- Quarters beside other units, one of them spelled in two ways, and a field that is no date part. -/
def dueFields : List String := ["due.quarter", "due.month", "note", "due.Quarter", "due.month"]

/-- The second task has a field of its own under the name of the months of a quarter. -/
def tasks : List Document :=
  [[("no", .int 1), ("due", .single "$date" (.int 1711927800000))],
    [("___due_mp2", .int 7), ("due", .null)]]

def tasksResolved : List Document :=
  [[("no", .int 1), ("due", .single "$date" (.int 1711927800000)), ("___due_mp2", .int 6),
      ("___due_month", .int 4), ("___due_quarter", .double (.ofNat 2)),
      ("___due_Quarter", .double (.ofNat 2))],
    [("___due_mp2", .null), ("due", .null), ("___due_month", .null), ("___due_quarter", .null),
      ("___due_Quarter", .null)]]

/-- Two hours east of Greenwich the first task is due in April. -/
theorem stages_resolve_tasks :
    Pipeline.run Pattern.compile (ofFields (-120) dueFields).stages tasks = .ok tasksResolved ∧
      (ofFields (-120) dueFields).names.Nodup ∧
      List.Forall₂ (Resolved Pattern.compile (-120) dueFields) tasks tasksResolved := by
  have ran : Pipeline.run Pattern.compile (ofFields (-120) dueFields).stages tasks =
      .ok tasksResolved := by
    decide +kernel
  exact ⟨ran, stages_resolve Pattern.compile (-120) dueFields tasks tasksResolved ran⟩

end Fields

end DataGrid.DateParts
