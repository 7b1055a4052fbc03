import DataGrid.Group.Shape
import DataGrid.Proofs.Pipeline.Projection
import DataGrid.Proofs.Pipeline.Run
import DataGrid.Proofs.Value.Writing
import DataGrid.Request.Sort
/-!
What is left of a document when fields are selected. A list of rows reads the selected paths into a
new document behind the stored `_id`, but a list that names nothing besides `_id` is taken for one
that turns nothing off, and leaves the document whole. The rows of a group are made from the same
paths, each under its own name, so the two agree where the paths are plain names and the list names
one besides `_id`.
-/
namespace DataGrid

open Result

namespace Projection

/-- The stored `_id` and nothing else. -/
def idOf (doc : Document) : Document :=
  match doc.get? "_id" with
  | none => []
  | some id => [("_id", id)]

/-- Entries that read paths, each into a field of its own name. -/
def reading (paths : List String) : Document := Document.ofNames paths Term.field

variable (doc out : Document) (paths : List String)

theorem isFlag_field (flag : Bool) (path : String) : isFlag flag (Term.field path) = false := rfl

theorem includeEntry_field (path : String) : includeEntry doc out path (Term.field path) =
    .ok (Document.setPath out path (Expression.reference doc path)) := by
  simp [includeEntry, isFlag_field, Expression.evaluate_field]

theorem includeEntries_reading : includeEntries doc out (reading paths) =
    .ok (Document.setPaths out paths (Expression.reference doc)) := by
  induction paths generalizing out with
  | nil => rfl
  | cons path paths ih =>
      have entry := includeEntry_field doc out path
      exact (bind_ok _ _ _).mpr ⟨_, entry, ih _⟩

theorem keptId_reading : keptId (reading paths) doc = idOf doc := by
  unfold keptId idOf
  rw [reading, Document.get?_ofNames]
  by_cases listed : "_id" ∈ paths <;> cases doc.get? "_id" <;> simp [listed, isFlag_field]

theorem isExclusion_reading :
    isExclusion (reading paths) = true ↔ ∀ path ∈ paths, path = "_id" := by
  simp [isExclusion, reading, Document.ofNames, isFlag_field]

theorem exclude_reading : exclude (reading paths) doc = doc := by
  have none : (reading paths).filter (fun entry => isFlag false entry.2) = [] := by
    simp [reading, Document.ofNames, isFlag_field]
  rw [exclude, none, List.foldl_nil]

theorem project_reading : project (reading paths) doc =
    .ok (if ∀ path ∈ paths, path = "_id" then doc
      else Document.setPaths (idOf doc) paths (Expression.reference doc)) := by
  by_cases alone : ∀ path ∈ paths, path = "_id"
  · rw [project, if_pos ((isExclusion_reading paths).mpr alone), exclude_reading, if_pos alone]
    rfl
  · rw [project, if_neg (mt (isExclusion_reading paths).mp alone), keptId_reading,
      includeEntries_reading, if_neg alone]

end Projection

namespace Select

variable (select : List String) (doc : Document)

/-- A document in a list of rows. -/
def row : Document :=
  if ∀ path ∈ select, path = "_id" then doc
  else Document.setPaths (Projection.idOf doc) select.eraseDups (Expression.reference doc)

/-- A document among the rows of a group. -/
def item : Document :=
  if select = [] then doc
  else Document.ofNames ("_id" :: select).eraseDups (Expression.reference doc)

theorem row_nil : row [] = id := funext fun doc => by simp [row]

/-- A path that starts without a dollar sign refers to no whole document. -/
theorem part_of_stored (path : String) (stored : Text.startsWithDollar path = false) :
    ¬ Expression.IsWhole path := by
  rintro (rfl | rfl) <;> exact absurd stored (by decide)

theorem reference_id (id : Value) (known : doc.get? "_id" = some id) :
    Expression.reference doc "_id" = id := by
  rw [Expression.reference_of_plain doc "_id" (by decide) (by decide), known]
  rfl

theorem run_stages (patterns : PatternCompiler) (docs : List Document) :
    Pipeline.run patterns (stages select) docs = .ok (docs.map (row select)) := by
  cases select with
  | nil => simp [stages, Pipeline.run, row_nil, Pure.pure, Except.pure]
  | cons first rest =>
      have one (doc : Document) : Projection.project (Document.ofFields
          ((first :: rest).map fun path => (path, Term.field path))) doc =
            .ok (row (first :: rest) doc) := by
        have spelled := Document.ofFields_ofNames (first :: rest) Term.field
        rw [Document.ofNames] at spelled
        rw [spelled, ← Projection.reading, Projection.project_reading, row]
        simp only [List.mem_eraseDups]
      rw [stages, if_neg (by simp), Pipeline.run_single]
      exact mapM_map _ _ docs fun doc _ => one doc

section Independent

/-- Selected paths none of which leads into another one, into `_id` or past the stored fields. -/
structure Independent : Prop where
  apart : ∀ path ∈ select, ∀ other ∈ select,
    Path.segments path <+: Path.segments other → path = other
  outside : ∀ path ∈ select, ["_id"] <+: Path.segments path → path = "_id"
  stored : ∀ path ∈ select, Text.startsWithDollar path = false

/-- What a row is to show of a document: its `_id` and the selected fields, and no others. -/
structure Shows (row : Document) : Prop where
  unique : row.keys.Nodup
  fields : ∀ name, name ∈ row.keys ↔
    name = "_id" ∧ "_id" ∈ doc.keys ∨ ∃ path ∈ select, (Path.segments path).head? = some name
  values : ∀ path ∈ select, (Value.object row).get? path =
    some (((Value.object doc).get? path).getD .null)
  id : "_id" ∈ doc.keys → row.get? "_id" = doc.get? "_id"

variable {select}

theorem Independent.apart_other (independent : Independent select) (path other : String)
    (member : path ∈ select) (listed : other ∈ select) :
    other = path ∨ Path.Apart (Path.segments other) (Path.segments path) := by
  by_cases same : other = path
  · exact Or.inl same
  · refine Or.inr ⟨fun leads => ?_, fun leads => ?_⟩
    · exact same (independent.apart other listed path member leads)
    · exact same (independent.apart path member other listed leads).symm

theorem segments_id : Path.segments "_id" = ["_id"] := Path.segments_of_plain "_id" (by decide)

theorem Independent.apart_id (independent : Independent select) (path : String)
    (member : path ∈ select) :
    path = "_id" ∨ Path.Apart (Path.segments path) (Path.segments "_id") := by
  by_cases same : path = "_id"
  · exact Or.inl same
  · have beyond : ¬ ["_id"] <+: Path.segments path :=
      fun leads => same (independent.outside path member leads)
    obtain ⟨first, rest, split⟩ := Path.segments_eq_cons path
    refine Or.inr ⟨?_, by rwa [segments_id]⟩
    rw [segments_id, split]
    rw [split] at beyond
    rintro leads
    obtain ⟨rfl, -⟩ := List.cons_prefix_cons.mp leads
    exact beyond (by simp)

theorem keys_idOf (name : String) :
    name ∈ (Projection.idOf doc).keys ↔ name = "_id" ∧ "_id" ∈ doc.keys := by
  unfold Projection.idOf
  cases found : doc.get? "_id" with
  | none =>
      constructor
      · exact fun nothing => absurd nothing List.not_mem_nil
      · rintro ⟨_, stored⟩
        obtain ⟨value, known⟩ := Document.get?_of_key doc "_id" stored
        rw [found] at known
        contradiction
  | some id =>
      have stored : "_id" ∈ doc.keys :=
        List.mem_map.mpr ⟨("_id", id), Document.mem_of_get? doc "_id" id found, rfl⟩
      exact ⟨fun single => ⟨List.mem_singleton.mp single, stored⟩,
        fun both => List.mem_singleton.mpr both.1⟩

theorem nodup_idOf : (Projection.idOf doc).keys.Nodup := by
  unfold Projection.idOf
  cases doc.get? "_id" <;> simp [Document.keys]

theorem get?_idOf : (Projection.idOf doc).get? "_id" = doc.get? "_id" := by
  unfold Projection.idOf
  cases doc.get? "_id" <;> simp [Document.get?]

theorem row_shows (independent : Independent select) (beside : ∃ path ∈ select, path ≠ "_id") :
    Shows select doc (row select doc) := by
  have several : ¬ ∀ path ∈ select, path = "_id" := by simpa using beside
  rw [row, if_neg several]
  constructor
  · exact Document.nodup_keys_setPaths _ _ _ (nodup_idOf doc)
  · intro name
    rw [Document.mem_keys_setPaths, keys_idOf]
    simp only [List.mem_eraseDups]
  · intro path member
    rw [Document.get?_setPaths_self _ _ _ path (List.mem_eraseDups.mpr member) fun other listed =>
        independent.apart_other path other member (List.mem_eraseDups.mp listed),
      Expression.reference_of_path doc path (part_of_stored path (independent.stored path member))]
  · intro stored
    have dotless : '.' ∉ "_id".toList := by decide
    rw [← Value.get?_of_plain _ "_id" dotless]
    -- the stored value is put back at its place, or was never written over
    by_cases listed : "_id" ∈ select
    · obtain ⟨id, known⟩ := Document.get?_of_key doc "_id" stored
      rw [Document.get?_setPaths_self _ _ _ "_id" (List.mem_eraseDups.mpr listed) fun other later =>
        independent.apart_id other (List.mem_eraseDups.mp later), reference_id doc id known, known]
    · rw [Document.get?_setPaths_other, Value.get?_of_plain _ "_id" dotless, get?_idOf]
      intro path later
      have member := List.mem_eraseDups.mp later
      exact (independent.apart_id path member).resolve_left fun same => listed (same ▸ member)

end Independent

section Item

/-- Entries behind `_id` are neither an operator nor a native value, so they are computed one by
one. -/
theorem evaluate_reading (rest : List String) :
    Expression.evaluate (.object doc) (.object (Projection.reading ("_id" :: rest))) =
      .ok (.object (Document.ofNames ("_id" :: rest) (Expression.reference doc))) := by
  have fields (paths : List String) :
      Expression.evaluateFields (.object doc) (Projection.reading paths) =
        .ok (Document.ofNames paths (Expression.reference doc)) := by
    induction paths with
    | nil => rfl
    | cons path paths ih =>
        have first := Expression.evaluate_field doc path
        exact (bind_ok _ _ _).mpr ⟨_, first, (bind_ok _ _ _).mpr ⟨_, ih, rfl⟩⟩
  -- one key alone would be read as an operator if it began with a dollar sign
  cases rest with
  | nil =>
      have literal := Expression.not_native "_id" (Term.field "_id") (by decide) (by decide)
      have plain : Text.startsWithDollar "_id" = false := by decide
      simp [Projection.reading, Document.ofNames, Expression.evaluate, literal, plain,
        Expression.evaluate_field]
  | cons next rest =>
      have literal : (Value.object (Projection.reading ("_id" :: next :: rest))).isNative = false := rfl
      have all := fields ("_id" :: next :: rest)
      have spelled : Projection.reading ("_id" :: next :: rest) =
          ("_id", Term.field "_id") :: (next, Term.field next) :: Projection.reading rest := rfl
      rw [spelled] at literal all ⊢
      rw [Expression.evaluate, literal, if_neg (by decide), all]
      · rfl
      · simp

variable (shape : GroupShape)

theorem collected_item (chosen : shape.rowForm = GroupShape.rowForm? select) :
    Expression.evaluate (.object doc) shape.collected = .ok (.object (item select doc)) := by
  rw [GroupShape.collected, chosen]
  cases select with
  | nil => simp [GroupShape.rowForm?, item, Expression.evaluate, Expression.evaluateText, Pure.pure,
      Except.pure]
  | cons first rest =>
      have spelled := Document.ofFields_ofNames ("_id" :: first :: rest) Term.field
      rw [Document.ofNames, ← Projection.reading, List.eraseDups_cons] at spelled
      rw [GroupShape.rowForm?, if_neg (by simp), spelled, item, if_neg (by simp),
        List.eraseDups_cons]
      exact evaluate_reading doc _

/-- Selected names of stored fields, not `_id` alone. -/
structure Names : Prop where
  dotless : ∀ path ∈ select, '.' ∉ path.toList
  stored : ∀ path ∈ select, Text.startsWithDollar path = false
  unreserved : ∀ path ∈ select, ¬ Path.Reserved path
  beside : select = [] ∨ ∃ path ∈ select, path ≠ "_id"

section Alike

variable {select}

theorem row_eq_item_of (dotless : ∀ path ∈ select, '.' ∉ path.toList)
    (beside : ∃ path ∈ select, path ≠ "_id") (stored : "_id" ∈ doc.keys) :
    row select doc = item select doc := by
  have several : ¬ ∀ path ∈ select, path = "_id" := by simpa using beside
  obtain ⟨path, member, _⟩ := beside
  obtain ⟨id, known⟩ := Document.get?_of_key doc "_id" stored
  have start : Projection.idOf doc = [("_id", Expression.reference doc "_id")] := by
    simp [Projection.idOf, known, reference_id doc id known]
  rw [row, if_neg several, item, if_neg (List.ne_nil_of_mem member), start,
    Document.setPaths_plain _ _ _ fun path member => dotless path (List.mem_eraseDups.mp member),
    ← Document.putAll_eraseDups, ← Document.ofFields_ofNames]
  rfl

/-- Selected names show the same of a document with an `_id`, whether it stands in a list or in a
group. -/
theorem Names.row_eq_item (names : Names select) (stored : "_id" ∈ doc.keys) :
    row select doc = item select doc := by
  rcases names.beside with rfl | beside
  · rfl
  · exact row_eq_item_of doc names.dotless beside stored

theorem item_alone (filled : select ≠ []) (alone : ∀ path ∈ select, path = "_id") :
    item select doc = [("_id", Expression.reference doc "_id")] := by
  have none : select.filter (fun path => !path == "_id") = [] := by simpa using alone
  rw [item, if_neg filled, List.eraseDups_cons, none]
  rfl

/-- A path with a dot is the name of a field in a group, and never in a list. -/
theorem row_ne_item_of_dot (path : String) (member : path ∈ select) (dot : '.' ∈ path.toList) :
    path ∈ (item select doc).keys ∧ path ∉ (row select doc).keys := by
  have other : path ≠ "_id" := by
    rintro rfl
    exact absurd dot (by decide)
  have several : ¬ ∀ path ∈ select, path = "_id" := fun alone => other (alone path member)
  constructor
  · rw [item, if_neg (List.ne_nil_of_mem member), Document.keys_ofNames, List.mem_eraseDups]
    exact List.mem_cons_of_mem "_id" member
  · rw [row, if_neg several, Document.mem_keys_setPaths, keys_idOf]
    rintro (⟨same, _⟩ | ⟨other, _, head⟩)
    · exact other same
    · exact Path.segment_plain other path (List.mem_of_mem_head? head) dot

/-- A document shows the same in a list and in a group, up to the order of its fields, if and only if
no path has a dot and `_id` is not all that is selected of more. -/
theorem row_perm_item (stored : "_id" ∈ doc.keys) : (row select doc).Perm (item select doc) ↔
    (∀ path ∈ select, '.' ∉ path.toList) ∧
      (select = [] ∨ (∃ path ∈ select, path ≠ "_id") ∨ doc.keys = ["_id"]) := by
  constructor
  · intro same
    have keys : (row select doc).keys.Perm (item select doc).keys := same.map Prod.fst
    constructor
    · intro path member dot
      obtain ⟨listed, absent⟩ := row_ne_item_of_dot doc path member dot
      exact absent (keys.mem_iff.mpr listed)
    · by_cases beside : ∃ path ∈ select, path ≠ "_id"
      · exact Or.inr (Or.inl beside)
      · have alone : ∀ path ∈ select, path = "_id" := by simpa using beside
        by_cases whole : select = []
        · exact Or.inl whole
        · -- the row is the whole document, and the item is its `_id`
          rw [row, if_pos alone, item_alone doc whole alone] at keys
          exact Or.inr (Or.inr (List.perm_singleton.mp keys))
  · rintro ⟨dotless, rfl | beside | single⟩
    · exact List.Perm.refl _
    · rw [row_eq_item_of doc dotless beside stored]
    · by_cases whole : select = []
      · subst whole
        exact List.Perm.refl _
      · by_cases beside : ∃ path ∈ select, path ≠ "_id"
        · rw [row_eq_item_of doc dotless beside stored]
        · have alone : ∀ path ∈ select, path = "_id" := by simpa using beside
          obtain ⟨⟨key, id⟩, rfl, rfl⟩ := List.map_eq_singleton_iff.mp single
          rw [row, if_pos alone, item_alone _ whole alone, reference_id _ id rfl]

end Alike

end Item

end Select

end DataGrid
