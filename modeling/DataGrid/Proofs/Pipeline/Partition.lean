import DataGrid.Proofs.Pipeline.Accumulation
import DataGrid.Proofs.Pipeline.Grouping
import DataGrid.Proofs.Value.Document
/-!
Group stages over any documents. A stage that succeeds yields one document for each class of equal
keys, in the order in which the classes are first seen and under the first key of each. Its other
fields are accumulators fed with the documents of the class only, in their order. Every document is in
one class, so lists that are pushed and ones that are summed lose and repeat nothing, and a stage with
one key for all documents yields a single one.
-/
namespace DataGrid.Grouping

open Result

/-- What an expression gives for a document, null when it fails. -/
def valueAt (expression : Value) (doc : Document) : Value :=
  (Expression.evaluate (.object doc) expression).toOption.getD .null

theorem valueAt_ok (expression value : Value) (doc : Document)
    (ran : Expression.evaluate (.object doc) expression = .ok value) :
    valueAt expression doc = value := by
  rw [valueAt, ran]
  rfl

/-- An expression has a value for every document. -/
def Evaluates (expression : Value) (docs : List Document) : Prop :=
  ∀ doc ∈ docs, Expression.evaluate (.object doc) expression = .ok (valueAt expression doc)

theorem evaluates_of_forall₂ {β : Type} (expression : Value) (docs : List Document) (images : List β)
    (read : β → Value) (each : List.Forall₂ (fun doc image =>
      Expression.evaluate (.object doc) expression = .ok (read image)) docs images) :
    Evaluates expression docs ∧ docs.map (valueAt expression) = images.map read := by
  constructor
  · intro doc member
    obtain ⟨image, _, ran⟩ := exists_right each doc member
    rw [ran, valueAt_ok expression _ doc ran]
  · refine map_of_forall₂ (List.forall₂_map_right_iff.mpr (each.imp ?_))
    exact fun doc image ran => valueAt_ok expression _ doc ran

section Reading

theorem accumulators_ok (columns : List Column) (accumulators : List Accumulator)
    (known : Grouping.accumulators columns = .ok accumulators) :
    List.Forall₂ (fun column accumulator =>
      Accumulator.ofName? column.operator = some accumulator) columns accumulators := by
  induction columns generalizing accumulators with
  | nil =>
      rw [← Except.ok.inj known]
      exact List.Forall₂.nil
  | cons column rest ih =>
      rw [Grouping.accumulators] at known
      cases named : Accumulator.ofName? column.operator with
      | none =>
          rw [named] at known
          contradiction
      | some accumulator =>
          rw [named] at known
          obtain ⟨others, later, same⟩ := (bind_ok _ _ _).mp known
          rw [← Except.ok.inj same]
          exact List.Forall₂.cons named (ih others later)

/-- The columns of a group stage are its fields other than the key, in their order, and each of them
names one operator. -/
theorem columns_ok (spec : Document) (columns : List Column)
    (read : Grouping.columns spec = .ok columns) :
    columns.map Column.field = spec.keys.filter (fun name => name ≠ "_id") ∧
      ∀ name form, (name, form) ∈ spec → name ≠ "_id" →
        ∃ operator operand, form = .single operator operand ∧ ⟨name, operator, operand⟩ ∈ columns := by
  induction spec generalizing columns with
  | nil =>
      rw [← Except.ok.inj read]
      exact ⟨rfl, by simp⟩
  | cons field rest ih =>
      rw [Grouping.columns] at read
      -- the key of a group is no column
      by_cases id : field.1 = "_id"
      · rw [if_pos id] at read
        obtain ⟨fields, listed⟩ := ih columns read
        refine ⟨by simpa [Document.keys, id] using fields, ?_⟩
        intro name form member other
        rcases List.mem_cons.mp member with rfl | later
        · exact absurd id other
        · exact listed name form later other
      · rw [if_neg id] at read
        obtain ⟨first, one, more⟩ := (bind_ok _ _ _).mp read
        obtain ⟨others, later, same⟩ := (bind_ok _ _ _).mp more
        obtain ⟨fields, listed⟩ := ih others later
        obtain ⟨operator, operand, single, rfl⟩ : ∃ operator operand,
            field.2 = .single operator operand ∧ first = ⟨field.1, operator, operand⟩ := by
          unfold column at one
          split at one
          · exact ⟨_, _, by assumption, (Except.ok.inj one).symm⟩
          · contradiction
        rw [← Except.ok.inj same]
        refine ⟨by simpa [Document.keys, id] using fields, ?_⟩
        intro name form member other
        rcases List.mem_cons.mp member with rfl | inRest
        · exact ⟨operator, operand, single, List.mem_cons_self⟩
        · obtain ⟨operator, operand, single, inOthers⟩ := listed name form inRest other
          exact ⟨operator, operand, single, List.mem_cons_of_mem _ inOthers⟩

theorem entry_ok (id : Value) (columns : List Column) (doc : Document) (entry : Entry)
    (ran : Grouping.entry id columns doc = .ok entry) :
    Expression.evaluate (.object doc) id = .ok entry.key ∧
      ∀ (place : Nat) column, columns[place]? = some column →
        Expression.evaluate (.object doc) column.operand = .ok (entry.operands.getD place .null) := by
  obtain ⟨key, first, later⟩ := (bind_ok _ _ _).mp ran
  obtain ⟨_, _, last⟩ := (bind_ok _ _ _).mp later
  obtain ⟨operands, mapped, same⟩ := (bind_ok _ _ _).mp last
  rw [← Except.ok.inj same]
  refine ⟨first, fun place column placed => ?_⟩
  have each := (mapM_ok _ _ _).mp mapped
  obtain ⟨inside, rfl⟩ := List.getElem?_eq_some_iff.mp placed
  have inOperands : place < operands.length := each.length_eq ▸ inside
  rw [List.getD_eq_getElem _ _ inOperands]
  exact each.get inside inOperands

/-- A stage that succeeds has read its key, its columns and the entries of all documents; it knows
its accumulators as soon as there is a document. -/
theorem group_read (spec : Document) (docs out : List Document) (grouped : group spec docs = .ok out) :
    ∃ id columns accumulators entries, Document.get? spec "_id" = some id ∧
      Grouping.columns spec = .ok columns ∧
      (docs ≠ [] → Grouping.accumulators columns = .ok accumulators) ∧
      List.Forall₂ (fun doc entry => Grouping.entry id columns doc = .ok entry) docs entries ∧
      out = (buckets entries).map (Bucket.document (columns.zip accumulators)) := by
  unfold group at grouped
  split at grouped
  · contradiction
  · rename_i id named
    obtain ⟨columns, read, later⟩ := (bind_ok _ _ _).mp grouped
    obtain ⟨entries, mapped, last⟩ := (bind_ok _ _ _).mp later
    have each := (mapM_ok _ _ _).mp mapped
    cases entries with
    | nil =>
        refine ⟨id, columns, [], [], named, read, ?_, each, (Except.ok.inj last).symm⟩
        exact fun filled => absurd (List.forall₂_nil_right_iff.mp each) filled
    | cons first rest =>
        obtain ⟨accumulators, known, result⟩ := (bind_ok _ _ _).mp last
        exact ⟨id, columns, accumulators, first :: rest, named, read, fun _ => known, each,
          (Except.ok.inj result).symm⟩

end Reading

section Documents

theorem results_get? (rows : List (List Value)) (pairs : List (Column × Accumulator))
    (unique : (pairs.map fun pair => pair.1.field).Nodup) (start place : Nat)
    (pair : Column × Accumulator) (placed : pairs[place]? = some pair) :
    Document.get? (results rows start pairs) pair.1.field =
      some (pair.2.result (operandsOf rows (start + place))) := by
  induction pairs generalizing start place with
  | nil => simp at placed
  | cons first rest ih =>
      obtain ⟨apart, others⟩ := List.nodup_cons.mp unique
      rw [results, Document.get?]
      cases place with
      | zero =>
          obtain rfl : first = pair := by simpa using placed
          rw [if_pos rfl, Nat.add_zero]
      | succ place =>
          rw [List.getElem?_cons_succ] at placed
          have differs : first.1.field ≠ pair.1.field := fun same =>
            apart (List.mem_map.mpr ⟨pair, List.mem_of_getElem? placed, same.symm⟩)
          rw [if_neg differs, ih others (start + 1) place placed, Nat.add_right_comm, Nat.add_assoc]

theorem results_keys (rows : List (List Value)) (start : Nat) (pairs : List (Column × Accumulator)) :
    Document.keys (results rows start pairs) = pairs.map fun pair => pair.1.field := by
  induction pairs generalizing start with
  | nil => rfl
  | cons pair pairs ih => exact congrArg (pair.1.field :: ·) (ih (start + 1))

theorem document_get? (bucket : Bucket) (columns : List Column) (accumulators : List Accumulator)
    (known : Grouping.accumulators columns = .ok accumulators)
    (unique : (columns.map Column.field).Nodup) (place : Nat) (column : Column)
    (placed : columns[place]? = some column) (other : column.field ≠ "_id") :
    ∃ accumulator, Accumulator.ofName? column.operator = some accumulator ∧
      Document.get? (bucket.document (columns.zip accumulators)) column.field =
        some (accumulator.result (operandsOf bucket.rows place)) := by
  have paired := accumulators_ok columns accumulators known
  obtain ⟨inside, rfl⟩ := List.getElem?_eq_some_iff.mp placed
  have inAccumulators : place < accumulators.length := paired.length_eq ▸ inside
  refine ⟨accumulators[place], paired.get inside inAccumulators, ?_⟩
  have zipped : (columns.zip accumulators)[place]? = some (columns[place], accumulators[place]) := by
    rw [List.getElem?_zip_eq_some]
    exact ⟨placed, List.getElem?_eq_getElem inAccumulators⟩
  have firsts : (columns.zip accumulators).map Prod.fst = columns :=
    List.map_fst_zip (Nat.le_of_eq paired.length_eq)
  have distinct : ((columns.zip accumulators).map fun pair => pair.1.field).Nodup := by
    rw [← firsts, List.map_map] at unique
    exact unique
  have found := results_get? bucket.rows _ distinct 0 place _ zipped
  rw [Bucket.document, Document.get?, if_neg (Ne.symm other), found, Nat.zero_add]

/-- The operands of a column over a bucket are those of the documents that are in it. -/
theorem operandsOf_bucket (id : Value) (columns : List Column) (docs : List Document)
    (entries : List Entry)
    (each : List.Forall₂ (fun doc entry => Grouping.entry id columns doc = .ok entry) docs entries)
    (key : Value) (place : Nat) (column : Column) (placed : columns[place]? = some column) :
    operandsOf (bucketOf entries key).rows place =
      (members (valueAt id) docs key).map (valueAt column.operand) := by
  have inClass := members_forall₂ _ docs entries each (fun doc entry ran =>
    valueAt_ok id entry.key doc (entry_ok id columns doc entry ran).1) key
  have brought := inClass.imp fun doc entry ran =>
    (entry_ok id columns doc entry ran).2 place column placed
  rw [(evaluates_of_forall₂ column.operand _ _ _ brought).2, operandsOf, bucketOf, List.map_map]
  rfl

end Documents

/-- The document of a class of documents: its key, and under every other field of the stage the
accumulator of the field, fed with the operands of the class in the order of the documents. -/
structure Folds (spec : Document) (id : Value) (docs : List Document) (key : Value) (doc : Document) :
    Prop where
  keyed : doc.get? "_id" = some key
  fields : doc.keys = "_id" :: spec.keys.filter fun name => name ≠ "_id"
  folded : ∀ name form, (name, form) ∈ spec → name ≠ "_id" →
    ∃ operator operand accumulator, form = .single operator operand ∧
      Accumulator.ofName? operator = some accumulator ∧ Evaluates operand docs ∧
      doc.get? name =
        some (accumulator.fed ((members (valueAt id) docs key).map (valueAt operand)))

/-- The document of a bucket folds the class of its key. -/
theorem folds_bucket (spec : Document) (unique : spec.keys.Nodup) (id : Value) (columns : List Column)
    (accumulators : List Accumulator) (read : Grouping.columns spec = .ok columns)
    (known : Grouping.accumulators columns = .ok accumulators) (docs : List Document)
    (entries : List Entry)
    (each : List.Forall₂ (fun doc entry => Grouping.entry id columns doc = .ok entry) docs entries)
    (key : Value) :
    Folds spec id docs key ((bucketOf entries key).document (columns.zip accumulators)) := by
  obtain ⟨fields, listed⟩ := columns_ok spec columns read
  refine ⟨by rw [Bucket.document, Document.get?, if_pos rfl]; rfl, ?_, ?_⟩
  · have paired := (accumulators_ok columns accumulators known).length_eq
    have firsts : (columns.zip accumulators).map Prod.fst = columns :=
      List.map_fst_zip (Nat.le_of_eq paired)
    rw [← fields, Bucket.document, Document.keys, List.map_cons, ← Document.keys, results_keys]
    conv_rhs => rw [← firsts, List.map_map]
    rfl
  · intro name form member other
    obtain ⟨operator, operand, single, inColumns⟩ := listed name form member other
    obtain ⟨place, placed⟩ := List.mem_iff_getElem?.mp inColumns
    obtain ⟨accumulator, operates, found⟩ := document_get? (bucketOf entries key) columns accumulators
      known (fields ▸ unique.filter _) place _ placed other
    refine ⟨operator, operand, accumulator, single, operates, ?_, ?_⟩
    · exact (evaluates_of_forall₂ operand docs entries _ (each.imp fun doc entry ran =>
        (entry_ok id columns doc entry ran).2 place _ placed)).1
    · rw [found, operandsOf_bucket id columns docs entries each key place _ placed,
        Accumulator.result_fed]

/-- A stage yields the document of each class, in the order in which the documents show the classes. -/
theorem group_classes (spec : Document) (unique : spec.keys.Nodup) (docs out : List Document)
    (grouped : group spec docs = .ok out) :
    ∃ id keys, Document.get? spec "_id" = some id ∧ Evaluates id docs ∧
      Appears (valueAt id) docs keys ∧ List.Forall₂ (Folds spec id docs) keys out := by
  obtain ⟨id, columns, accumulators, entries, named, read, known, each, rfl⟩ :=
    group_read spec docs out grouped
  obtain ⟨keys, appears, listed⟩ := buckets_appears entries
  have shown := appears.forall₂ _ entries docs each.flip (fun entry doc ran =>
    (valueAt_ok id entry.key doc (entry_ok id columns doc entry ran).1).symm) keys
  refine ⟨id, keys, named, ?_, shown, ?_⟩
  · exact (evaluates_of_forall₂ id docs entries Entry.key (each.imp fun doc entry ran =>
      (entry_ok id columns doc entry ran).1)).1
  · rw [listed, List.map_map, List.forall₂_map_right_iff]
    refine List.forall₂_same.mpr fun key member => ?_
    -- where there is a class there is a document, so that the accumulators are known
    obtain ⟨doc, inDocs, _⟩ := shown.nonempty key member
    exact folds_bucket spec unique id columns accumulators read (known (List.ne_nil_of_mem inDocs))
      docs entries each key

/-- A group stage with one key for all documents yields one document, which holds the fold of every
accumulator over all of them. -/
theorem group_constant (spec : Document) (docs : List Document) (id value : Value)
    (named : Document.get? spec "_id" = some id)
    (constant : ∀ doc : Document, Expression.evaluate (.object doc) id = .ok value)
    (computes : ∀ field ∈ spec, field.1 ≠ "_id" → Computes field.2) (unique : spec.keys.Nodup)
    (filled : docs ≠ []) :
    ∃ doc, group spec docs = .ok [doc] ∧
      ∀ name operator operand, (name, Value.single operator operand) ∈ spec → name ≠ "_id" →
        ∃ accumulator values, Accumulator.ofName? operator = some accumulator ∧
          List.Forall₂ (fun doc value =>
            Expression.evaluate (.object doc) operand = .ok value) docs values ∧
          doc.get? name = some (accumulator.result values) := by
  obtain ⟨out, grouped⟩ := group_total spec docs id named (fun doc => ⟨value, constant doc⟩) computes
  obtain ⟨id', keys, named', _, appears, folds⟩ := group_classes spec unique docs out grouped
  obtain rfl := Option.some.inj (named.symm.trans named')
  obtain ⟨rfl, whole⟩ := appears.toClasses.constant filled value fun doc _ =>
    valueAt_ok id value doc (constant doc)
  obtain ⟨doc, rest, one, none, rfl⟩ := List.forall₂_cons_left_iff.mp folds
  obtain rfl := List.forall₂_nil_left_iff.mp none
  refine ⟨doc, grouped, fun name operator operand member other => ?_⟩
  obtain ⟨_, _, accumulator, single, operates, evaluates, found⟩ := one.folded name _ member other
  obtain ⟨rfl, rfl⟩ : operator = _ ∧ operand = _ := by simpa [Value.single] using single
  refine ⟨accumulator, docs.map (valueAt operand), operates, ?_, ?_⟩
  · exact List.forall₂_map_right_iff.mpr (List.forall₂_same.mpr evaluates)
  · rw [found, whole, Accumulator.result_fed]

section Losing

variable {spec : Document} {id : Value} {docs out : List Document} {keys : List Value}

def itemsOf : Option Value → List Value
  | some (.array items) => items
  | _ => []

/-- The items of a list that is stored in a field. -/
def itemsAt (name : String) (doc : Document) : List Value := itemsOf (doc.get? name)

/-- A field that is read in the documents of all classes is read off the classes. -/
theorem map_folds {γ : Type} (folds : List.Forall₂ (Folds spec id docs) keys out) (name : String)
    (operator : String) (operand : Value) (accumulator : Accumulator)
    (member : (name, Value.single operator operand) ∈ spec) (other : name ≠ "_id")
    (operates : Accumulator.ofName? operator = some accumulator) (read : Option Value → γ) :
    out.map (fun doc => read (doc.get? name)) = keys.map fun key =>
      read (some (accumulator.fed ((members (valueAt id) docs key).map (valueAt operand)))) := by
  refine (map_of_forall₂ (List.forall₂_map_right_iff.mpr (folds.imp fun key doc one => ?_))).symm
  obtain ⟨operator', operand', accumulator', single, operates', _, found⟩ :=
    one.folded name _ member other
  obtain ⟨rfl, rfl⟩ : operator = operator' ∧ operand = operand' := by
    simpa [Value.single] using single
  obtain rfl := Option.some.inj (operates.symm.trans operates')
  rw [found]

theorem fed_push (values : List Value) : Accumulator.push.fed values = .array values :=
  (Accumulator.result_fed .push values).symm

theorem fed_ones (number : Nat) (small : number < 2 ^ 63) :
    Accumulator.sum.fed (List.replicate number (.int 1)) = .int number := by
  rw [← Accumulator.result_fed]
  exact Accumulator.total_ones_value number small

/-- The lists that are pushed for all classes together are a rearrangement of what is pushed. -/
theorem pushed_together (appears : Appears (valueAt id) docs keys)
    (folds : List.Forall₂ (Folds spec id docs) keys out) (name : String) (operand : Value)
    (member : (name, Value.single "$push" operand) ∈ spec) (other : name ≠ "_id") :
    (out.flatMap (itemsAt name)).Perm (docs.map (valueAt operand)) := by
  have lists : out.map (itemsAt name) =
      keys.map fun key => (members (valueAt id) docs key).map (valueAt operand) := by
    refine (map_folds folds name "$push" operand .push member other rfl itemsOf).trans ?_
    exact List.map_congr_left fun key _ => by rw [fed_push, itemsOf]
  rw [List.flatMap_def, lists, ← List.flatMap_def, ← List.map_flatMap]
  exact (flatMap_members docs keys appears.distinct appears.covered).map _

theorem counted_together (appears : Appears (valueAt id) docs keys)
    (folds : List.Forall₂ (Folds spec id docs) keys out) (small : docs.length < 2 ^ 63)
    (name : String) (member : (name, Value.single "$sum" (.int 1)) ∈ spec) (other : name ≠ "_id") :
    ∃ counts : List Nat, out.map (fun doc => doc.get? name) =
      counts.map (fun count => some (.int count)) ∧ counts.sum = docs.length := by
  refine ⟨keys.map fun key => (members (valueAt id) docs key).length, ?_,
    sum_members docs keys appears.distinct appears.covered⟩
  rw [List.map_map]
  refine (map_folds folds name "$sum" (.int 1) .sum member other rfl fun stored => stored).trans
    (List.map_congr_left fun key _ => ?_)
  have ones : (members (valueAt id) docs key).map (valueAt (.int 1)) =
      List.replicate (members (valueAt id) docs key).length (.int 1) :=
    List.map_eq_replicate_iff.mpr fun doc _ => rfl
  have fewer : (members (valueAt id) docs key).length < 2 ^ 63 :=
    lt_of_le_of_lt (List.length_filter_le _ _) small
  rw [ones, fed_ones _ fewer]
  rfl

end Losing

/-- The documents of a group stage as the partition of those it is given by their keys: one for each
class, in order of first appearance and under the first key, with every accumulator fed by the
documents of the class in their order. The pushed lists together hold all that is pushed, and ones that
are summed add up to the number of documents, which 64 bits have to count. -/
structure Partitions (spec : Document) (docs out : List Document) (id : Value) (keys : List Value) :
    Prop where
  named : Document.get? spec "_id" = some id
  evaluates : Evaluates id docs
  appears : Appears (valueAt id) docs keys
  folds : List.Forall₂ (Folds spec id docs) keys out
  pushed : ∀ name operand, (name, Value.single "$push" operand) ∈ spec → name ≠ "_id" →
    (out.flatMap (itemsAt name)).Perm (docs.map (valueAt operand))
  counted : docs.length < 2 ^ 63 →
    ∀ name, (name, Value.single "$sum" (.int 1)) ∈ spec → name ≠ "_id" →
      ∃ counts : List Nat, out.map (fun doc => doc.get? name) =
        counts.map (fun count => some (.int count)) ∧ counts.sum = docs.length

/-- A group stage that succeeds partitions its documents. -/
theorem group_partitions (spec : Document) (unique : spec.keys.Nodup) (docs out : List Document)
    (grouped : group spec docs = .ok out) : ∃ id keys, Partitions spec docs out id keys := by
  obtain ⟨id, keys, named, evaluates, appears, folds⟩ := group_classes spec unique docs out grouped
  exact ⟨id, keys, named, evaluates, appears, folds, pushed_together appears folds,
    counted_together appears folds⟩

/-- Orders by their rating, which is an integer, a double, a text or missing. -/
def byRating : Document :=
  [("_id", .string "$rating"), ("count", .single "$sum" (.int 1)),
    ("best", .single "$max" (.string "$price")), ("orders", .single "$push" (.string "$no"))]

def rated : List Document :=
  [[("no", .int 1), ("rating", .int 2), ("price", .int 30)],
    [("no", .int 2), ("rating", .string "good")],
    [("no", .int 3), ("rating", .double (.ofNat 2)), ("price", .int 45)],
    [("no", .int 4), ("price", .int 20)]]

/-- The integer came first, and is the key of the double as well. -/
def ratings : List Document :=
  [[("_id", .int 2), ("count", .int 2), ("best", .int 45), ("orders", .array [.int 1, .int 3])],
    [("_id", .string "good"), ("count", .int 1), ("best", .null), ("orders", .array [.int 2])],
    [("_id", .null), ("count", .int 1), ("best", .int 20), ("orders", .array [.int 4])]]

theorem group_partitions_rated :
    byRating.keys.Nodup ∧ group byRating rated = .ok ratings ∧
      ∃ id keys, Partitions byRating rated ratings id keys := by
  have unique : byRating.keys.Nodup := by decide
  have grouped : group byRating rated = .ok ratings := by decide +kernel
  exact ⟨unique, grouped, group_partitions byRating unique rated ratings grouped⟩

end DataGrid.Grouping
