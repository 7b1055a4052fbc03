import DataGrid.Pipeline.Grouping
import DataGrid.Proofs.Store.Result
import DataGrid.Proofs.Value.Order
import Mathlib
/-!
What grouping makes of a list of rows. The buckets are the classes of the rows under equality of
their keys: no two buckets have equal keys, every row is in the bucket of its key, a bucket holds its
rows in their order, and its key is that of the first of them. The buckets stand in the order in which
the rows first show their keys. How many classes there are does not depend on the order of the rows,
and taken together they are the rows again.
-/
namespace DataGrid.Grouping

open Result

section Classes

variable {α : Type} (keyOf : α → Value)

/-- The rows with a given key, in their order. -/
def members (rows : List α) (key : Value) : List α := rows.filter fun row => key.equal (keyOf row)

/-- A list of keys that stands for the classes of a list of rows, one key for each. -/
structure Classes (rows : List α) (keys : List Value) : Prop where
  distinct : keys.Pairwise fun a b => a.equal b = false
  covered : ∀ row ∈ rows, ∃ key ∈ keys, key.equal (keyOf row) = true
  /-- The key of a class is taken from the first of its rows. -/
  first : ∀ key ∈ keys, ((members keyOf rows key).head?).map keyOf = some key

/-- The place of the first row with a given key. -/
def placeOf (rows : List α) (key : Value) : Nat := rows.findIdx fun row => key.equal (keyOf row)

/-- Keys of classes in the order in which the rows first show them. -/
structure Appears (rows : List α) (keys : List Value) : Prop extends Classes keyOf rows keys where
  order : keys.Pairwise fun a b => placeOf keyOf rows a < placeOf keyOf rows b

variable {keyOf}

theorem members_append (rows others : List α) (key : Value) :
    members keyOf (rows ++ others) key = members keyOf rows key ++ members keyOf others key :=
  List.filter_append rows others

theorem Classes.nonempty {rows : List α} {keys : List Value} (classes : Classes keyOf rows keys)
    (key : Value) (member : key ∈ keys) : ∃ row ∈ rows, keyOf row = key := by
  have head := classes.first key member
  obtain ⟨row, found, same⟩ := Option.map_eq_some_iff.mp head
  exact ⟨row, (List.mem_filter.mp (List.mem_of_mem_head? found)).1, same⟩

/-- The classes together are a rearrangement of the rows. -/
theorem flatMap_members (rows : List α) (keys : List Value)
    (distinct : keys.Pairwise fun a b => a.equal b = false)
    (covered : ∀ row ∈ rows, ∃ key ∈ keys, key.equal (keyOf row) = true) :
    (keys.flatMap (members keyOf rows)).Perm rows := by
  induction keys generalizing rows with
  | nil =>
      have none : rows = [] := List.eq_nil_iff_forall_not_mem.mpr fun row member => by
        simpa using covered row member
      rw [none, List.flatMap_nil]
  | cons key keys ih =>
      obtain ⟨apart, tail⟩ := List.pairwise_cons.mp distinct
      let others := rows.filter fun row => !key.equal (keyOf row)
      have coveredOthers : ∀ row ∈ others, ∃ key ∈ keys, key.equal (keyOf row) = true := by
        intro row member
        obtain ⟨inRows, missed⟩ := List.mem_filter.mp member
        obtain ⟨other, inKeys, hit⟩ := covered row inRows
        rcases List.mem_cons.mp inKeys with rfl | later
        · simp [hit] at missed
        · exact ⟨other, later, hit⟩
      -- the rows of a later key are not among those of the first one
      have kept : ∀ other ∈ keys, members keyOf others other = members keyOf rows other := by
        intro other member
        rw [members, members, List.filter_filter]
        refine List.filter_congr fun row _ => ?_
        cases hit : other.equal (keyOf row) with
        | false => rfl
        | true =>
            have differs := apart other member
            rw [Value.equal_comm, Value.equal_congr_left other (keyOf row) key hit] at differs
            rw [Value.equal_comm, differs]
            rfl
      have rest := ih others tail coveredOthers
      rw [List.flatMap_def, List.map_congr_left kept, ← List.flatMap_def] at rest
      rw [List.flatMap_cons]
      exact (rest.append_left _).trans (List.filter_append_perm _ rows)

theorem sum_members (rows : List α) (keys : List Value)
    (distinct : keys.Pairwise fun a b => a.equal b = false)
    (covered : ∀ row ∈ rows, ∃ key ∈ keys, key.equal (keyOf row) = true) :
    (keys.map fun key => (members keyOf rows key).length).sum = rows.length := by
  have together := (flatMap_members rows keys distinct covered).length_eq
  rwa [List.length_flatMap] at together

/-- The keys name the classes that have rows, each of them once. -/
theorem Classes.quotients {rows : List α} {keys : List Value} (classes : Classes keyOf rows keys) :
    (keys.map (Quotient.mk Value.equality)).Nodup ∧
      ∀ c, c ∈ keys.map (Quotient.mk Value.equality) ↔
        ∃ row ∈ rows, Quotient.mk Value.equality (keyOf row) = c := by
  constructor
  · rw [List.Nodup, List.pairwise_map]
    refine classes.distinct.imp ?_
    intro a b apart equal
    have related : a.equal b = true := Quotient.exact equal
    rw [apart] at related
    contradiction
  · intro c
    constructor
    · intro member
      obtain ⟨key, inKeys, rfl⟩ := List.mem_map.mp member
      obtain ⟨row, inRows, same⟩ := classes.nonempty key inKeys
      exact ⟨row, inRows, by rw [same]⟩
    · rintro ⟨row, inRows, rfl⟩
      obtain ⟨key, inKeys, equal⟩ := classes.covered row inRows
      exact List.mem_map.mpr ⟨key, inKeys, Quotient.sound equal⟩

theorem Classes.length_eq {rows others : List α} {keys keys' : List Value}
    (left : Classes keyOf rows keys) (right : Classes keyOf others keys')
    (same : ∀ row, row ∈ rows ↔ row ∈ others) : keys.length = keys'.length := by
  obtain ⟨leftUnique, leftClasses⟩ := left.quotients
  obtain ⟨rightUnique, rightClasses⟩ := right.quotients
  have order := (List.perm_ext_iff_of_nodup leftUnique rightUnique).mpr fun c => by
    rw [leftClasses, rightClasses]
    simp only [same]
  simpa using order.length_eq

theorem Classes.length_le {rows : List α} {keys : List Value} (classes : Classes keyOf rows keys) :
    keys.length ≤ rows.length := by
  obtain ⟨unique, named⟩ := classes.quotients
  have among : keys.map (Quotient.mk Value.equality) ⊆
      rows.map fun row => Quotient.mk Value.equality (keyOf row) := by
    intro c member
    obtain ⟨row, inRows, same⟩ := (named c).mp member
    exact List.mem_map.mpr ⟨row, inRows, same⟩
  simpa using (List.subperm_of_subset unique among).length_le

theorem Classes.first_append {rows : List α} {keys : List Value} (classes : Classes keyOf rows keys)
    (more : List α) (key : Value) (member : key ∈ keys) :
    ((members keyOf (rows ++ more) key).head?).map keyOf = some key := by
  obtain ⟨row, found, same⟩ := Option.map_eq_some_iff.mp (classes.first key member)
  rw [members_append, List.head?_append, found]
  simpa using same

/-- A row whose key is known joins its class. -/
theorem Classes.append_known {rows : List α} {keys : List Value} (classes : Classes keyOf rows keys)
    (row : α) (known : ∃ key ∈ keys, key.equal (keyOf row) = true) :
    Classes keyOf (rows ++ [row]) keys := by
  refine ⟨classes.distinct, ?_, classes.first_append [row]⟩
  intro other member
  rcases List.mem_append.mp member with old | new
  · exact classes.covered other old
  · rw [List.mem_singleton.mp new]
    exact known

/-- No earlier row has a new key, since its own key would have been known. -/
theorem Classes.fresh {rows : List α} {keys : List Value} (classes : Classes keyOf rows keys)
    (row : α) (apart : ∀ key ∈ keys, key.equal (keyOf row) = false) :
    members keyOf rows (keyOf row) = [] := by
  apply List.filter_eq_nil_iff.mpr
  intro other member same
  obtain ⟨key, inKeys, equal⟩ := classes.covered other member
  have hit := Value.equal_trans key (keyOf other) (keyOf row) equal (Value.equal_symm _ _ same)
  rw [apart key inKeys] at hit
  contradiction

theorem Classes.members_alone {rows : List α} {keys : List Value} (classes : Classes keyOf rows keys)
    (row : α) (apart : ∀ key ∈ keys, key.equal (keyOf row) = false) :
    members keyOf (rows ++ [row]) (keyOf row) = [row] := by
  rw [members_append, classes.fresh row apart]
  simp [members, Value.equal_refl]

/-- A row whose key is unknown opens a class behind the others. -/
theorem Classes.append_unknown {rows : List α} {keys : List Value} (classes : Classes keyOf rows keys)
    (row : α) (apart : ∀ key ∈ keys, key.equal (keyOf row) = false) :
    Classes keyOf (rows ++ [row]) (keys ++ [keyOf row]) := by
  constructor
  case distinct =>
    refine List.pairwise_append.mpr ⟨classes.distinct, by simp, ?_⟩
    intro key member other single
    rw [List.mem_singleton.mp single]
    exact apart key member
  case covered =>
    intro other member
    rcases List.mem_append.mp member with old | new
    · obtain ⟨key, inKeys, equal⟩ := classes.covered other old
      exact ⟨key, List.mem_append_left _ inKeys, equal⟩
    · rw [List.mem_singleton.mp new]
      exact ⟨keyOf row, by simp, Value.equal_refl _⟩
  case first =>
    intro key member
    rcases List.mem_append.mp member with old | new
    · exact classes.first_append [row] key old
    · rw [List.mem_singleton.mp new, classes.members_alone row apart]
      rfl

/-- The first row with a key stays at its place when more rows follow. -/
theorem placeOf_append (rows more : List α) (key : Value)
    (shown : ∃ row ∈ rows, key.equal (keyOf row) = true) :
    placeOf keyOf (rows ++ more) key = placeOf keyOf rows key := by
  rw [placeOf, List.findIdx_append, if_pos (List.findIdx_lt_length.mpr shown), placeOf]

theorem Classes.shown {rows : List α} {keys : List Value} (classes : Classes keyOf rows keys)
    (key : Value) (member : key ∈ keys) : ∃ row ∈ rows, key.equal (keyOf row) = true := by
  obtain ⟨row, inRows, same⟩ := classes.nonempty key member
  exact ⟨row, inRows, by rw [same, Value.equal_refl]⟩

theorem Appears.order_append {rows : List α} {keys : List Value} (appears : Appears keyOf rows keys)
    (more : List α) :
    keys.Pairwise fun a b => placeOf keyOf (rows ++ more) a < placeOf keyOf (rows ++ more) b := by
  refine appears.order.imp_of_mem fun {a b} left right before => ?_
  rw [placeOf_append rows more a (appears.shown a left),
    placeOf_append rows more b (appears.shown b right)]
  exact before

theorem Appears.append_known {rows : List α} {keys : List Value} (appears : Appears keyOf rows keys)
    (row : α) (known : ∃ key ∈ keys, key.equal (keyOf row) = true) :
    Appears keyOf (rows ++ [row]) keys :=
  ⟨appears.toClasses.append_known row known, appears.order_append [row]⟩

/-- The key of a row that opens a class comes last, for no earlier row shows it. -/
theorem Appears.append_unknown {rows : List α} {keys : List Value} (appears : Appears keyOf rows keys)
    (row : α) (apart : ∀ key ∈ keys, key.equal (keyOf row) = false) :
    Appears keyOf (rows ++ [row]) (keys ++ [keyOf row]) := by
  refine ⟨appears.toClasses.append_unknown row apart, List.pairwise_append.mpr ⟨?_, by simp, ?_⟩⟩
  · exact appears.order_append [row]
  · intro key member last single
    rw [List.mem_singleton.mp single, placeOf_append rows [row] key (appears.shown key member)]
    have early : placeOf keyOf rows key < rows.length :=
      List.findIdx_lt_length.mpr (appears.shown key member)
    refine lt_of_lt_of_le early ?_
    rw [placeOf, List.findIdx_append, if_neg]
    · exact Nat.le_add_left _ _
    · rw [List.findIdx_lt_length]
      rintro ⟨other, inRows, hit⟩
      exact List.filter_eq_nil_iff.mp (appears.fresh row apart) other inRows hit

theorem Classes.constant {rows : List α} {keys : List Value} (classes : Classes keyOf rows keys)
    (filled : rows ≠ []) (value : Value) (same : ∀ row ∈ rows, keyOf row = value) :
    keys = [value] ∧ members keyOf rows value = rows := by
  have all : ∀ key ∈ keys, key = value := by
    intro key member
    obtain ⟨row, inRows, carried⟩ := classes.nonempty key member
    rw [← carried, same row inRows]
  constructor
  · cases keys with
    | nil =>
        obtain ⟨row, rest, rfl⟩ := List.exists_cons_of_ne_nil filled
        obtain ⟨key, member, _⟩ := classes.covered row List.mem_cons_self
        simp at member
    | cons key keys =>
        cases keys with
        | nil => rw [all key List.mem_cons_self]
        | cons other keys =>
            -- two keys of one list differ, but these are the same value
            have apart := (List.pairwise_cons.mp classes.distinct).1 other List.mem_cons_self
            rw [all key List.mem_cons_self, all other (by simp), Value.equal_refl] at apart
            contradiction
  · exact List.filter_eq_self.mpr fun row member => by rw [same row member, Value.equal_refl]

theorem Classes.perm {rows : List α} {keys others : List Value} (classes : Classes keyOf rows keys)
    (order : keys.Perm others) : Classes keyOf rows others := by
  constructor
  case distinct =>
    refine (order.pairwise_iff ?_).mp classes.distinct
    intro a b apart
    rw [Value.equal_comm, apart]
  case covered =>
    intro row member
    obtain ⟨key, inKeys, same⟩ := classes.covered row member
    exact ⟨key, order.mem_iff.mp inKeys, same⟩
  case first =>
    exact fun key member => classes.first key (order.mem_iff.mpr member)

/-- A class has one key, which is that of its first row. -/
theorem Classes.mem_of_mem {rows : List α} {keys others : List Value}
    (left : Classes keyOf rows keys) (right : Classes keyOf rows others) (key : Value)
    (member : key ∈ keys) : key ∈ others := by
  obtain ⟨row, inRows, rfl⟩ := left.nonempty key member
  obtain ⟨key, inOthers, equal⟩ := right.covered row inRows
  have same : members keyOf rows key = members keyOf rows (keyOf row) :=
    List.filter_congr fun other _ => Value.equal_congr_left key (keyOf row) (keyOf other) equal
  have head := right.first key inOthers
  rw [same, left.first (keyOf row) member] at head
  exact Option.some.inj head ▸ inOthers

variable {β : Type} {other : β → Value}

/-- Rows that correspond one by one and have the same keys have the same classes. -/
theorem members_forall₂ (related : α → β → Prop) (rows : List α) (images : List β)
    (each : List.Forall₂ related rows images)
    (keys : ∀ row image, related row image → keyOf row = other image) (key : Value) :
    List.Forall₂ related (members keyOf rows key) (members other images key) := by
  induction each with
  | nil => exact List.Forall₂.nil
  | @cons row image _ _ first _ ih =>
      have same := keys row image first
      by_cases hit : key.equal (keyOf row) = true
      · have hit' : key.equal (other image) = true := by rw [← same, hit]
        simpa [members, hit, hit'] using List.Forall₂.cons first ih
      · have hit' : ¬ key.equal (other image) = true := by rwa [← same]
        simpa [members, hit, hit'] using ih

theorem placeOf_forall₂ (related : α → β → Prop) (rows : List α) (images : List β)
    (each : List.Forall₂ related rows images)
    (keys : ∀ row image, related row image → keyOf row = other image) (key : Value) :
    placeOf other images key = placeOf keyOf rows key := by
  induction each with
  | nil => rfl
  | cons first _ ih =>
      rw [placeOf, placeOf] at ih
      rw [placeOf, placeOf, List.findIdx_cons, List.findIdx_cons, ih, keys _ _ first]

theorem Classes.forall₂ (related : α → β → Prop) (rows : List α) (images : List β)
    (each : List.Forall₂ related rows images)
    (sameKeys : ∀ row image, related row image → keyOf row = other image) (keys : List Value)
    (classes : Classes keyOf rows keys) : Classes other images keys := by
  refine ⟨classes.distinct, ?_, ?_⟩
  · intro image member
    obtain ⟨row, inRows, known⟩ := Result.exists_left each image member
    rw [← sameKeys row image known]
    exact classes.covered row inRows
  · intro key member
    obtain ⟨row, found, same⟩ := Option.map_eq_some_iff.mp (classes.first key member)
    obtain ⟨rest, split⟩ := List.head?_eq_some_iff.mp found
    have matched := members_forall₂ related rows images each sameKeys key
    rw [split] at matched
    obtain ⟨image, others, known, _, same'⟩ := List.forall₂_cons_left_iff.mp matched
    rw [same', ← same, sameKeys row image known]
    rfl

theorem Appears.forall₂ (related : α → β → Prop) (rows : List α) (images : List β)
    (each : List.Forall₂ related rows images)
    (sameKeys : ∀ row image, related row image → keyOf row = other image) (keys : List Value)
    (appears : Appears keyOf rows keys) : Appears other images keys := by
  refine ⟨appears.toClasses.forall₂ related rows images each sameKeys keys, ?_⟩
  simp only [placeOf_forall₂ related rows images each sameKeys]
  exact appears.order

end Classes

/-- The bucket of a key over a list of entries. -/
def bucketOf (entries : List Entry) (key : Value) : Bucket :=
  ⟨key, (members Entry.key entries key).map Entry.operands⟩

theorem bucketOf_other (entries : List Entry) (entry : Entry) (key : Value)
    (differs : key.equal entry.key = false) :
    bucketOf (entries ++ [entry]) key = bucketOf entries key := by
  simp [bucketOf, members, differs]

theorem insert_known (entries : List Entry) (entry : Entry) (keys : List Value)
    (distinct : keys.Pairwise fun a b => a.equal b = false)
    (known : ∃ key ∈ keys, key.equal entry.key = true) :
    insert (keys.map (bucketOf entries)) entry = keys.map (bucketOf (entries ++ [entry])) := by
  induction keys with
  | nil => simp at known
  | cons key keys ih =>
      obtain ⟨apart, tail⟩ := List.pairwise_cons.mp distinct
      -- only the bucket that is hit grows: no other key is equal to it
      by_cases hit : key.equal entry.key = true
      · have others : keys.map (bucketOf (entries ++ [entry])) = keys.map (bucketOf entries) := by
          apply List.map_congr_left
          intro other member
          apply bucketOf_other
          rw [Value.equal_comm, ← Value.equal_congr_left key entry.key other hit]
          exact apart other member
        have grown : bucketOf (entries ++ [entry]) key =
            ⟨key, (bucketOf entries key).rows ++ [entry.operands]⟩ := by
          simp [bucketOf, members, hit]
        simp only [List.map_cons, insert, others, grown]
        simp [bucketOf, hit]
      · have later : ∃ key ∈ keys, key.equal entry.key = true := by
          obtain ⟨other, member, same⟩ := known
          rcases List.mem_cons.mp member with rfl | later
          · exact absurd same hit
          · exact ⟨other, later, same⟩
        have differs : key.equal entry.key = false := by simpa using hit
        rw [List.map_cons, List.map_cons, bucketOf_other entries entry key differs, ← ih tail later]
        simp [insert, bucketOf, hit]

theorem insert_unknown (buckets : List Bucket) (entry : Entry)
    (unknown : ∀ bucket ∈ buckets, bucket.key.equal entry.key = false) :
    insert buckets entry = buckets ++ [⟨entry.key, [entry.operands]⟩] := by
  induction buckets with
  | nil => rfl
  | cons bucket rest ih =>
      have tail := ih fun other member => unknown other (List.mem_cons_of_mem bucket member)
      simp [insert, unknown bucket (by simp), tail]

/-- Inserting an entry extends the class of its key, or opens a class behind the others. -/
theorem insert_appears (entries : List Entry) (entry : Entry) (keys : List Value)
    (appears : Appears Entry.key entries keys) :
    ∃ keys', Appears Entry.key (entries ++ [entry]) keys' ∧
      insert (keys.map (bucketOf entries)) entry = keys'.map (bucketOf (entries ++ [entry])) := by
  by_cases known : ∃ key ∈ keys, key.equal entry.key = true
  · exact ⟨keys, appears.append_known entry known,
      insert_known entries entry keys appears.distinct known⟩
  · have apart : ∀ key ∈ keys, key.equal entry.key = false := by
      intro key member
      by_contra hit
      exact known ⟨key, member, by simpa using hit⟩
    refine ⟨keys ++ [entry.key], appears.append_unknown entry apart, ?_⟩
    have kept : keys.map (bucketOf (entries ++ [entry])) = keys.map (bucketOf entries) :=
      List.map_congr_left fun key member => bucketOf_other entries entry key (apart key member)
    have alone := appears.members_alone entry apart
    rw [insert_unknown _ _ (by simpa [bucketOf] using apart), List.map_append, kept]
    simp [bucketOf, alone]

theorem buckets_appears (entries : List Entry) :
    ∃ keys, Appears Entry.key entries keys ∧ buckets entries = keys.map (bucketOf entries) := by
  induction entries using List.reverseRecOn with
  | nil =>
      exact ⟨[], ⟨⟨List.Pairwise.nil, by simp, by simp⟩, List.Pairwise.nil⟩, rfl⟩
  | append_singleton entries entry ih =>
      obtain ⟨keys, appears, same⟩ := ih
      obtain ⟨keys', extended, inserted⟩ := insert_appears entries entry keys appears
      refine ⟨keys', extended, ?_⟩
      rw [buckets, List.foldl_append]
      change insert (buckets entries) entry = _
      rw [same, inserted]

theorem buckets_classes (entries : List Entry) :
    ∃ keys, Classes Entry.key entries keys ∧ buckets entries = keys.map (bucketOf entries) := by
  obtain ⟨keys, appears, same⟩ := buckets_appears entries
  exact ⟨keys, appears.toClasses, same⟩

theorem group_ok (spec : Document) (docs out : List Document) (id : Value) (columns : List Column)
    (accumulators : List Accumulator) (named : Document.get? spec "_id" = some id)
    (read : Grouping.columns spec = .ok columns)
    (known : Grouping.accumulators columns = .ok accumulators) :
    group spec docs = .ok out ↔ ∃ entries, docs.mapM (entry id columns) = .ok entries ∧
      out = (buckets entries).map (Bucket.document (columns.zip accumulators)) := by
  simp only [group, named]
  rw [bind_ok]
  constructor
  · rintro ⟨columns', same, later⟩
    obtain rfl := Except.ok.inj (read.symm.trans same)
    obtain ⟨entries, mapped, last⟩ := (bind_ok _ _ _).mp later
    refine ⟨entries, mapped, ?_⟩
    cases entries with
    | nil => exact (Except.ok.inj last).symm
    | cons first rest =>
        obtain ⟨accumulators', same, result⟩ := (bind_ok _ _ _).mp last
        obtain rfl := Except.ok.inj (known.symm.trans same)
        exact (Except.ok.inj result).symm
  · rintro ⟨entries, mapped, rfl⟩
    refine ⟨columns, read, (bind_ok _ _ _).mpr ⟨entries, mapped, ?_⟩⟩
    cases entries with
    | nil => rfl
    | cons first rest => exact (bind_ok _ _ _).mpr ⟨accumulators, known, rfl⟩

/-- A field of a group stage that has a value for every group. -/
def Computes (spec : Value) : Prop :=
  ∃ operator operand accumulator, spec = .single operator operand ∧
    Accumulator.ofName? operator = some accumulator ∧
    ∀ doc : Document, ∃ value, Expression.evaluate (.object doc) operand = .ok value

theorem columns_total (spec : Document)
    (computes : ∀ field ∈ spec, field.1 ≠ "_id" → Computes field.2) :
    ∃ columns accumulators, Grouping.columns spec = .ok columns ∧
      Grouping.accumulators columns = .ok accumulators ∧
      ∀ column ∈ columns, ∀ doc : Document,
        ∃ value, Expression.evaluate (.object doc) column.operand = .ok value := by
  induction spec with
  | nil => exact ⟨[], [], rfl, rfl, by simp⟩
  | cons field rest ih =>
      obtain ⟨columns, accumulators, read, known, evaluated⟩ :=
        ih fun other member => computes other (List.mem_cons_of_mem field member)
      -- the key makes no column, and every other field makes one
      by_cases id : field.1 = "_id"
      · refine ⟨columns, accumulators, ?_, known, evaluated⟩
        rw [Grouping.columns, if_pos id]
        exact read
      · obtain ⟨operator, operand, accumulator, same, named, total⟩ := computes field (by simp) id
        refine ⟨⟨field.1, operator, operand⟩ :: columns, accumulator :: accumulators, ?_, ?_, ?_⟩
        · rw [Grouping.columns, if_neg id, read, same]
          rfl
        · simp only [Grouping.accumulators, named, known]
          rfl
        · intro column member
          rcases List.mem_cons.mp member with rfl | later
          · exact total
          · exact evaluated column later

theorem group_total (spec : Document) (docs : List Document) (id : Value)
    (named : Document.get? spec "_id" = some id)
    (keyed : ∀ doc : Document, ∃ value, Expression.evaluate (.object doc) id = .ok value)
    (computes : ∀ field ∈ spec, field.1 ≠ "_id" → Computes field.2) :
    ∃ out, group spec docs = .ok out := by
  obtain ⟨columns, accumulators, read, known, evaluated⟩ := columns_total spec computes
  have entries : ∀ doc ∈ docs, ∃ entry, Grouping.entry id columns doc = .ok entry := by
    intro doc _
    obtain ⟨key, first⟩ := keyed doc
    obtain ⟨operands, rest⟩ := mapM_total
      (fun column : Column => Expression.evaluate (.object doc) column.operand) columns
      fun column member => evaluated column member doc
    exact ⟨⟨key, operands⟩, by rw [entry, first, known, rest]; rfl⟩
  obtain ⟨collected, mapped⟩ := mapM_total _ docs entries
  exact ⟨_, (group_ok spec docs _ id columns accumulators named read known).mpr
    ⟨collected, mapped, rfl⟩⟩

end DataGrid.Grouping

namespace DataGrid.Value

theorem nat64?_natCast (number counted : Nat) (read : (int (number : Int)).nat64? = some counted) :
    counted = number := by
  rw [nat64?] at read
  split at read
  · rw [← Option.some.inj read]
    exact Int.toNat_natCast number
  · exact absurd read.symm (Option.some_ne_none counted)

theorem nat64?_small (number : Nat) (small : number < 2 ^ 64) :
    (int (number : Int)).nat64? = some number := by
  have fits : (0 : Int) ≤ number ∧ (number : Int) < 0x10000000000000000 := by omega
  rw [nat64?, if_pos fits, Int.toNat_natCast]

theorem nat64?_lt (value : Value) (counted : Nat) (read : value.nat64? = some counted) :
    counted < 2 ^ 64 := by
  unfold nat64? at read
  split at read
  · split at read
    · obtain rfl := Option.some.inj read
      omega
    · contradiction
  · contradiction

end DataGrid.Value

namespace DataGrid.Accumulator

theorem Total.add_whole (total : Total) (value : Value) (x : Double)
    (number : value.double? = some x) : (total.add value).whole =
      total.whole.bind fun m => value.int64?.bind fun n => inInt64 (m + n) := by
  rw [Total.add, number]

/-- A sum of ones counts its terms, as long as a signed integer of 64 bits can. -/
theorem total_ones_whole (number : Nat) :
    (total (List.replicate number (.int 1))).whole =
      if number < 2 ^ 63 then some (number : Int) else none := by
  induction number with
  | zero => simp [total, Total.none]
  | succ number ih =>
      have one : Value.int64? (.int 1) = some 1 := by decide
      rw [List.replicate_succ', total, List.foldl_append, ← total, List.foldl_cons, List.foldl_nil,
        Total.add_whole _ _ (.ofInt 1) (by rw [Value.double?]), ih, one]
      -- a sum that has left the integers does not come back to them
      by_cases small : number + 1 < 2 ^ 63
      · have before : number < 2 ^ 63 := by omega
        rw [if_pos before, if_pos small, Option.bind_some, Option.bind_some, inInt64,
          if_pos (by omega)]
        rfl
      · rw [if_neg small]
        split
        · rw [Option.bind_some, Option.bind_some, inInt64, if_neg (by omega)]
        · rfl

theorem total_ones_value (number : Nat) (small : number < 2 ^ 63) :
    (total (List.replicate number (.int 1))).value = .int number := by
  have whole := total_ones_whole number
  rw [if_pos small] at whole
  simp only [Total.value, whole]

/-- When a sum of ones can be read as a count, it is the number of terms. -/
theorem total_ones (number counted : Nat)
    (read : (total (List.replicate number (.int 1))).value.nat64? = some counted) :
    counted = number := by
  by_cases small : number < 2 ^ 63
  · rw [total_ones_value number small] at read
    exact Value.nat64?_natCast number counted read
  · have whole := total_ones_whole number
    rw [if_neg small] at whole
    simp only [Total.value, whole] at read
    cases rough : (total (List.replicate number (.int 1))).rough <;>
      simp [rough, Value.nat64?] at read

end DataGrid.Accumulator
