import DataGrid.Value.Path
/-!
Documents as lists of fields: what a lookup, a new field and a removed field do to a document that
is put together from two parts. Fields that are computed on the way are added behind the stored
ones, so taking all of them away again gives the stored document back, in its order.
-/
namespace DataGrid

namespace Document

theorem get?_append_left (doc rest : Document) (key : String) (absent : key ∉ keys rest) :
    get? (doc ++ rest) key = get? doc key := by
  induction doc with
  | nil =>
      induction rest with
      | nil => rfl
      | cons field rest ih =>
          simp only [keys, List.map_cons, List.mem_cons, not_or] at absent
          have tail := ih absent.2
          simpa [get?, Ne.symm absent.1] using tail
  | cons field doc ih =>
      simp only [List.cons_append, get?]
      split
      · rfl
      · exact ih

theorem put_append_right (doc rest : Document) (key : String) (value : Value)
    (absent : key ∉ keys doc) : put (doc ++ rest) key value = doc ++ put rest key value := by
  induction doc with
  | nil => rfl
  | cons field doc ih =>
      simp only [keys, List.map_cons, List.mem_cons, not_or] at absent
      have tail := ih absent.2
      simp only [List.cons_append, put, if_neg (Ne.symm absent.1), tail]

theorem remove_append_right (doc rest : Document) (key : String) (absent : key ∉ keys doc) :
    remove (doc ++ rest) key = doc ++ remove rest key := by
  induction doc with
  | nil => rfl
  | cons field doc ih =>
      simp only [keys, List.map_cons, List.mem_cons, not_or] at absent
      have tail := ih absent.2
      simp only [List.cons_append, remove, if_neg (Ne.symm absent.1), tail]

theorem keys_put (doc : Document) (key : String) (value : Value) :
    keys (put doc key value) = if key ∈ keys doc then keys doc else keys doc ++ [key] := by
  induction doc with
  | nil => rfl
  | cons field doc ih =>
      simp only [keys, put, List.map_cons, List.mem_cons] at ih ⊢
      by_cases same : field.1 = key
      · simp [same]
      · rw [if_neg same, List.map_cons, ih]
        by_cases member : key ∈ List.map Prod.fst doc <;> simp [member, Ne.symm same]

theorem mem_keys_put (doc : Document) (key name : String) (value : Value) :
    name ∈ keys (put doc key value) ↔ name ∈ keys doc ∨ name = key := by
  rw [keys_put]
  split
  · constructor
    · exact Or.inl
    · rintro (old | rfl)
      · exact old
      · assumption
  · simp

theorem mem_put (doc : Document) (key : String) (value : Value) (field : String × Value)
    (member : field ∈ put doc key value) : field ∈ doc ∨ field = (key, value) := by
  induction doc with
  | nil => exact Or.inr (List.mem_singleton.mp member)
  | cons first doc ih =>
      simp only [put] at member
      split at member
      · rename_i same
        rcases List.mem_cons.mp member with rfl | later
        · exact Or.inr (by rw [same])
        · exact Or.inl (List.mem_cons_of_mem _ later)
      · rcases List.mem_cons.mp member with rfl | later
        · exact Or.inl List.mem_cons_self
        · rcases ih later with old | new
          · exact Or.inl (List.mem_cons_of_mem _ old)
          · exact Or.inr new

theorem get?_of_key (doc : Document) (key : String) (stored : key ∈ keys doc) :
    ∃ value, get? doc key = some value := by
  induction doc with
  | nil => simp [keys] at stored
  | cons field doc ih =>
      simp only [keys, List.map_cons, List.mem_cons] at stored
      by_cases same : field.1 = key
      · exact ⟨field.2, by simp [get?, same]⟩
      · obtain ⟨value, found⟩ := ih (stored.resolve_left (Ne.symm same))
        exact ⟨value, by simpa [get?, same] using found⟩

theorem mem_of_get? (doc : Document) (key : String) (value : Value)
    (found : get? doc key = some value) : (key, value) ∈ doc := by
  induction doc with
  | nil => simp [get?] at found
  | cons field doc ih =>
      simp only [get?] at found
      split at found
      · rename_i same
        rw [← Option.some.inj found, ← same]
        exact List.mem_cons_self
      · exact List.mem_cons_of_mem _ (ih found)

theorem get?_of_mem (doc : Document) (key : String) (value : Value) (unique : (keys doc).Nodup)
    (member : (key, value) ∈ doc) : get? doc key = some value := by
  induction doc with
  | nil => simp at member
  | cons field doc ih =>
      obtain ⟨apart, others⟩ := List.nodup_cons.mp unique
      rcases List.mem_cons.mp member with rfl | later
      · simp [get?]
      · have differs : field.1 ≠ key := fun same => apart (same ▸ List.mem_map_of_mem later)
        simpa [get?, differs] using ih others later

theorem get?_eq_some_iff (doc : Document) (key : String) (value : Value)
    (unique : (keys doc).Nodup) : get? doc key = some value ↔ (key, value) ∈ doc :=
  ⟨mem_of_get? doc key value, get?_of_mem doc key value unique⟩

theorem nodup_keys_put (doc : Document) (key : String) (value : Value)
    (unique : (keys doc).Nodup) : (keys (put doc key value)).Nodup := by
  rw [keys_put]
  split
  · exact unique
  · rename_i absent
    rw [List.nodup_append]
    refine ⟨unique, by simp, ?_⟩
    intro name member other single
    rw [List.mem_singleton.mp single]
    exact fun same => absent (same ▸ member)

theorem lastFirst_perm (fields : Document) : (lastFirst fields).Perm fields := by
  unfold lastFirst
  cases found : fields.getLast? with
  | none => simp [List.getLast?_eq_none_iff.mp found]
  | some last =>
      obtain ⟨front, rfl⟩ := List.getLast?_eq_some_iff.mp found
      simpa using (List.perm_append_singleton last front).symm

/-- Up to order, removing a key takes its field away and nothing else. -/
theorem remove_perm (doc : Document) (key : String) (unique : (keys doc).Nodup) :
    (remove doc key).Perm (doc.filter fun field => field.1 ≠ key) := by
  induction doc with
  | nil => exact List.Perm.refl _
  | cons field doc ih =>
      simp only [keys, List.map_cons, List.nodup_cons] at unique
      by_cases same : field.1 = key
      -- the last field moves into the gap, so only the order changes
      · have kept : doc.filter (fun field => field.1 ≠ key) = doc := by
          apply List.filter_eq_self.mpr
          intro other member
          have differs : other.1 ≠ key := fun equal =>
            unique.1 (by rw [same, ← equal]; exact List.mem_map_of_mem member)
          simpa using differs
        rw [List.filter_cons_of_neg (by simpa using same), kept]
        simpa [remove, same] using lastFirst_perm doc
      · rw [List.filter_cons_of_pos (by simpa using same)]
        simpa [remove, same] using (ih unique.2).cons field

theorem nodup_keys_remove (doc : Document) (key : String) (unique : (keys doc).Nodup) :
    (keys (remove doc key)).Nodup :=
  (((remove_perm doc key unique).map Prod.fst).nodup_iff).mpr
    (unique.sublist (List.filter_sublist.map _))

theorem get?_remove_self (doc : Document) (key : String) (unique : (keys doc).Nodup) :
    get? (remove doc key) key = none := by
  refine Option.eq_none_iff_forall_ne_some.mpr fun value found => ?_
  have left := (remove_perm doc key unique).mem_iff.mp (mem_of_get? _ key value found)
  simp at left

theorem get?_remove_other (doc : Document) (key other : String) (unique : (keys doc).Nodup)
    (differs : other ≠ key) : get? (remove doc key) other = get? doc other := by
  refine Option.ext fun value => ?_
  rw [get?_eq_some_iff _ other value (nodup_keys_remove doc key unique),
    (remove_perm doc key unique).mem_iff, get?_eq_some_iff doc other value unique, List.mem_filter]
  simp [differs]

theorem removeAll_perm (names : List String) (doc : Document) (unique : (keys doc).Nodup) :
    (names.foldl remove doc).Perm (doc.filter fun field => field.1 ∉ names) := by
  induction names generalizing doc with
  | nil =>
      have all : doc.filter (fun field => field.1 ∉ ([] : List String)) = doc :=
        List.filter_eq_self.mpr (by simp)
      rw [all]
      exact List.Perm.refl doc
  | cons name names ih =>
      have first := remove_perm doc name unique
      rw [List.foldl_cons]
      refine (ih _ (nodup_keys_remove doc name unique)).trans ((first.filter _).trans ?_)
      rw [List.filter_filter]
      apply List.Perm.of_eq
      congr 1
      funext field
      simp [Bool.and_comm]

theorem removeAll_append_right (names : List String) (doc rest : Document)
    (absent : ∀ name ∈ names, name ∉ keys doc) :
    names.foldl remove (doc ++ rest) = doc ++ names.foldl remove rest := by
  induction names generalizing rest with
  | nil => rfl
  | cons name names ih =>
      rw [List.foldl_cons, List.foldl_cons, remove_append_right doc rest name (absent name (by simp))]
      exact ih _ fun other member => absent other (List.mem_cons_of_mem name member)

/-- Every field behind the stored ones is computed, and every computed field is removed. -/
theorem removeAll_computed (names : List String) (doc computed : Document)
    (absent : ∀ name ∈ names, name ∉ keys doc) (unique : (keys computed).Nodup)
    (named : ∀ name ∈ keys computed, name ∈ names) :
    names.foldl remove (doc ++ computed) = doc := by
  have gone : names.foldl remove computed = [] := by
    have left := removeAll_perm names computed unique
    have nothing : computed.filter (fun field => field.1 ∉ names) = [] := by
      apply List.filter_eq_nil_iff.mpr
      intro field member
      simpa using named field.1 (List.mem_map_of_mem member)
    rw [nothing] at left
    exact List.Perm.eq_nil left
  rw [removeAll_append_right names doc computed absent, gone, List.append_nil]

/-- Fields put into a document one after the other. -/
def putAll (doc fields : Document) : Document :=
  fields.foldl (fun out field => put out field.1 field.2) doc

theorem mem_putAll (doc fields : Document) (field : String × Value)
    (member : field ∈ putAll doc fields) : field ∈ doc ∨ field ∈ fields := by
  induction fields generalizing doc with
  | nil => exact Or.inl member
  | cons first fields ih =>
      rcases ih _ member with early | late
      · rcases mem_put doc first.1 first.2 field early with old | new
        · exact Or.inl old
        · exact Or.inr (new ▸ List.mem_cons_self)
      · exact Or.inr (List.mem_cons_of_mem _ late)

theorem putAll_append_right (doc rest fields : Document)
    (absent : ∀ name ∈ keys fields, name ∉ keys doc) :
    putAll (doc ++ rest) fields = doc ++ putAll rest fields := by
  induction fields generalizing rest with
  | nil => rfl
  | cons field fields ih =>
      have first := put_append_right doc rest field.1 field.2 (absent field.1 (by simp [keys]))
      rw [putAll, List.foldl_cons, first]
      exact ih _ fun name member => absent name (List.mem_cons_of_mem _ member)

theorem get?_putAll_last (doc front : Document) (name : String) (value : Value) :
    get? (putAll doc (front ++ [(name, value)])) name = some value := by
  rw [putAll, List.foldl_append]
  exact get?_put_self _ name value

theorem mem_keys_putAll (doc fields : Document) (name : String) :
    name ∈ keys (putAll doc fields) ↔ name ∈ keys doc ∨ name ∈ keys fields := by
  induction fields generalizing doc with
  | nil => simp [putAll, keys]
  | cons field fields ih =>
      have later := ih (put doc field.1 field.2)
      rw [mem_keys_put] at later
      rw [putAll, List.foldl_cons, ← putAll, later, or_assoc]
      simp [keys]

theorem nodup_keys_putAll (doc fields : Document) (unique : (keys doc).Nodup) :
    (keys (putAll doc fields)).Nodup := by
  induction fields generalizing doc with
  | nil => exact unique
  | cons field fields ih => exact ih _ (nodup_keys_put doc field.1 field.2 unique)

theorem get?_putAll_other (doc fields : Document) (name : String) (absent : name ∉ keys fields) :
    get? (putAll doc fields) name = get? doc name := by
  induction fields generalizing doc with
  | nil => rfl
  | cons field fields ih =>
      simp only [keys, List.map_cons, List.mem_cons, not_or] at absent
      rw [putAll, List.foldl_cons, ← putAll, ih _ absent.2, get?_put_other _ _ _ _ absent.1]

theorem get?_putAll_listed (doc fields : Document) (name : String) (listed : name ∈ keys fields) :
    ∃ value, get? (putAll doc fields) name = some value ∧ (name, value) ∈ fields := by
  induction fields generalizing doc with
  | nil => simp [keys] at listed
  | cons field fields ih =>
      by_cases later : name ∈ keys fields
      · obtain ⟨value, found, member⟩ := ih (put doc field.1 field.2) later
        exact ⟨value, found, List.mem_cons_of_mem field member⟩
      · -- no later field has the name, so this one is not overwritten
        obtain rfl : name = field.1 := (List.mem_cons.mp listed).resolve_right later
        refine ⟨field.2, ?_, List.mem_cons_self⟩
        rw [putAll, List.foldl_cons, ← putAll, get?_putAll_other _ _ _ later, get?_put_self]

end Document

end DataGrid
