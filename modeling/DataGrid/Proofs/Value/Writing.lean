import DataGrid.Proofs.Value.Path
import DataGrid.Proofs.Value.WellFormed
import Mathlib.Data.List.Induction
/-!
Values written at dotted paths. What is written at a path is read back there, and a path that neither
leads into it nor is on the way to it reads what it has read before. So values written at several
paths, none of which leads into another one, are all read back, whatever their order.
-/
namespace DataGrid

namespace Path

/-- Neither path leads into the other. -/
def Apart (path other : List String) : Prop := ¬ path <+: other ∧ ¬ other <+: path

/-- Paths that are apart differ at once, or both go on and are apart behind their first segment. -/
theorem apart_cons {first head : String} {path other : List String}
    (apart : Apart (first :: path) (head :: other)) :
    head ≠ first ∨ head = first ∧ path ≠ [] ∧ other ≠ [] ∧ Apart path other := by
  rcases eq_or_ne head first with rfl | differs
  · have onward : Apart path other :=
      ⟨fun leads => apart.1 ((List.prefix_cons_inj head).mpr leads),
        fun leads => apart.2 ((List.prefix_cons_inj head).mpr leads)⟩
    refine Or.inr ⟨rfl, ?_, ?_, onward⟩
    · rintro rfl
      exact onward.1 List.nil_prefix
    · rintro rfl
      exact onward.2 List.nil_prefix
  · exact Or.inl differs

end Path

namespace Document

/-- The fields that a path is written into below a field of a document. -/
def fieldsAt (doc : Document) (name : String) : Document :=
  match get? doc name with
  | some (.object fields) => fields
  | _ => []

theorem putIn_cons (doc : Document) (first next : String) (rest : List String) (value : Value) :
    putIn doc (first :: next :: rest) value =
      put doc first (.object (putIn (fieldsAt doc first) (next :: rest) value)) := by
  rw [putIn]
  rfl

/-- Below a field, a path reads the fields that would be written into. -/
theorem descend_cons (doc : Document) (first next : String) (rest : List String) :
    Value.descend (.object doc) (first :: next :: rest) =
      Value.descend (.object (fieldsAt doc first)) (next :: rest) := by
  cases found : get? doc first with
  | none => simp [Value.descend, fieldsAt, found, get?]
  | some value => cases value <;> simp [Value.descend, fieldsAt, found, get?]

theorem get?_putIn_other (doc : Document) (first other : String) (rest : List String) (value : Value)
    (differs : other ≠ first) : get? (putIn doc (first :: rest) value) other = get? doc other := by
  cases rest with
  | nil => simp [putIn, get?_put_other doc first other value differs]
  | cons next rest => simp [putIn_cons, get?_put_other doc first other _ differs]

theorem descend_putIn_self (doc : Document) (first : String) (rest : List String) (value : Value) :
    Value.descend (.object (putIn doc (first :: rest) value)) (first :: rest) = some value := by
  induction rest generalizing doc first with
  | nil => simp [putIn, Value.descend, get?_put_self]
  | cons next rest ih =>
      rw [putIn_cons, Value.descend, get?_put_self]
      exact ih _ next

theorem descend_putIn_other (doc : Document) (path other : List String) (value : Value)
    (apart : Path.Apart path other) :
    Value.descend (.object (putIn doc path value)) other = Value.descend (.object doc) other := by
  induction path generalizing doc other with
  | nil => exact absurd List.nil_prefix apart.1
  | cons first rest ih =>
      cases other with
      | nil => exact absurd List.nil_prefix apart.2
      | cons head tail =>
          rcases Path.apart_cons apart with differs | ⟨rfl, more, beyond, onward⟩
          · simp [Value.descend, get?_putIn_other doc first head rest value differs]
          · -- both go on below the field, as neither of them ends here
            obtain ⟨next, rest, rfl⟩ := List.exists_cons_of_ne_nil more
            obtain ⟨after, tail, rfl⟩ := List.exists_cons_of_ne_nil beyond
            rw [putIn_cons, descend_cons doc, ← ih _ _ onward, Value.descend, get?_put_self]
            rfl

theorem keys_putIn (doc : Document) (first : String) (rest : List String) (value : Value) :
    keys (putIn doc (first :: rest) value) = keys (put doc first value) := by
  cases rest with
  | nil => rfl
  | cons next rest => rw [putIn_cons, keys_put, keys_put]

theorem wellFormed_fieldsAt (doc : Document) (name : String)
    (whole : (Value.object doc).isWellFormed = true) :
    (Value.object (fieldsAt doc name)).isWellFormed = true := by
  unfold fieldsAt
  split
  · rename_i fields found
    exact Value.wellFormed_get? doc whole name _ found
  · rfl

theorem wellFormed_putIn (doc : Document) (path : List String) (value : Value)
    (whole : (Value.object doc).isWellFormed = true) (given : value.isWellFormed = true) :
    (Value.object (putIn doc path value)).isWellFormed = true := by
  induction path generalizing doc with
  | nil => exact whole
  | cons first rest ih =>
      cases rest with
      | nil => exact wellFormed_put doc first whole value given
      | cons next rest =>
          rw [putIn_cons]
          exact wellFormed_put doc first whole _ (ih _ (wellFormed_fieldsAt doc first whole))

section Paths

variable (doc : Document) (path other : String) (value : Value)

theorem setPath_split : setPath doc path value =
    match Path.splitFirst path with
    | some (head, rest) => put doc head (.object (setPath (fieldsAt doc head) rest value))
    | none => put doc path value := by
  rw [setPath, Path.segments_split]
  cases Path.splitFirst path with
  | none => rfl
  | some parts =>
      obtain ⟨next, rest, split⟩ := Path.segments_eq_cons parts.2
      dsimp only
      rw [setPath, split, putIn_cons]

theorem wellFormed_setPath (whole : (Value.object doc).isWellFormed = true)
    (given : value.isWellFormed = true) :
    (Value.object (setPath doc path value)).isWellFormed = true :=
  wellFormed_putIn doc _ value whole given

theorem get?_setPath_self : (Value.object (setPath doc path value)).get? path = some value := by
  obtain ⟨first, rest, split⟩ := Path.segments_eq_cons path
  rw [Value.get?, setPath, split]
  exact descend_putIn_self doc first rest value

theorem get?_setPath_other (apart : Path.Apart (Path.segments path) (Path.segments other)) :
    (Value.object (setPath doc path value)).get? other = (Value.object doc).get? other :=
  descend_putIn_other doc _ _ value apart

theorem mem_keys_setPath (name : String) : name ∈ keys (setPath doc path value) ↔
    name ∈ keys doc ∨ (Path.segments path).head? = some name := by
  obtain ⟨first, rest, split⟩ := Path.segments_eq_cons path
  rw [setPath, split, keys_putIn, mem_keys_put, List.head?_cons, Option.some.injEq, eq_comm (a := name)]

theorem nodup_keys_setPath (unique : (keys doc).Nodup) : (keys (setPath doc path value)).Nodup := by
  obtain ⟨first, rest, split⟩ := Path.segments_eq_cons path
  rw [setPath, split, keys_putIn]
  exact nodup_keys_put doc first value unique

end Paths

/-- A value for each of some paths, written one after the other. -/
def setPaths (doc : Document) (paths : List String) (value : String → Value) : Document :=
  paths.foldl (fun out path => setPath out path (value path)) doc

section All

variable (doc : Document) (paths : List String) (value : String → Value)

theorem mem_keys_setPaths (name : String) : name ∈ keys (setPaths doc paths value) ↔
    name ∈ keys doc ∨ ∃ path ∈ paths, (Path.segments path).head? = some name := by
  induction paths generalizing doc with
  | nil => simp [setPaths]
  | cons path paths ih =>
      have later := ih (setPath doc path (value path))
      rw [mem_keys_setPath] at later
      rw [setPaths, List.foldl_cons, ← setPaths, later, or_assoc]
      simp

theorem nodup_keys_setPaths (unique : (keys doc).Nodup) : (keys (setPaths doc paths value)).Nodup := by
  induction paths generalizing doc with
  | nil => exact unique
  | cons path paths ih => exact ih _ (nodup_keys_setPath doc path (value path) unique)

theorem get?_setPaths_other (other : String)
    (apart : ∀ path ∈ paths, Path.Apart (Path.segments path) (Path.segments other)) :
    (Value.object (setPaths doc paths value)).get? other = (Value.object doc).get? other := by
  induction paths generalizing doc with
  | nil => rfl
  | cons path paths ih =>
      have first := get?_setPath_other doc path other (value path) (apart path List.mem_cons_self)
      exact (ih _ fun next member => apart next (List.mem_cons_of_mem path member)).trans first

/-- A path that is apart from the others is read as it was written, however often that was. -/
theorem get?_setPaths_self (path : String) (member : path ∈ paths)
    (apart : ∀ other ∈ paths, other = path ∨ Path.Apart (Path.segments other) (Path.segments path)) :
    (Value.object (setPaths doc paths value)).get? path = some (value path) := by
  induction paths generalizing doc with
  | nil => simp at member
  | cons first rest ih =>
      have tail : ∀ other ∈ rest, other = path ∨
          Path.Apart (Path.segments other) (Path.segments path) :=
        fun other later => apart other (List.mem_cons_of_mem first later)
      -- the last mention of the path is the one that stays
      by_cases again : path ∈ rest
      · exact ih _ again tail
      · obtain rfl : path = first := (List.mem_cons.mp member).resolve_right again
        have others : ∀ other ∈ rest, Path.Apart (Path.segments other) (Path.segments path) := by
          intro other later
          refine (tail other later).resolve_left ?_
          rintro rfl
          exact again later
        exact (get?_setPaths_other _ rest value path others).trans (get?_setPath_self doc path _)

/-- A field for each of some names, with a value that depends on the name. -/
def ofNames (names : List String) (value : String → Value) : Document :=
  names.map fun name => (name, value name)

theorem setPaths_plain (plain : ∀ path ∈ paths, '.' ∉ path.toList) :
    setPaths doc paths value = putAll doc (ofNames paths value) := by
  induction paths generalizing doc with
  | nil => rfl
  | cons path paths ih =>
      rw [setPaths, List.foldl_cons, setPath_of_plain doc path _ (plain path List.mem_cons_self)]
      exact ih _ fun other member => plain other (List.mem_cons_of_mem path member)

end All

section Named

variable (doc : Document) (names : List String) (value : String → Value) (name : String)

theorem keys_ofNames : keys (ofNames names value) = names := by
  simp [keys, ofNames, Function.comp_def]

theorem get?_ofNames : get? (ofNames names value) name =
    if name ∈ names then some (value name) else none := by
  induction names with
  | nil => rfl
  | cons first names ih =>
      have tail : get? (ofNames (first :: names) value) name =
          if first = name then some (value first) else get? (ofNames names value) name := rfl
      rw [tail, ih]
      by_cases same : first = name
      · simp [same]
      · simp [same, Ne.symm same]

theorem put_known (known : get? doc name = some (value name)) : put doc name (value name) = doc := by
  induction doc with
  | nil => simp [get?] at known
  | cons field doc ih =>
      obtain ⟨key, stored⟩ := field
      by_cases same : key = name
      · simp_all [get?, put]
      · simp_all [get?, put]

theorem put_absent (stored : Value) (absent : name ∉ keys doc) :
    put doc name stored = doc ++ [(name, stored)] := by
  simpa [put] using put_append_right doc [] name stored absent

theorem putAll_append (first second : Document) :
    putAll doc (first ++ second) = putAll (putAll doc first) second := List.foldl_append

theorem get?_putAll_ofNames (member : name ∈ names) :
    get? (putAll doc (ofNames names value)) name = some (value name) := by
  induction names generalizing doc with
  | nil => simp at member
  | cons first names ih =>
      by_cases later : name ∈ names
      · exact ih _ later
      · obtain rfl : name = first := (List.mem_cons.mp member).resolve_right later
        have kept := get?_putAll_other (put doc name (value name)) (ofNames names value) name
          (by rwa [keys_ofNames])
        exact kept.trans (get?_put_self doc name _)

theorem eraseDups_concat : (names ++ [name]).eraseDups =
    if name ∈ names then names.eraseDups else names.eraseDups ++ [name] := by
  rw [List.eraseDups_append]
  by_cases again : name ∈ names <;> simp [List.removeAll, again, List.eraseDups_cons]

theorem ofNames_concat :
    ofNames (names ++ [name]) value = ofNames names value ++ [(name, value name)] := by
  simp [ofNames]

/-- Only the first mention of a name counts. -/
theorem putAll_eraseDups :
    putAll doc (ofNames names value) = putAll doc (ofNames names.eraseDups value) := by
  induction names using List.reverseRecOn with
  | nil => rfl
  | append_singleton names name ih =>
      rw [ofNames_concat, putAll_append, eraseDups_concat]
      by_cases again : name ∈ names
      · rw [if_pos again, ← ih]
        exact put_known _ _ _ (get?_putAll_ofNames doc names value name again)
      · rw [if_neg again, ofNames_concat, putAll_append, ih]

/-- Fields that take their values from their names have one place each. -/
theorem ofFields_ofNames : ofFields (ofNames names value) = ofNames names.eraseDups value := by
  induction names using List.reverseRecOn with
  | nil => rfl
  | append_singleton names name ih =>
      have last : ofFields (ofNames (names ++ [name]) value) =
          put (ofFields (ofNames names value)) name (value name) := by
        rw [ofNames_concat]
        exact putAll_append [] _ _
      rw [last, ih, eraseDups_concat]
      by_cases again : name ∈ names
      · rw [if_pos again]
        exact put_known _ _ _ (by simp [get?_ofNames, again])
      · rw [if_neg again, ofNames_concat]
        exact put_absent _ _ _ (by simpa [keys_ofNames] using again)

theorem nodup_eraseDups : names.eraseDups.Nodup := by
  have unique := nodup_keys_putAll [] (ofNames names fun _ => .null) List.nodup_nil
  rwa [show putAll [] _ = ofFields _ from rfl, ofFields_ofNames, keys_ofNames] at unique

theorem put_ofNames (stored : Value) (unique : names.Nodup) (member : name ∈ names) :
    put (ofNames names value) name stored =
      ofNames names fun other => if name = other then stored else value other := by
  induction names with
  | nil => simp at member
  | cons first names ih =>
      obtain ⟨apart, others⟩ := List.nodup_cons.mp unique
      by_cases same : first = name
      · have rest : ∀ other ∈ names, value other = if name = other then stored else value other :=
          fun other later => (if_neg fun equal => apart (same.trans equal ▸ later)).symm
        simp only [ofNames, List.map_cons, put, if_pos same, if_pos same.symm]
        congr 1
        exact List.map_congr_left fun other later => by rw [← rest other later]
      · have later : name ∈ names := (List.mem_cons.mp member).resolve_left (Ne.symm same)
        have tail := ih others later
        simp only [ofNames, List.map_cons, put, if_neg same, if_neg (Ne.symm same)] at tail ⊢
        rw [tail]

end Named

section Repeated

/-- What a name is given last. -/
def lastOf (fields : Document) (name : String) : Value := (get? fields.reverse name).getD .null

theorem lastOf_concat (fields : Document) (name other : String) (value : Value) :
    lastOf (fields ++ [(name, value)]) other = if name = other then value else lastOf fields other := by
  rw [lastOf, List.reverse_append, List.reverse_singleton, List.singleton_append, get?]
  split <;> rfl

/-- Fields put one after another keep the first place of a name and its last value. -/
theorem ofFields_lastOf (fields : Document) :
    ofFields fields = ofNames (keys fields).eraseDups (lastOf fields) := by
  induction fields using List.reverseRecOn with
  | nil => rfl
  | append_singleton fields field ih =>
      obtain ⟨name, value⟩ := field
      have last : ofFields (fields ++ [(name, value)]) = put (ofFields fields) name value :=
        putAll_append [] _ _
      have settled : lastOf (fields ++ [(name, value)]) =
          fun other => if name = other then value else lastOf fields other :=
        funext fun other => lastOf_concat fields name other value
      have names : keys (fields ++ [(name, value)]) = keys fields ++ [name] := by simp [keys]
      rw [last, ih, names, eraseDups_concat, settled]
      -- a known name keeps its place and changes its value, a new one goes behind
      by_cases again : name ∈ keys fields
      · rw [if_pos again]
        exact put_ofNames _ _ _ _ (nodup_eraseDups _) (List.mem_eraseDups.mpr again)
      · rw [if_neg again, ofNames_concat, if_pos rfl, put_absent _ _ _ (by
          rwa [keys_ofNames, List.mem_eraseDups])]
        congr 1
        refine List.map_congr_left fun other earlier => ?_
        have differs : name ≠ other := fun same => again (same ▸ List.mem_eraseDups.mp earlier)
        exact congrArg (Prod.mk other) (if_neg differs).symm

end Repeated

end Document

end DataGrid
