import DataGrid.Proofs.Value.Writing
/-!
Paths taken out of a document in which no object has a key twice. At a removed path and below it
nothing is left, nothing comes to be where nothing was, and a path that is apart from the removed one
reads what it has read before, as it does when a value is written. So paths taken out one after the
other are all gone, and the paths that are apart from all of them stay.
-/
namespace DataGrid

theorem Value.descend_append (value : Value) (path rest : List String) :
    descend value (path ++ rest) = (descend value path).bind fun inner => descend inner rest := by
  induction path generalizing value with
  | nil => rfl
  | cons first path ih =>
      cases value with
      | object fields =>
          rw [List.cons_append, descend, descend]
          cases Document.get? fields first with
          | none => rfl
          | some inner => exact ih inner
      | _ => rfl

namespace Document

section Segments

variable (doc : Document) (first next : String) (rest path other : List String)

/-- Below a field, a path is taken out of the object that is there, and nothing happens where there is
none. -/
theorem removeIn_cases :
    (∃ fields, get? doc first = some (.object fields) ∧ removeIn doc (first :: next :: rest) =
        put doc first (.object (removeIn fields (next :: rest)))) ∨
      (∀ fields, get? doc first ≠ some (.object fields)) ∧
        removeIn doc (first :: next :: rest) = doc := by
  rw [removeIn]
  split
  · rename_i fields found
    exact Or.inl ⟨fields, found, rfl⟩
  · rename_i closed
    exact Or.inr ⟨closed, rfl⟩

theorem descend_closed (closed : ∀ fields, get? doc first ≠ some (.object fields)) :
    Value.descend (.object doc) (first :: next :: rest) = none := by
  cases found : get? doc first with
  | none => simp [Value.descend, found]
  | some value => cases value <;> simp_all [Value.descend]

variable (whole : (Value.object doc).isWellFormed = true)
include whole

theorem wellFormed_removeIn : (Value.object (removeIn doc path)).isWellFormed = true := by
  induction path generalizing doc with
  | nil => exact whole
  | cons first rest ih =>
      cases rest with
      | nil => exact wellFormed_remove doc first whole
      | cons next rest =>
          rcases removeIn_cases doc first next rest with ⟨fields, found, same⟩ | ⟨_, same⟩
          · have inner := Value.wellFormed_get? doc whole first _ found
            rw [same]
            exact wellFormed_put doc first whole _ (ih fields inner)
          · rwa [same]

theorem get?_removeIn_other (name : String) (differs : name ≠ first) :
    get? (removeIn doc (first :: rest)) name = get? doc name := by
  cases rest with
  | nil => exact get?_remove_other doc first name (Value.wellFormed_keys doc whole) differs
  | cons next rest =>
      rcases removeIn_cases doc first next rest with ⟨fields, _, same⟩ | ⟨_, same⟩
      · rw [same, get?_put_other doc first name _ differs]
      · rw [same]

theorem descend_removeIn_self :
    Value.descend (.object (removeIn doc (first :: rest))) (first :: rest) = none := by
  induction rest generalizing doc first with
  | nil =>
      have gone := get?_remove_self doc first (Value.wellFormed_keys doc whole)
      simp [removeIn, Value.descend, gone]
  | cons next rest ih =>
      rcases removeIn_cases doc first next rest with ⟨fields, found, same⟩ | ⟨closed, same⟩
      · rw [same, Value.descend, get?_put_self]
        exact ih fields next (Value.wellFormed_get? doc whole first _ found)
      · rw [same]
        exact descend_closed doc first next rest closed

theorem descend_removeIn_other (apart : Path.Apart path other) :
    Value.descend (.object (removeIn doc path)) other = Value.descend (.object doc) other := by
  induction path generalizing doc other with
  | nil => exact absurd List.nil_prefix apart.1
  | cons first rest ih =>
      cases other with
      | nil => exact absurd List.nil_prefix apart.2
      | cons head tail =>
          rcases Path.apart_cons apart with differs | ⟨rfl, more, _, onward⟩
          · simp [Value.descend, get?_removeIn_other doc first rest whole head differs]
          · obtain ⟨next, rest, rfl⟩ := List.exists_cons_of_ne_nil more
            rcases removeIn_cases doc head next rest with ⟨fields, found, same⟩ | ⟨_, same⟩
            · have inner := Value.wellFormed_get? doc whole head _ found
              rw [same, Value.descend, get?_put_self, Value.descend, found]
              exact ih fields tail inner onward
            · rw [same]

/-- Where nothing was, nothing is after a path has been taken out, wherever that leads. -/
theorem descend_removeIn_absent (absent : Value.descend (.object doc) other = none) :
    Value.descend (.object (removeIn doc path)) other = none := by
  induction path generalizing doc other with
  | nil => exact absent
  | cons first rest ih =>
      cases other with
      | nil => simp [Value.descend] at absent
      | cons head tail =>
          -- nothing changes under another name than the first one of the removed path
          rcases eq_or_ne head first with rfl | differs
          · cases rest with
            | nil =>
                have gone := get?_remove_self doc head (Value.wellFormed_keys doc whole)
                simp [removeIn, Value.descend, gone]
            | cons next rest =>
                rcases removeIn_cases doc head next rest with ⟨fields, found, same⟩ | ⟨_, same⟩
                · have inner := Value.wellFormed_get? doc whole head _ found
                  rw [Value.descend, found] at absent
                  rw [same, Value.descend, get?_put_self]
                  exact ih fields tail inner absent
                · rwa [same]
          · rw [Value.descend] at absent ⊢
            rwa [get?_removeIn_other doc first rest whole head differs]

end Segments

section Paths

variable (doc : Document) (path other : String)

theorem removePath_split : removePath doc path =
    match Path.splitFirst path with
    | some (head, rest) =>
        match get? doc head with
        | some (.object fields) => put doc head (.object (removePath fields rest))
        | _ => doc
    | none => remove doc path := by
  rw [removePath, Path.segments_split]
  cases Path.splitFirst path with
  | none => rfl
  | some parts =>
      obtain ⟨head, tail⟩ := parts
      obtain ⟨next, rest, onward⟩ := Path.segments_eq_cons tail
      dsimp only
      rw [onward]
      rcases removeIn_cases doc head next rest with ⟨fields, found, below⟩ | ⟨closed, below⟩
      · simp only [below, found, removePath, onward]
      · rw [below]
        split
        · rename_i fields found
          exact absurd found (closed fields)
        · rfl

variable (whole : (Value.object doc).isWellFormed = true)
include whole

theorem wellFormed_removePath : (Value.object (removePath doc path)).isWellFormed = true :=
  wellFormed_removeIn doc _ whole

theorem get?_removePath_self : (Value.object (removePath doc path)).get? path = none := by
  obtain ⟨first, rest, split⟩ := Path.segments_eq_cons path
  rw [Value.get?, removePath, split]
  exact descend_removeIn_self doc first rest whole

theorem get?_removePath_below (leads : Path.segments path <+: Path.segments other) :
    (Value.object (removePath doc path)).get? other = none := by
  obtain ⟨rest, onward⟩ := leads
  have gone := get?_removePath_self doc path whole
  rw [Value.get?] at gone
  rw [Value.get?, ← onward, Value.descend_append, gone, Option.bind_none]

theorem get?_removePath_other (apart : Path.Apart (Path.segments path) (Path.segments other)) :
    (Value.object (removePath doc path)).get? other = (Value.object doc).get? other :=
  descend_removeIn_other doc _ _ whole apart

theorem get?_removePath_absent (absent : (Value.object doc).get? other = none) :
    (Value.object (removePath doc path)).get? other = none :=
  descend_removeIn_absent doc _ _ whole absent

end Paths

section Edited

variable (doc : Document)

/-- What is written at a path is read back there, and what is taken out is gone. Neither shows at a
path that is apart from it, whatever is met or replaced on the way. -/
theorem get?_edited (path : String) (value : Value) (whole : (Value.object doc).isWellFormed = true) :
    (Value.object (setPath doc path value)).get? path = some value ∧
      (Value.object (removePath doc path)).get? path = none ∧
      ∀ other, Path.Apart (Path.segments path) (Path.segments other) →
        (Value.object (setPath doc path value)).get? other = (Value.object doc).get? other ∧
        (Value.object (removePath doc path)).get? other = (Value.object doc).get? other := by
  refine ⟨get?_setPath_self doc path value, get?_removePath_self doc path whole, ?_⟩
  intro other apart
  exact ⟨get?_setPath_other doc path other value apart, get?_removePath_other doc path other whole apart⟩

/-- A crate with a number for its size, and with a nameless field in its place. -/
def crate : Document :=
  [("no", .int 7), ("size", .int 3),
    ("place", .object [("", .array [.int 1]), ("hall", .string "B"), ("shelf", .null)])]

/-- The number gives way to an object, and the last field of the place moves to its front. -/
theorem get?_edited_crate :
    (Value.object crate).isWellFormed = true ∧
      Path.Apart (Path.segments "size..kg") (Path.segments "size.kg") ∧
      Path.Apart (Path.segments "place.") (Path.segments "place.hall") ∧
      (setPath crate "size..kg" (.int 5)).get? "size" =
        some (.object [("", .object [("kg", .int 5)])]) ∧
      (removePath crate "place.").get? "place" =
        some (.object [("shelf", .null), ("hall", .string "B")]) ∧
      (Value.object (setPath crate "size..kg" (.int 5))).get? "size..kg" = some (.int 5) ∧
      (Value.object (setPath crate "size..kg" (.int 5))).get? "size.kg" =
        (Value.object crate).get? "size.kg" ∧
      (Value.object (removePath crate "place.")).get? "place." = none ∧
      (Value.object (removePath crate "place.")).get? "place.hall" =
        (Value.object crate).get? "place.hall" := by
  have whole : (Value.object crate).isWellFormed = true := by decide +kernel
  have sizes : Path.Apart (Path.segments "size..kg") (Path.segments "size.kg") := by
    unfold Path.Apart
    decide +kernel
  have places : Path.Apart (Path.segments "place.") (Path.segments "place.hall") := by
    unfold Path.Apart
    decide +kernel
  obtain ⟨written, _, sizeFrame⟩ := get?_edited crate "size..kg" (.int 5) whole
  obtain ⟨_, removed, placeFrame⟩ := get?_edited crate "place." .null whole
  exact ⟨whole, sizes, places, by decide +kernel, by decide +kernel, written, (sizeFrame _ sizes).1,
    removed, (placeFrame _ places).2⟩

end Edited

section All

/-- What is left of a document without some paths: nothing at these and below, nothing new, and all
that is apart from them. -/
structure Without (paths : List String) (doc left : Document) : Prop where
  whole : (Value.object left).isWellFormed = true
  gone : ∀ path ∈ paths, ∀ other, Path.segments path <+: Path.segments other →
    (Value.object left).get? other = none
  absent : ∀ other, (Value.object doc).get? other = none → (Value.object left).get? other = none
  kept : ∀ other, (∀ path ∈ paths, Path.Apart (Path.segments path) (Path.segments other)) →
    (Value.object left).get? other = (Value.object doc).get? other

theorem without_removePaths (doc : Document) (paths : List String)
    (whole : (Value.object doc).isWellFormed = true) :
    Without paths doc (paths.foldl removePath doc) := by
  induction paths generalizing doc with
  | nil => exact ⟨whole, by simp, fun _ absent => absent, fun _ _ => rfl⟩
  | cons path paths ih =>
      have after := ih (removePath doc path) (wellFormed_removePath doc path whole)
      refine ⟨after.whole, ?_, ?_, ?_⟩
      · intro removed member other leads
        rcases List.mem_cons.mp member with rfl | later
        -- what has gone first does not come back
        · exact after.absent other (get?_removePath_below doc removed other whole leads)
        · exact after.gone removed later other leads
      · intro other absent
        exact after.absent other (get?_removePath_absent doc path other whole absent)
      · intro other apart
        have first := get?_removePath_other doc path other whole (apart path List.mem_cons_self)
        exact (after.kept other fun next member =>
          apart next (List.mem_cons_of_mem path member)).trans first

end All

end Document

end DataGrid
