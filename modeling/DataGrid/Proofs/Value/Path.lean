import DataGrid.Proofs.Value.Document
import Mathlib.Data.List.TakeDrop
import Mathlib.Data.List.TakeWhile
/-!
Dotted paths over documents that carry computed fields. A name without dots is a path of one
segment, and any other path is its first segment and the path behind the first dot. Computed fields
have reserved names, which start with three underscores, so a path whose first segment is not reserved
does not see them.
-/
namespace DataGrid

namespace Path

/-- Names that start with three underscores are kept for computed fields. -/
def Reserved (name : String) : Prop := "___".toList <+: name.toList

instance (name : String) : Decidable (Reserved name) := by
  unfold Reserved
  infer_instance

theorem reserved_append (rest : String) : Reserved ("___" ++ rest) := by
  rw [Reserved, String.toList_append]
  exact List.prefix_append _ _

theorem segments_of_plain (name : String) (plain : '.' ∉ name.toList) : segments name = [name] := by
  rw [segments, Text.pieces_of_not_mem '.' name.toList plain]
  simp

theorem segments_eq_cons (path : String) : ∃ first rest, segments path = first :: rest := by
  cases pieces : Text.pieces '.' path.toList with
  | nil => exact absurd pieces (Text.pieces_ne_nil _ _)
  | cons piece more => exact ⟨String.ofList piece, more.map String.ofList, by simp [segments, pieces]⟩

theorem first_piece_prefix (mark : Char) (text piece : List Char) (more : List (List Char))
    (found : Text.pieces mark text = piece :: more) : piece <+: text := by
  induction text generalizing piece more with
  | nil =>
      simp only [Text.pieces, List.cons.injEq] at found
      exact found.1 ▸ List.nil_prefix
  | cons c rest ih =>
      unfold Text.pieces at found
      split at found
      · simp only [List.cons.injEq] at found
        exact found.1 ▸ List.nil_prefix
      · split at found
        · rename_i nothing
          exact absurd nothing (Text.pieces_ne_nil _ _)
        · rename_i inner
          simp only [List.cons.injEq] at found
          exact found.1 ▸ (List.prefix_cons_inj c).mpr (ih _ _ inner)

theorem piece_plain (mark : Char) (text piece : List Char) (member : piece ∈ Text.pieces mark text) :
    mark ∉ piece := by
  induction text generalizing piece with
  | nil => simp_all [Text.pieces]
  | cons c rest ih =>
      by_cases same : c = mark
      · rw [Text.pieces, if_pos same] at member
        rcases List.mem_cons.mp member with rfl | later
        · exact List.not_mem_nil
        · exact ih piece later
      · rw [Text.pieces, if_neg same] at member
        cases found : Text.pieces mark rest with
        | nil => exact absurd found (Text.pieces_ne_nil mark rest)
        | cons first more =>
            simp only [found] at member ih
            rcases List.mem_cons.mp member with rfl | later
            · simpa [Ne.symm same] using ih first List.mem_cons_self
            · exact ih piece (List.mem_cons_of_mem first later)

theorem pieces_append (mark : Char) (piece rest : List Char) (plain : mark ∉ piece) :
    Text.pieces mark (piece ++ mark :: rest) = piece :: Text.pieces mark rest := by
  induction piece with
  | nil => simp [Text.pieces]
  | cons c piece ih =>
      obtain ⟨differs, later⟩ := not_or.mp (mt List.mem_cons.mpr plain)
      rw [List.cons_append, Text.pieces, if_neg (Ne.symm differs), ih later]

theorem segment_plain (path segment : String) (member : segment ∈ segments path) :
    '.' ∉ segment.toList := by
  obtain ⟨piece, inPieces, rfl⟩ := List.mem_map.mp member
  simpa using piece_plain '.' _ piece inPieces

theorem toList_dotted (head rest : String) :
    (head ++ "." ++ rest).toList = head.toList ++ '.' :: rest.toList := by
  simp only [String.toList_append, List.append_assoc]
  rfl

theorem splitFirst_of_plain (path : String) (plain : '.' ∉ path.toList) : splitFirst path = none := by
  have nothing : path.toList.dropWhile (· ≠ '.') = [] :=
    List.dropWhile_eq_nil_iff.mpr fun c member => by
      simpa using fun same : c = '.' => plain (same ▸ member)
  simp only [splitFirst, List.span_eq_takeWhile_dropWhile, nothing]

theorem splitFirst_append (head rest : String) (plain : '.' ∉ head.toList) :
    splitFirst (head ++ "." ++ rest) = some (head, rest) := by
  have passed : ∀ c ∈ head.toList, decide (c ≠ '.') = true := by
    intro c member
    simpa using fun same : c = '.' => plain (same ▸ member)
  rw [splitFirst, toList_dotted, List.span_eq_takeWhile_dropWhile,
    List.takeWhile_append_of_pos passed, List.dropWhile_append_of_pos passed]
  simp

/-- A path is a plain name, or it is divided at its first dot. -/
theorem splitFirst_cases (path : String) :
    '.' ∉ path.toList ∧ splitFirst path = none ∨
      ∃ head rest, '.' ∉ head.toList ∧ path = head ++ "." ++ rest ∧
        splitFirst path = some (head, rest) := by
  by_cases dotted : '.' ∈ path.toList
  · obtain ⟨before, after, split, first⟩ := List.eq_append_cons_of_mem dotted
    have same : path = String.ofList before ++ "." ++ String.ofList after := by
      apply String.toList_injective
      rw [toList_dotted, String.toList_ofList, String.toList_ofList, split]
    have plain : '.' ∉ (String.ofList before).toList := by rwa [String.toList_ofList]
    exact Or.inr ⟨_, _, plain, same, by rw [same, splitFirst_append _ _ plain]⟩
  · exact Or.inl ⟨dotted, splitFirst_of_plain path dotted⟩

theorem splitFirst_plain (path head rest : String) (split : splitFirst path = some (head, rest)) :
    '.' ∉ head.toList := by
  rcases splitFirst_cases path with ⟨_, whole⟩ | ⟨_, _, plain, _, divided⟩
  · rw [whole] at split
    contradiction
  · rw [divided] at split
    obtain ⟨rfl, -⟩ := Prod.mk.inj (Option.some.inj split)
    exact plain

theorem segments_split (path : String) : segments path =
    match splitFirst path with
    | some (head, rest) => head :: segments rest
    | none => [path] := by
  rcases splitFirst_cases path with ⟨plain, split⟩ | ⟨head, rest, plain, same, split⟩
  · rw [split, segments_of_plain path plain]
  · rw [split, segments, same, toList_dotted, pieces_append _ _ _ plain]
    simp [segments]

theorem reserved_of_first (path first : String) (rest : List String)
    (split : segments path = first :: rest) (reserved : Reserved first) : Reserved path := by
  cases found : Text.pieces '.' path.toList with
  | nil => exact absurd found (Text.pieces_ne_nil _ _)
  | cons piece more =>
      simp only [segments, found, List.map_cons, List.cons.injEq] at split
      have start : (String.ofList piece).toList <+: path.toList := by
        simpa using first_piece_prefix '.' _ piece more found
      rw [← split.1] at reserved
      exact List.IsPrefix.trans reserved start

end Path

namespace Document

theorem setPath_of_plain (doc : Document) (name : String) (value : Value)
    (plain : '.' ∉ name.toList) : setPath doc name value = put doc name value := by
  rw [setPath, Path.segments_of_plain name plain, putIn]

theorem removePath_of_plain (doc : Document) (name : String) (plain : '.' ∉ name.toList) :
    removePath doc name = remove doc name := by
  rw [removePath, Path.segments_of_plain name plain, removeIn]

/-- No stored field has a reserved name. -/
def Plain (doc : Document) : Prop := ∀ name ∈ keys doc, ¬ Path.Reserved name

instance (doc : Document) : Decidable doc.Plain := by
  unfold Plain
  infer_instance

section Behind

variable {names : List String} {row doc : Document}

/-- A row with computed fields behind its own, all of them among the given names. -/
def Behind (names : List String) (row doc : Document) : Prop :=
  ∃ computed, doc = row ++ computed ∧ (keys computed).Nodup ∧ ∀ name ∈ keys computed, name ∈ names

theorem behind_self (names : List String) (row : Document) : Behind names row row :=
  ⟨[], by simp, by simp [keys], by simp [keys]⟩

theorem absent_of_plain (reserved : ∀ name ∈ names, Path.Reserved name) (plain : row.Plain) :
    ∀ name ∈ names, name ∉ keys row :=
  fun name member stored => plain name stored (reserved name member)

theorem behind_putAll (absent : ∀ name ∈ names, name ∉ keys row)
    (behind : Behind names row doc) (fields : Document)
    (listed : ∀ name ∈ keys fields, name ∈ names) : Behind names row (doc.putAll fields) := by
  obtain ⟨before, rfl, unique, named⟩ := behind
  refine ⟨before.putAll fields, putAll_append_right row before fields
    fun name member => absent name (listed name member), nodup_keys_putAll before fields unique, ?_⟩
  intro name member
  rcases (mem_keys_putAll before fields name).mp member with old | new
  · exact named name old
  · exact listed name new

theorem behind_removeAll (absent : ∀ name ∈ names, name ∉ keys row)
    (behind : Behind names row doc) : names.foldl remove doc = row := by
  obtain ⟨computed, rfl, unique, named⟩ := behind
  exact removeAll_computed names row computed absent unique named

end Behind

end Document

namespace Value

theorem get?_of_plain (doc : Document) (name : String) (plain : '.' ∉ name.toList) :
    (object doc).get? name = Document.get? doc name := by
  rw [get?, Path.segments_of_plain name plain]
  cases found : Document.get? doc name <;> simp [descend, found]

/-- A path to stored fields does not see what is computed behind them. -/
theorem get?_behind (names : List String) (row doc : Document) (path : String)
    (reserved : ∀ name ∈ names, Path.Reserved name) (behind : Document.Behind names row doc)
    (stored : ¬ Path.Reserved path) : (object doc).get? path = (object row).get? path := by
  obtain ⟨computed, rfl, _, named⟩ := behind
  obtain ⟨first, rest, split⟩ := Path.segments_eq_cons path
  have absent : first ∉ Document.keys computed := by
    intro member
    exact stored (Path.reserved_of_first path first rest split
      (reserved first (named first member)))
  simp only [get?, split, descend, Document.get?_append_left row computed first absent]

/-- A path to stored fields does not see what is computed into a document either. -/
theorem get?_putAll_reserved (doc fields : Document) (path : String)
    (reserved : ∀ name ∈ Document.keys fields, Path.Reserved name) (stored : ¬ Path.Reserved path) :
    (object (doc.putAll fields)).get? path = (object doc).get? path := by
  obtain ⟨first, rest, split⟩ := Path.segments_eq_cons path
  have absent : first ∉ Document.keys fields := fun member =>
    stored (Path.reserved_of_first path first rest split (reserved first member))
  simp only [get?, split, descend, Document.get?_putAll_other doc fields first absent]

end Value

end DataGrid
