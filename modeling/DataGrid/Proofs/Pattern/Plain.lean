import DataGrid.Pattern.Reader
import DataGrid.Proofs.Pattern.Extent
/-!
Simple patterns as they are read here: each character is one item, and they lead over the parts of a
text that they match. So the reader is a library of regular expressions that does what is documented,
with a limit on the size of a word.
-/
namespace DataGrid.Pattern

/-- A character that is read as one item of a group. -/
def Reads (c : Char) (item : Tree) : Prop :=
  ∀ (fuel : Nat) (group : Group) (outer : List Group) (names : List (List Char)) (rest : List Char),
    group.flags = {} →
      readFrom (fuel + 1) group outer names (c :: rest) = readFrom fuel (group.add item) outer names rest

theorem reads_plain (c : Char) (ordinary : c ∉ special) : Reads c (.character c) := by
  intro fuel group outer names rest switches
  have item : readItem {} c rest = .ok (.character c, rest) := by
    unfold readItem
    split <;> first | rfl | exact absurd (by decide) ordinary
  simp only [readFrom, switches, Flags.skip, Bool.false_eq_true, if_false]
  -- every character that is read in a way of its own is special
  split
  case h_1 none => contradiction
  case h_9 d more _ _ _ _ _ _ _ same =>
    obtain ⟨rfl, rfl⟩ := List.cons.inj same
    rw [item]
    rfl
  all_goals
    rename_i same
    exact absurd ((List.cons.inj same).1 ▸ by decide) ordinary

theorem reads_start : Reads '^' (.look .textStart) := by
  intro fuel group outer names rest switches
  rw [readFrom, switches]
  rfl

theorem reads_end : Reads '$' (.look .textEnd) := by
  intro fuel group outer names rest switches
  rw [readFrom, switches]
  rfl

theorem readFrom_items (text : List Char) (items : List Tree) (each : List.Forall₂ Reads text items)
    (fuel : Nat) (group : Group) (outer : List Group) (names : List (List Char)) (rest : List Char)
    (switches : group.flags = {}) :
    readFrom (text.length + fuel) group outer names (text ++ rest) =
      readFrom fuel { group with items := items.reverse ++ group.items } outer names rest := by
  induction each generalizing group with
  | nil => simp
  | @cons c item text items first _ ih =>
      rw [List.length_cons, Nat.add_right_comm, List.cons_append, first _ group outer names _ switches,
        ih (group.add item) switches]
      simp [Group.add]

theorem reads_simple (pattern : List Char) (simple : Simple pattern) :
    List.Forall₂ Reads pattern (pattern.map Tree.ofCharacter) := by
  refine List.forall₂_map_right_iff.mpr (List.forall₂_same.mpr fun c member => ?_)
  rcases simple c member with ordinary | rfl | rfl
  · have opens : c ≠ '^' := fun same => ordinary (same ▸ by decide)
    have closes : c ≠ '$' := fun same => ordinary (same ▸ by decide)
    rw [Tree.ofCharacter, if_neg opens, if_neg closes]
    exact reads_plain c ordinary
  · exact reads_start
  · exact reads_end

theorem advance_alternative (text : List Char) (items : List Tree) (places : Places) :
    (Group.alternative items.reverse).advance text places = Tree.advanceThrough text items places := by
  match items with
  | [] => rfl
  | [_] => rfl
  | first :: second :: rest => rw [Group.alternative_many, Tree.advance]

theorem deepest_flat (items : List Tree) (flat : ∀ item ∈ items, item.depth = 0) :
    Tree.deepest items = 0 := by
  induction items with
  | nil => rfl
  | cons item items ih =>
      rw [Tree.deepest, flat item List.mem_cons_self,
        ih fun other member => flat other (List.mem_cons_of_mem _ member), Nat.max_self]

theorem depth_alternative (items : List Tree) (flat : ∀ item ∈ items, item.depth = 0) :
    (Group.alternative items.reverse).depth ≤ 1 := by
  match items with
  | [] => exact Nat.zero_le 1
  | [item] => exact (flat item List.mem_cons_self).trans_le (Nat.zero_le 1)
  | first :: second :: rest => rw [Group.alternative_many, Tree.depth, deepest_flat _ flat]

theorem depth_ofCharacter (c : Char) : (Tree.ofCharacter c).depth = 0 := by
  unfold Tree.ofCharacter
  split
  · rfl
  · split <;> rfl

/-- The tree of a simple pattern. -/
def simpleTree (pattern : List Char) : Tree := Group.alternative (pattern.map Tree.ofCharacter).reverse

theorem read_simple (pattern : List Char) (simple : Simple pattern) :
    read {} (String.ofList pattern) =
      if Extent.fits sizeLimit (.ofTree (simpleTree pattern)) then .ok (simpleTree pattern)
      else .error .tooLarge := by
  have items := readFrom_items _ _ (reads_simple pattern simple) 1 (.starting false {}) [] [] [] rfl
  rw [List.append_nil] at items
  have tree : readFrom (pattern.length + 1) (.starting false {}) [] [] pattern =
      .ok (simpleTree pattern) := by
    rw [items, Group.starting, List.append_nil]
    rfl
  -- a flat pattern is never too deep, so that its size alone decides
  have flat : (simpleTree pattern).depth ≤ 1 := by
    refine depth_alternative _ fun item member => ?_
    obtain ⟨c, _, rfl⟩ := List.mem_map.mp member
    exact depth_ofCharacter c
  have shallow : ¬ (simpleTree pattern).depth > depthLimit := Nat.not_lt.mpr (flat.trans (by decide))
  simp only [read, String.toList_ofList, tree, Bind.bind, Except.bind, if_neg shallow]
  cases Extent.fits sizeLimit (.ofTree (simpleTree pattern)) <;> rfl

theorem compile_simple (pattern : List Char) (simple : Simple pattern) (test : String → Bool)
    (compiled : compile (String.ofList pattern) false = .ok test) (text : String) :
    test text = true ↔ ∃ before part after, before ++ part ++ after = text.toList ∧
      Tree.spans pattern before part after := by
  rw [compile, read_simple pattern simple] at compiled
  cases fits : Extent.fits sizeLimit (.ofTree (simpleTree pattern)) with
  | false => simp [fits] at compiled
  | true =>
      rw [fits, if_pos rfl] at compiled
      obtain rfl := Except.ok.inj compiled
      have leads (index : Nat) := Tree.at_spans pattern text.toList
        (List.replicate (text.toList.length + 1) true) List.length_replicate index
      rw [Tree.foundIn_iff]
      simp only [simpleTree, advance_alternative, leads, Places.at_everywhere]
      constructor
      · rintro ⟨_, before, part, after, whole, _, _, matched⟩
        exact ⟨before, part, after, whole, matched⟩
      · rintro ⟨before, part, after, whole, matched⟩
        refine ⟨_, before, part, after, whole, ?_, rfl, matched⟩
        rw [← whole, List.append_assoc, List.length_append]
        exact Nat.le_add_right _ _

section Size

theorem tree_anchored (start finish : Bool) (word : List Char) (plain : Plain word) :
    (anchored start finish word).map Tree.ofCharacter = Tree.anchored start finish word := by
  have body : word.map Tree.ofCharacter = word.map .character := by
    refine List.map_congr_left fun c member => ?_
    have opens : c ≠ '^' := fun same => plain c member (same ▸ by decide)
    have closes : c ≠ '$' := fun same => plain c member (same ▸ by decide)
    rw [Tree.ofCharacter, if_neg opens, if_neg closes]
  rw [anchored, Tree.anchored, List.map_append, List.map_append, body]
  cases start <;> cases finish <;> rfl

theorem fits_anchored (start finish : Bool) (word : List Char) (plain : Plain word) :
    Extent.fits sizeLimit (.ofTree (simpleTree (anchored start finish word))) =
      decide (Extent.room start finish (String.ofList word).utf8ByteSize ≤ sizeLimit) := by
  rw [simpleTree, tree_anchored start finish word plain, Form.ofTree_anchored, Extent.fits_anchored]

/-- The longest plain word, in bytes, that has room with any anchors. -/
def longest : Nat := 327672

theorem room_of_short (start finish : Bool) (size : Nat) (short : size ≤ longest) :
    Extent.room start finish size ≤ sizeLimit := by
  unfold longest at short
  cases start <;> cases finish <;>
    simp [Extent.room, Extent.automaton, Extent.wordStates, sizeLimit] <;> omega

/-- One byte more is too much for a word at the end of a text. -/
theorem room_of_long (size : Nat) (long : longest < size) :
    sizeLimit < Extent.room false true size := by
  unfold longest at long
  simp [Extent.room, Extent.automaton, Extent.wordStates, sizeLimit]
  omega

theorem compile_short (start finish : Bool) (word : List Char) (plain : Plain word)
    (short : (String.ofList word).utf8ByteSize ≤ longest) :
    ∃ test, compile (String.ofList (anchored start finish word)) false = .ok test := by
  have tree := read_simple _ (simple_anchored start finish plain)
  rw [fits_anchored start finish word plain,
    decide_eq_true (room_of_short start finish _ short), if_pos rfl] at tree
  exact ⟨_, by rw [compile, tree]⟩

theorem compile_long (word : List Char) (plain : Plain word)
    (long : longest < (String.ofList word).utf8ByteSize) :
    ∃ reason, compile (String.ofList (anchored false true word)) false = .error reason := by
  have tree := read_simple _ (simple_anchored false true plain)
  rw [fits_anchored false true word plain,
    decide_eq_false (Nat.not_le.mpr (room_of_long _ long)), if_neg Bool.false_ne_true] at tree
  exact ⟨_, by rw [compile, tree]⟩

end Size

/-- The reader does what is documented. -/
theorem compile_documented : Documented compile Tree.spans longest where
  accepted start finish word plain short := by
    refine compile_short start finish word plain (Nat.le_trans ?_ short)
    simp only [anchored, String.ofList_append, String.utf8ByteSize_append]
    omega
  found pattern test simple compiled text := by
    rw [← String.ofList_toList (s := pattern)] at compiled
    exact compile_simple pattern.toList simple test compiled text
  empty before part after := Iff.rfl
  ordinary c plain before part after := by
    have opens : c ≠ '^' := fun same => plain (same ▸ by decide)
    have closes : c ≠ '$' := fun same => plain (same ▸ by decide)
    simp [Tree.spans, opens, closes]
  opening before part after := by simp [Tree.spans, and_comm]
  closing before part after := by
    constructor
    · rintro ⟨none, rfl⟩
      exact ⟨rfl, none⟩
    · rintro ⟨rfl, rfl⟩
      exact ⟨rfl, rfl⟩
  joined first second _ before part after := Tree.spans_append first second before part after

end DataGrid.Pattern
