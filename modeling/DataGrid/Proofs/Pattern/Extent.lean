import Mathlib
import DataGrid.Pattern.Reader
import DataGrid.Proofs.Pattern.Matching
/-!
The room that a word takes as a pattern, between anchors or without them. Its characters are joined to
one literal, of which each byte is a state; with what goes around it, this tells how long a word may
be.
-/
namespace DataGrid.Pattern

theorem length_encode (c : Char) : (Bytes.encode c.toNat).length = c.utf8Size := by
  have size : c.utf8Size = if c.toNat < 0x80 then 1 else if c.toNat < 0x800 then 2 else
      if c.toNat < 0x10000 then 3 else 4 := by
    simp only [Char.utf8Size, UInt32.le_iff_toNat_le, ← Nat.lt_succ_iff]
    rfl
  simp only [size, Bytes.encode, apply_ite List.length]
  rfl

theorem length_encodes (word : List Char) :
    ((word.map Char.toNat).flatMap Bytes.encode).length = (String.ofList word).utf8ByteSize := by
  induction word with
  | nil => rfl
  | cons c word ih =>
      rw [List.map_cons, List.flatMap_cons, List.length_append, ih, length_encode, String.ofList_cons,
        String.utf8ByteSize_append, String.utf8ByteSize_singleton]

theorem Group.alternative_many (first second : Tree) (rest : List Tree) :
    Group.alternative (first :: second :: rest).reverse = .concat (first :: second :: rest) := by
  rw [Group.alternative]
  · rw [List.reverse_reverse]
  · simp
  · intro item same
    simpa using congrArg List.length same

namespace Form

theorem ofTrees_eq_map (trees : List Tree) : ofTrees trees = trees.map ofTree := by
  induction trees with
  | nil => rfl
  | cons tree trees ih => rw [ofTrees, ih, List.map_cons]

theorem ofTree_character (c : Char) : ofTree (.character c) = .literal [c.toNat] := by
  rw [Tree.character, ofTree, CharSet.single, ofSet, if_pos rfl]

theorem joinLiterals_join (points more : List Nat) (rest others : List Form)
    (joined : joinLiterals rest = .literal more :: others) :
    joinLiterals (.literal points :: rest) = .literal (points ++ more) :: others := by
  rw [joinLiterals]
  exact joined

theorem joinLiterals_apart (part : Form) (rest : List Form)
    (apart : ∀ more others, joinLiterals rest ≠ .literal more :: others) :
    joinLiterals (part :: rest) = part :: joinLiterals rest := by
  rw [joinLiterals]
  exact fun _ more others _ joined => apart more others joined

/-- The characters of a word are one literal, unless another one follows. -/
theorem joinLiterals_word (c : Char) (word : List Char) (rest : List Form)
    (apart : ∀ more others, joinLiterals rest ≠ .literal more :: others) :
    joinLiterals ((c :: word).map (fun c => ofTree (.character c)) ++ rest) =
      .literal ((c :: word).map Char.toNat) :: joinLiterals rest := by
  induction word generalizing c with
  | nil =>
      rw [List.map_singleton, List.singleton_append, ofTree_character, joinLiterals_apart _ _ apart]
      rfl
  | cons d word ih =>
      rw [List.map_cons, List.cons_append, ofTree_character, joinLiterals_join _ _ _ _ (ih d)]
      rfl

def ofParts : List Form → Form
  | [] => .empty
  | [form] => form
  | forms => .concat forms

theorem sequence_eq (forms : List Form) :
    sequence forms = ofParts (joinLiterals (forms.flatMap parts)) := by
  rw [sequence]
  split <;> simp_all [ofParts]

theorem ofTree_alternative (items : List Tree)
    (single : ∀ item ∈ items, parts (ofTree item) = [ofTree item]) :
    ofTree (Group.alternative items.reverse) = sequence (items.map ofTree) := by
  match items with
  | [] => rfl
  | [item] =>
      rw [sequence, List.map_singleton, List.flatMap_singleton, single item List.mem_cons_self,
        joinLiterals_apart _ _ (by simp [joinLiterals])]
      rfl
  | first :: second :: rest => rw [Group.alternative_many, ofTree, ofTrees_eq_map]

/-- A word and its anchors, with the characters joined. -/
def anchored (start finish : Bool) (word : List Char) : List Form :=
  (if start then [.look .textStart] else []) ++
    (if word = [] then [] else [.literal (word.map Char.toNat)]) ++
    (if finish then [.look .textEnd] else [])

theorem mem_anchored (start finish : Bool) (word : List Char) (part : Form)
    (member : part ∈ anchored start finish word) :
    (∃ condition, part = .look condition) ∨
      ∃ c rest, word = c :: rest ∧ part = .literal ((c :: rest).map Char.toNat) := by
  simp only [anchored, List.mem_append] at member
  rcases member with (opening | body) | closing
  · cases start with
    | false => contradiction
    | true => exact Or.inl ⟨_, List.mem_singleton.mp opening⟩
  · cases word with
    | nil => contradiction
    | cons c rest => exact Or.inr ⟨c, rest, rfl, List.mem_singleton.mp body⟩
  · cases finish with
    | false => contradiction
    | true => exact Or.inl ⟨_, List.mem_singleton.mp closing⟩

theorem joinLiterals_look (condition : Look) (rest : List Form) :
    joinLiterals (.look condition :: rest) = .look condition :: joinLiterals rest := rfl

theorem joinLiterals_anchored (start finish : Bool) (word : List Char) :
    joinLiterals ((Tree.anchored start finish word).map ofTree) = anchored start finish word := by
  let closing : List Tree := if finish then [.look .textEnd] else []
  have closed : joinLiterals (closing.map ofTree) = if finish then [.look .textEnd] else [] := by
    cases finish <;> rfl
  -- characters are joined up to the closing anchor, which is no literal
  have body : joinLiterals ((word.map Tree.character ++ closing).map ofTree) =
      (if word = [] then [] else [.literal (word.map Char.toNat)]) ++
        if finish then [.look .textEnd] else [] := by
    cases word with
    | nil => exact closed
    | cons c word =>
        rw [List.map_append, List.map_map]
        refine (joinLiterals_word c word _ fun more others => ?_).trans (by rw [closed]; rfl)
        rw [closed]
        cases finish <;> simp
  rw [Tree.anchored, anchored, List.append_assoc, List.append_assoc, ← body]
  cases start with
  | false => rfl
  | true => exact joinLiterals_look _ _

theorem ofTree_anchored (start finish : Bool) (word : List Char) :
    ofTree (Group.alternative (Tree.anchored start finish word).reverse) =
      ofParts (anchored start finish word) := by
  have single : ∀ item ∈ Tree.anchored start finish word, parts (ofTree item) = [ofTree item] := by
    intro item member
    rcases Tree.mem_anchored start finish word item member with ⟨condition, rfl⟩ | ⟨c, _, rfl⟩
    · rfl
    · rw [ofTree_character]
      rfl
  have whole : ((Tree.anchored start finish word).map ofTree).flatMap parts =
      (Tree.anchored start finish word).map ofTree := by
    rw [List.flatMap_map, List.flatMap_congr single, ← List.map_eq_flatMap]
  rw [ofTree_alternative _ single, sequence_eq, whole, joinLiterals_anchored]

end Form

namespace Extent

open Form (ofParts)

section States

variable (limit : Nat) (backward : Bool) (extent : Extent)

/-- The states of forms that are one character after the other, or a condition. -/
def statesOf : Form → Nat
  | .literal points => (points.flatMap Bytes.encode).length
  | _ => 1

theorem addParts_states (parts : List Form)
    (each : ∀ part ∈ parts, ∀ extent, add limit backward part extent =
      (⟨extent.states + statesOf part, extent.held⟩, false)) :
    addParts limit backward parts (extent, false) =
      (⟨extent.states + (parts.map statesOf).sum, extent.held⟩, false) := by
  induction parts generalizing extent with
  | nil => rfl
  | cons part parts ih =>
      have rest := fun extent => ih extent fun later member => each later (List.mem_cons_of_mem _ member)
      have first := each part List.mem_cons_self
      rw [List.map_cons, List.sum_cons]
      cases backward with
      | false => simp [addParts, follow, first, rest, Nat.add_assoc]
      | true => simp [addParts, follow, first, rest, Nat.add_assoc, Nat.add_comm]

variable (start finish : Bool) (word : List Char)

/-- The states of a word with its anchors: one for each byte, and one for each anchor. -/
theorem sum_anchored :
    ((Form.anchored start finish word).map statesOf).sum =
      start.toNat + (String.ofList word).utf8ByteSize + finish.toNat := by
  rw [← length_encodes]
  cases start <;> cases finish <;> by_cases empty : word = [] <;>
    simp [Form.anchored, statesOf, empty, Nat.add_assoc]

def wordStates (size : Nat) : Nat := max 1 (start.toNat + size + finish.toNat)

theorem add_anchored :
    add limit backward (ofParts (Form.anchored start finish word)) extent =
      (⟨extent.states + wordStates start finish (String.ofList word).utf8ByteSize, extent.held⟩,
        false) := by
  rw [wordStates, ← sum_anchored]
  -- no part chooses between ways, and none is without a state
  have each : ∀ part ∈ Form.anchored start finish word, 1 ≤ statesOf part ∧
      ∀ extent, add limit backward part extent =
        (⟨extent.states + statesOf part, extent.held⟩, false) := by
    intro part member
    rcases Form.mem_anchored start finish word part member with
      ⟨condition, rfl⟩ | ⟨c, rest, rfl, rfl⟩
    · exact ⟨Nat.le_refl 1, fun _ => rfl⟩
    · refine ⟨?_, fun _ => rfl⟩
      rw [statesOf, List.map_cons, List.flatMap_cons, List.length_append, length_encode]
      have filled := c.utf8Size_pos
      omega
  have run := addParts_states limit backward extent _ fun part member => (each part member).2
  generalize Form.anchored start finish word = parts at each run ⊢
  match parts with
  | [] => rfl
  | [part] =>
      obtain ⟨filled, added⟩ := each part List.mem_cons_self
      simp [ofParts, added, filled]
  | first :: second :: rest =>
      have filled := (each first List.mem_cons_self).1
      rw [show ofParts (first :: second :: rest) = .concat (first :: second :: rest) from rfl, add, run,
        Nat.max_eq_right]
      rw [List.map_cons, List.sum_cons]
      omega

theorem beginsWith_anchored :
    (ofParts (Form.anchored start finish word)).beginsWith .textStart = start := by
  cases start <;> cases finish <;> by_cases empty : word = [] <;>
    simp [Form.anchored, ofParts, empty, Form.beginsWith, Form.anyBeginsWith, Form.isZeroWidth]

theorem endsWith_anchored :
    (ofParts (Form.anchored start finish word)).endsWith .textEnd = finish := by
  cases start <;> cases finish <;> by_cases empty : word = [] <;>
    simp [Form.anchored, ofParts, empty, Form.endsWith, Form.anyEndsWith, Form.areZeroWidth,
      Form.isZeroWidth]

/-- The bytes of an automaton with so many states, of which some come before and after those of a
word. One that may start anywhere has two more, and what they hold. -/
def automaton (anchored : Bool) (states : Nat) : Nat :=
  if anchored then 32 * states else 32 * (states + 2) + 16

/-- The bytes of the automata of a word with its anchors, those of the larger one. -/
def room (size : Nat) : Nat :=
  max (automaton start (wordStates start finish size + 4))
    (automaton finish (wordStates start finish size + 2))

theorem forward_anchored :
    (forward limit (ofParts (Form.anchored start finish word))).bytes =
      automaton start (wordStates start finish (String.ofList word).utf8ByteSize + 4) := by
  rw [forward, beginsWith_anchored, add, if_neg Bool.false_ne_true, add_anchored]
  cases start <;> simp [automaton, prelude, state, follow, bytes] <;> omega

theorem backward_anchored :
    (Extent.backward limit (ofParts (Form.anchored start finish word))).bytes =
      automaton finish (wordStates start finish (String.ofList word).utf8ByteSize + 2) := by
  rw [Extent.backward, endsWith_anchored, add_anchored]
  cases finish <;> simp [automaton, prelude, state, follow, bytes] <;> omega

theorem room_le_enough :
    room start finish (String.ofList word).utf8ByteSize ≤
      enough (ofParts (Form.anchored start finish word)) + 256 := by
  rw [← length_encodes]
  cases start <;> cases finish <;> by_cases empty : word = [] <;>
    simp [room, automaton, wordStates, Form.anchored, ofParts, empty, enough, enoughForAll] <;> omega

/-- A word with its anchors is a pattern of bounded size just where both automata have their room. -/
theorem fits_anchored :
    fits limit (ofParts (Form.anchored start finish word)) =
      decide (room start finish (String.ofList word).utf8ByteSize ≤ limit) := by
  -- the first estimate is not below the room, so it accepts nothing that the room does not
  have large := room_le_enough start finish word
  rw [fits, forward_anchored, backward_anchored, Bool.eq_iff_iff]
  simp only [room, Nat.max_le, Bool.or_eq_true, Bool.and_eq_true, decide_eq_true_eq] at large ⊢
  exact ⟨fun either => either.elim (fun enough => ⟨large.1.trans enough, large.2.trans enough⟩) id,
    Or.inr⟩

end States

end Extent

end DataGrid.Pattern
