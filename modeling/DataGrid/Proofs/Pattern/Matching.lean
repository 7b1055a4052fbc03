import DataGrid.Pattern.Matching
import DataGrid.Proofs.Pattern.Documented
/-!
Places of a text that trees lead to. A character set leads from each place to the next, a condition
stays at the places where it holds. So a simple pattern leads over each part of a text that it matches.
-/
namespace DataGrid.Pattern

namespace Places

/-- A place that belongs to a set of places. -/
def At (places : Places) (index : Nat) : Prop := places[index]? = some true

theorem at_everywhere (last index : Nat) :
    At (List.replicate (last + 1) true) index ↔ index ≤ last := by
  have inside : At (List.replicate (last + 1) true) index ↔ index < last + 1 := by
    simp [At, List.getElem?_replicate]
  exact inside.trans Nat.lt_succ_iff

theorem at_pass (set : CharSet) (text : List Char) (places : Places) (index : Nat) :
    (pass set text places).At index ↔
      ∃ start c, index = start + 1 ∧ places.At start ∧ text[start]? = some c ∧
        set.holds c.toNat = true := by
  cases index with
  | zero => simp [At, pass]
  | succ start =>
      simp only [At, pass, List.getElem?_cons_succ, List.getElem?_zipWith_eq_some,
        Nat.add_right_cancel_iff]
      constructor
      · rintro ⟨c, here, read, there, both⟩
        obtain ⟨rfl, held⟩ := (Bool.and_eq_true _ _).mp both
        exact ⟨start, c, rfl, there, read, held⟩
      · rintro ⟨_, c, rfl, there, read, held⟩
        exact ⟨c, true, read, there, held⟩

theorem length_pass (set : CharSet) (text : List Char) (places : Places)
    (whole : places.length = text.length + 1) : (pass set text places).length = text.length + 1 := by
  simp [pass, whole]

/-- The character before a place, given the one before the text. -/
def neighbour (before : Option Char) (text : List Char) : Nat → Option Char
  | 0 => before
  | index + 1 => text[index]?

theorem length_keep (condition : Look) (before : Option Char) (text : List Char) (places : Places) :
    (keep condition before text places).length = places.length := by
  induction text generalizing before places with
  | nil => simp [keep]
  | cons c text ih =>
      cases places with
      | nil => rfl
      | cons here places => simp [keep, ih]

theorem at_keep (condition : Look) (before : Option Char) (text : List Char) (places : Places)
    (whole : places.length = text.length + 1) (index : Nat) :
    (keep condition before text places).At index ↔
      places.At index ∧ condition.holds (neighbour before text index) text[index]? = true := by
  -- the first character is the one before the places that are left
  induction text generalizing before places index with
  | nil =>
      obtain ⟨here, rfl⟩ := List.length_eq_one_iff.mp whole
      cases index <;> simp [At, keep, neighbour]
  | cons c text ih =>
      cases places with
      | nil => simp at whole
      | cons here places =>
          cases index with
          | zero => simp [At, keep, neighbour]
          | succ index =>
              have rest := ih (some c) places (by simpa using whole) index
              simp only [At, keep, List.getElem?_cons_succ] at rest ⊢
              rw [rest]
              cases index <;> rfl

section Ends

variable (text : List Char) (places : Places) (whole : places.length = text.length + 1) (index : Nat)
include whole

theorem at_textStart :
    (keep .textStart none text places).At index ↔ places.At index ∧ index = 0 := by
  rw [at_keep _ _ _ _ whole]
  refine and_congr_right fun there => ?_
  have inside : index < places.length := (List.getElem?_eq_some_iff.mp there).1
  cases index with
  | zero => simp [neighbour, Look.holds]
  | succ before =>
      simp [neighbour, Look.holds]
      omega

theorem at_textEnd :
    (keep .textEnd none text places).At index ↔ places.At index ∧ index = text.length := by
  rw [at_keep _ _ _ _ whole]
  refine and_congr_right fun there => ?_
  have inside : index < places.length := (List.getElem?_eq_some_iff.mp there).1
  simp [Look.holds]
  omega

end Ends

end Places

namespace Tree

open Places

theorem foundIn_iff (tree : Tree) (text : List Char) :
    tree.foundIn text = true ↔
      ∃ index, (tree.advance text (List.replicate (text.length + 1) true)).At index := by
  simp [foundIn, At, List.mem_iff_getElem?]

/-- A character that stands for itself. -/
def character (c : Char) : Tree := .chars (CharSet.single c) 0

/-- The characters of a word, at the start of a text or at its end where that is asked for. -/
def anchored (start finish : Bool) (word : List Char) : List Tree :=
  (if start then [.look .textStart] else []) ++ word.map character ++
    (if finish then [.look .textEnd] else [])

theorem mem_anchored (start finish : Bool) (word : List Char) (item : Tree)
    (member : item ∈ anchored start finish word) :
    (∃ condition, item = .look condition) ∨ ∃ c ∈ word, item = .character c := by
  simp only [anchored, List.mem_append, List.mem_map] at member
  rcases member with (opening | ⟨c, inside, rfl⟩) | closing
  · cases start with
    | false => contradiction
    | true => exact Or.inl ⟨_, List.mem_singleton.mp opening⟩
  · exact Or.inr ⟨c, inside, rfl⟩
  · cases finish with
    | false => contradiction
    | true => exact Or.inl ⟨_, List.mem_singleton.mp closing⟩

/-- A character of a simple pattern. -/
def ofCharacter (c : Char) : Tree :=
  if c = '^' then .look .textStart else if c = '$' then .look .textEnd else .character c

theorem single_holds (c d : Char) : (CharSet.single c).holds d.toNat = true ↔ d = c := by
  simp only [CharSet.single, Unicode.Ranges.holds, Bool.and_eq_true, Bool.or_false, decide_eq_true_eq]
  refine ⟨fun ⟨low, high⟩ => ?_, fun same => by simp [same]⟩
  exact Char.toNat_inj.mp (le_antisymm high low)

/-- The parts of a text that a simple pattern matches, one character of it after the other. -/
def spans : Spans
  | [], _, part, _ => part = []
  | c :: pattern, before, part, after =>
      if c = '^' then before = [] ∧ spans pattern before part after
      else if c = '$' then part ++ after = [] ∧ spans pattern before part after
      else ∃ rest, part = c :: rest ∧ spans pattern (before ++ [c]) rest after

theorem spans_append (first second before part after : List Char) :
    spans (first ++ second) before part after ↔ ∃ left right, part = left ++ right ∧
      spans first before left (right ++ after) ∧ spans second (before ++ left) right after := by
  induction first generalizing before part with
  | nil => simp [spans]
  | cons c first ih =>
      simp only [List.cons_append, spans, ih]
      by_cases opens : c = '^'
      · simp only [if_pos opens]
        constructor
        · rintro ⟨none, left, right, same, one, two⟩
          exact ⟨left, right, same, ⟨none, one⟩, two⟩
        · rintro ⟨left, right, same, ⟨none, one⟩, two⟩
          exact ⟨none, left, right, same, one, two⟩
      · by_cases closes : c = '$'
        · simp only [if_neg opens, if_pos closes]
          constructor
          · rintro ⟨none, left, right, rfl, one, two⟩
            exact ⟨left, right, rfl, ⟨by simpa using none, one⟩, two⟩
          · rintro ⟨left, right, rfl, ⟨none, one⟩, two⟩
            exact ⟨by simpa using none, left, right, rfl, one, two⟩
        · simp only [if_neg opens, if_neg closes]
          constructor
          · rintro ⟨_, rfl, left, right, rfl, one, two⟩
            exact ⟨c :: left, right, rfl, ⟨left, rfl, one⟩, by simpa using two⟩
          · rintro ⟨_, right, rfl, ⟨left, rfl, one⟩, two⟩
            exact ⟨left ++ right, rfl, left, right, rfl, one, by simpa using two⟩

/-- A simple pattern leads from the places before the parts that it matches to those after them. -/
theorem at_spans (pattern text : List Char) (places : Places)
    (whole : places.length = text.length + 1) (index : Nat) :
    (advanceThrough text (pattern.map ofCharacter) places).At index ↔
      ∃ before part after, before ++ part ++ after = text ∧ places.At before.length ∧
        index = (before ++ part).length ∧ spans pattern before part after := by
  induction pattern generalizing places with
  | nil =>
      simp only [List.map_nil, advanceThrough, spans]
      constructor
      · intro there
        have inside : index < places.length := (List.getElem?_eq_some_iff.mp there).1
        have before : (text.take index).length = index := List.length_take_of_le (by omega)
        exact ⟨text.take index, [], text.drop index, by simp, by rwa [before], by simp [before], rfl⟩
      · rintro ⟨before, _, after, _, there, rfl, rfl⟩
        rwa [List.append_nil]
  | cons c pattern ih =>
      rw [List.map_cons, advanceThrough]
      by_cases opens : c = '^'
      · have step : (ofCharacter c).advance text places = keep .textStart none text places := by
          rw [ofCharacter, if_pos opens]
          rfl
        rw [step, ih _ ((length_keep _ _ _ _).trans whole)]
        simp only [at_textStart text places whole, spans, if_pos opens, List.length_eq_zero_iff]
        constructor
        · rintro ⟨_, part, after, whole, ⟨there, rfl⟩, last, matched⟩
          exact ⟨[], part, after, whole, there, last, rfl, matched⟩
        · rintro ⟨_, part, after, whole, there, last, rfl, matched⟩
          exact ⟨[], part, after, whole, ⟨there, rfl⟩, last, matched⟩
      · by_cases closes : c = '$'
        · have step : (ofCharacter c).advance text places = keep .textEnd none text places := by
            rw [ofCharacter, if_neg opens, if_pos closes]
            rfl
          rw [step, ih _ ((length_keep _ _ _ _).trans whole)]
          simp only [at_textEnd text places whole, spans, if_neg opens, if_pos closes]
          constructor
          · rintro ⟨before, part, after, rfl, ⟨there, final⟩, last, matched⟩
            exact ⟨before, part, after, rfl, there, last, by simpa using final, matched⟩
          · rintro ⟨before, part, after, rfl, there, last, none, matched⟩
            exact ⟨before, part, after, rfl, ⟨there, by simpa using none⟩, last, matched⟩
        · have step : (ofCharacter c).advance text places = pass (CharSet.single c) text places := by
            rw [ofCharacter, if_neg opens, if_neg closes]
            rfl
          rw [step, ih _ (length_pass _ _ _ whole)]
          simp only [at_pass, single_holds, spans, if_neg opens, if_neg closes]
          constructor
          · rintro ⟨before, part, after, rfl, ⟨start, d, next, there, read, rfl⟩, last, matched⟩
            -- the character before the rest is the one that was passed
            obtain ⟨front, e, rfl⟩ : ∃ front e, before = front ++ [e] := by
              refine ⟨before.dropLast, before.getLast ?_, (List.dropLast_append_getLast _).symm⟩
              exact List.ne_nil_of_length_eq_add_one next
            obtain rfl : front.length = start := by simpa using next
            obtain rfl : e = d := by simpa using read
            exact ⟨front, e :: part, after, by simp, there, by simpa using last, part, rfl, matched⟩
          · rintro ⟨before, _, after, rfl, there, last, part, rfl, matched⟩
            exact ⟨before ++ [c], part, after, by simp,
              ⟨before.length, c, by simp, there, by simp, rfl⟩, by simpa using last, matched⟩

end Tree

end DataGrid.Pattern
