import Mathlib.Data.List.Infix
import DataGrid.Store.Predicate
/-!
Words as patterns, for any library of regular expressions that does what is documented of them. An
ordinary character matches itself, an anchor matches nothing but asks for an end of the text, and what
stands behind each other matches one after the other. So a word without special characters is found
where a text has it, and with an anchor where it has it at that end.
-/
namespace DataGrid.Pattern

/-- Characters that do not stand for themselves in a pattern. Brackets and braces that close nothing
do. -/
def special : List Char := ['\\', '.', '^', '$', '[', '(', ')', '|', '?', '*', '+', '\x7b']

def Plain (word : List Char) : Prop := ∀ c ∈ word, c ∉ special

instance (word : List Char) : Decidable (Plain word) := List.decidableBAll (fun c => c ∉ special) word

/-- Patterns of ordinary characters and anchors. -/
def Simple (pattern : List Char) : Prop := ∀ c ∈ pattern, c ∉ special ∨ c = '^' ∨ c = '$'

/-- A word as a pattern. -/
def anchored (start finish : Bool) (word : List Char) : List Char :=
  (if start then ['^'] else []) ++ word ++ (if finish then ['$'] else [])

/-- A part of a text that a pattern matches, between what comes before the part and after it. -/
abbrev Spans := (pattern before part after : List Char) → Prop

/-- What is documented of a library of regular expressions about simple patterns. Those of a word are
refused for their size only, of which a `limit` is allowed. -/
structure Documented (patterns : PatternCompiler) (spans : Spans) (limit : Nat) : Prop where
  accepted : ∀ start finish word, Plain word →
    (String.ofList (anchored start finish word)).utf8ByteSize ≤ limit →
    ∃ test, patterns (String.ofList (anchored start finish word)) false = .ok test
  found : ∀ (pattern : String) (test : String → Bool), Simple pattern.toList →
    patterns pattern false = .ok test → ∀ text, test text = true ↔
      ∃ before part after, before ++ part ++ after = text.toList ∧
        spans pattern.toList before part after
  empty : ∀ before part after, spans [] before part after ↔ part = []
  ordinary : ∀ c ∉ special, ∀ before part after, spans [c] before part after ↔ part = [c]
  opening : ∀ before part after, spans ['^'] before part after ↔ part = [] ∧ before = []
  closing : ∀ before part after, spans ['$'] before part after ↔ part = [] ∧ after = []
  joined : ∀ first second, Simple (first ++ second) → ∀ before part after,
    spans (first ++ second) before part after ↔ ∃ left right, part = left ++ right ∧
      spans first before left (right ++ after) ∧ spans second (before ++ left) right after

section Simple

theorem Plain.simple {word : List Char} (plain : Plain word) : Simple word :=
  fun c member => Or.inl (plain c member)

theorem simple_append {first second : List Char} :
    Simple (first ++ second) ↔ Simple first ∧ Simple second := by
  simp only [Simple, List.mem_append, or_imp, forall_and]

theorem simple_anchored (start finish : Bool) {word : List Char} (plain : Plain word) :
    Simple (anchored start finish word) := by
  have opening : Simple (if start then ['^'] else []) := by cases start <;> simp [Simple]
  have closing : Simple (if finish then ['$'] else []) := by cases finish <;> simp [Simple]
  exact simple_append.mpr ⟨simple_append.mpr ⟨opening, plain.simple⟩, closing⟩

end Simple

/-- A word stands in a text, with nothing before it or after it where an anchor asks for that. -/
def Stands (start finish : Bool) (word text : List Char) : Prop :=
  ∃ before after, before ++ word ++ after = text ∧ (start = true → before = []) ∧
    (finish = true → after = [])

theorem stands_anywhere (word text : List Char) : Stands false false word text ↔ word <:+: text := by
  simp [Stands, List.IsInfix]

theorem stands_first (word text : List Char) : Stands true false word text ↔ word <+: text := by
  simp [Stands, List.IsPrefix]

theorem stands_last (word text : List Char) : Stands false true word text ↔ word <:+ text := by
  simp [Stands, List.IsSuffix]

theorem size_anchored (start finish : Bool) (word : List Char) :
    (String.ofList (anchored start finish word)).utf8ByteSize =
      start.toNat + (String.ofList word).utf8ByteSize + finish.toNat := by
  have opening : "^".utf8ByteSize = 1 := rfl
  have closing : "$".utf8ByteSize = 1 := rfl
  cases start <;> cases finish <;>
    simp [anchored, opening, closing, String.ofList_append, String.utf8ByteSize_append, Nat.add_assoc]

namespace Documented

variable {patterns : PatternCompiler} {spans : Spans} {limit : Nat}
  (documented : Documented patterns spans limit) (start finish : Bool) (word : List Char)
  (plain : Plain word)
include documented plain

/-- A word matches itself, wherever it stands. -/
theorem spans_word (before part after : List Char) : spans word before part after ↔ part = word := by
  induction word generalizing before part after with
  | nil => exact documented.empty before part after
  | cons c word ih =>
      have first : c ∉ special := plain c List.mem_cons_self
      have rest : Plain word := fun d member => plain d (List.mem_cons_of_mem c member)
      rw [← List.singleton_append, documented.joined [c] word plain.simple]
      simp only [documented.ordinary c first, ih rest]
      constructor
      · rintro ⟨_, _, rfl, rfl, rfl⟩
        rfl
      · rintro rfl
        exact ⟨[c], word, rfl, rfl, rfl⟩

theorem spans_opened (before part after : List Char) :
    spans ((if start then ['^'] else []) ++ word) before part after ↔
      part = word ∧ (start = true → before = []) := by
  cases start with
  | false => simpa using documented.spans_word word plain before part after
  | true =>
      have simple := simple_anchored true false plain
      rw [anchored, if_neg Bool.false_ne_true, List.append_nil] at simple
      rw [documented.joined _ _ simple]
      simp only [if_true, documented.opening, documented.spans_word word plain]
      constructor
      · rintro ⟨_, _, rfl, ⟨rfl, opens⟩, rfl⟩
        exact ⟨rfl, fun _ => opens⟩
      · rintro ⟨rfl, opens⟩
        exact ⟨[], part, rfl, ⟨rfl, opens trivial⟩, rfl⟩

theorem spans_anchored (before part after : List Char) :
    spans (anchored start finish word) before part after ↔
      part = word ∧ (start = true → before = []) ∧ (finish = true → after = []) := by
  cases finish with
  | false => simpa [anchored] using documented.spans_opened start word plain before part after
  | true =>
      rw [anchored, documented.joined _ _ (simple_anchored start true plain)]
      simp only [if_true, documented.closing, documented.spans_opened start word plain]
      constructor
      · rintro ⟨_, _, rfl, ⟨rfl, opens⟩, rfl, closes⟩
        exact ⟨List.append_nil _, opens, fun _ => closes⟩
      · rintro ⟨rfl, opens, closes⟩
        exact ⟨part, [], (List.append_nil part).symm, ⟨rfl, opens⟩, rfl, closes trivial⟩

theorem found_anchored (test : String → Bool)
    (compiled : patterns (String.ofList (anchored start finish word)) false = .ok test)
    (text : String) : test text = true ↔ Stands start finish word text.toList := by
  have simple := simple_anchored start finish plain
  rw [← String.toList_ofList (l := anchored start finish word)] at simple
  rw [documented.found _ test simple compiled text, String.toList_ofList]
  simp only [documented.spans_anchored start finish word plain]
  constructor
  · rintro ⟨before, _, after, whole, rfl, opens, closes⟩
    exact ⟨before, after, whole, opens, closes⟩
  · rintro ⟨before, after, whole, opens, closes⟩
    exact ⟨before, word, after, whole, rfl, opens, closes⟩

end Documented

end DataGrid.Pattern
