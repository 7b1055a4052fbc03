import DataGrid.Proofs.Filter.Absence
import DataGrid.Proofs.Pattern.Plain
/-!
Comparisons of texts with plain words. Operands are put into patterns as they are, so one without
special characters is found as it is spelled: at the start, at the end, anywhere or nowhere, as far as
the library of regular expressions accepts its patterns. An operand with a special character means
what it means as a pattern.
-/
namespace DataGrid.Condition

open Pattern (Plain Spans Stands anchored size_anchored special stands_anywhere stands_first
  stands_last)

/-- All comparisons of texts tell how the operand stands in a text, character by character. -/
structure Literal (patterns : PatternCompiler) (field operand text : String) (doc : Document) :
    Prop where
  starts : verdict? patterns false doc
    (.array [.string field, .string "startswith", .string operand]) =
      some (.ok (decide (operand.toList <+: text.toList)))
  ends : verdict? patterns false doc
    (.array [.string field, .string "endswith", .string operand]) =
      some (.ok (decide (operand.toList <:+ text.toList)))
  present : verdict? patterns false doc
    (.array [.string field, .string "contains", .string operand]) =
      some (.ok (decide (operand.toList <:+: text.toList)))
  absent : verdict? patterns false doc
    (.array [.string field, .string "notcontains", .string operand]) =
      some (.ok (!decide (operand.toList <:+: text.toList)))

theorem bare_anchored (start finish : Bool) (word : List Char) (plain : Plain word) :
    ¬ Predicate.IsAbsence (String.ofList (anchored start finish word)) := by
  rintro ⟨opens, _⟩
  rw [String.toList_ofList] at opens
  have bracket : '(' ∈ anchored start finish word := opens.subset (by decide)
  have ordinary : '(' ∉ word := fun member => plain '(' member (by decide)
  cases start <;> cases finish <;> simp [anchored, ordinary] at bracket

theorem start_anchored (operand : String) :
    "^" ++ operand = String.ofList (anchored true false operand.toList) :=
  String.toList_injective (by simp [anchored])

theorem end_anchored (operand : String) :
    operand ++ "$" = String.ofList (anchored false true operand.toList) :=
  String.toList_injective (by simp [anchored])

theorem bare_operand (operand : String) :
    operand = String.ofList (anchored false false operand.toList) :=
  String.toList_injective (by simp [anchored])

theorem test?_starts (operand : String) : test? .startsWith (.string operand) false =
    some (patternTest (String.ofList (anchored true false operand.toList)) false) := by
  rw [← start_anchored]
  rfl

theorem test?_ends (operand : String) : test? .endsWith (.string operand) false =
    some (patternTest (String.ofList (anchored false true operand.toList)) false) := by
  rw [← end_anchored]
  rfl

theorem test?_contains (operand : String) : test? .contains (.string operand) false =
    some (patternTest (String.ofList (anchored false false operand.toList)) false) := by
  rw [← bare_operand]
  rfl

/-- The library accepts the patterns that the comparisons make of an operand. -/
def Accepted (patterns : PatternCompiler) (operand : String) : Prop :=
  ∀ pattern ∈ ["^" ++ operand, operand ++ "$", operand], ∃ test, patterns pattern false = .ok test

theorem accepted_iff (patterns : PatternCompiler) (operand : String) :
    Accepted patterns operand ↔
      (∃ test, patterns (String.ofList (anchored true false operand.toList)) false = .ok test) ∧
      (∃ test, patterns (String.ofList (anchored false true operand.toList)) false = .ok test) ∧
      ∃ test, patterns (String.ofList (anchored false false operand.toList)) false = .ok test := by
  rw [← start_anchored, ← end_anchored, ← bare_operand]
  simp [Accepted]

section Plain

variable {patterns : PatternCompiler} {spans : Spans} {limit : Nat}
  (documented : Pattern.Documented patterns spans limit) (operand : String)
  (plain : Plain operand.toList) (field text : String) (doc : Document)
  (undollared : Text.startsWithDollar field = false) (undated : DatePart.ofName? field = none)
  (stored : (Value.object doc).get? field = some (.string text))

section Anchors

variable (comparison : Comparison) (start finish : Bool)
  (spelled : test? comparison (.string operand) false =
    some (patternTest (String.ofList (anchored start finish operand.toList)) false))
include plain undollared undated stored spelled

/-- The pattern of a plain operand is no absence, so the text is tested with it. -/
theorem verdict_anchored :
    verdict? patterns false doc (.array [.string field, .string comparison.name, .string operand]) =
      some ((Predicate.compilePattern patterns
        (String.ofList (anchored start finish operand.toList)) false).map fun test => test text) :=
  verdict_bare patterns false field (.string operand) doc undollared undated text stored comparison _
    spelled (bare_anchored start finish _ plain)

include documented

/-- Where the pattern is accepted, the comparison tells how the operand stands in the text. -/
theorem verdict_accepted (test : String → Bool)
    (compiled : patterns (String.ofList (anchored start finish operand.toList)) false = .ok test)
    (stands : Prop) [Decidable stands]
    (same : Stands start finish operand.toList text.toList ↔ stands) :
    verdict? patterns false doc (.array [.string field, .string comparison.name, .string operand]) =
      some (.ok (decide stands)) := by
  have found := documented.found_anchored start finish operand.toList plain test compiled text
  have told : test text = decide stands := by
    rw [Bool.eq_iff_iff, found, same, decide_eq_true_iff]
  rw [verdict_anchored operand plain field text doc undollared undated stored comparison start finish
    spelled, Predicate.compilePattern, compiled, ← told]
  rfl

variable (patterns)

omit documented

/-- A comparison that gives an answer has a pattern that is accepted. -/
theorem accepted_of_verdict (holds : Bool)
    (told : verdict? patterns false doc
      (.array [.string field, .string comparison.name, .string operand]) = some (.ok holds)) :
    ∃ test, patterns (String.ofList (anchored start finish operand.toList)) false = .ok test := by
  rw [verdict_anchored operand plain field text doc undollared undated stored comparison start finish
    spelled, Predicate.compilePattern] at told
  cases compiled : patterns (String.ofList (anchored start finish operand.toList)) false with
  | ok test => exact ⟨test, rfl⟩
  | error reason =>
      rw [compiled] at told
      cases Option.some.inj told

end Anchors

include documented plain

theorem accepted_short (short : operand.utf8ByteSize < limit) : Accepted patterns operand := by
  have accepted (start finish : Bool) (one : start.toNat + finish.toNat ≤ 1) :=
    documented.accepted start finish operand.toList plain (by
      rw [size_anchored, String.ofList_toList]
      omega)
  exact (accepted_iff patterns operand).mpr ⟨accepted true false (by decide),
    accepted false true (by decide), accepted false false (by decide)⟩

include undollared undated stored

theorem literal_accepted (accepted : Accepted patterns operand) :
    Literal patterns field operand text doc := by
  obtain ⟨⟨first, compiledFirst⟩, ⟨last, compiledLast⟩, inside, compiled⟩ :=
    (accepted_iff patterns operand).mp accepted
  have verdict := verdict_accepted documented operand plain field text doc undollared undated stored
  constructor
  case starts =>
    exact verdict .startsWith true false (test?_starts operand) first compiledFirst _
      (stands_first _ _)
  case ends =>
    exact verdict .endsWith false true (test?_ends operand) last compiledLast _ (stands_last _ _)
  case present =>
    exact verdict .contains false false (test?_contains operand) inside compiled _
      (stands_anywhere _ _)
  case absent =>
    -- the operand itself is compiled, whose finding is negated
    have found := documented.found_anchored false false operand.toList plain inside compiled text
    have told : inside text = decide (operand.toList <:+: text.toList) := by
      rw [Bool.eq_iff_iff, found, stands_anywhere, decide_eq_true_iff]
    rw [← bare_operand] at compiled
    rw [verdict_absence patterns false field (.string operand) doc undollared undated text stored,
      operandText, Predicate.compilePattern, compiled, ← told]
    rfl

/-- A text is compared literally with an operand without special characters where the patterns of the
operand are accepted, which they are if it is not too long. -/
theorem literal_iff_accepted :
    (Literal patterns field operand text doc ↔ Accepted patterns operand) ∧
      (operand.utf8ByteSize < limit → Literal patterns field operand text doc) := by
  have literal := literal_accepted documented operand plain field text doc undollared undated stored
  refine ⟨⟨fun told => (accepted_iff patterns operand).mpr ?_, literal⟩,
    fun short => literal (accepted_short documented operand plain short)⟩
  have accepted := accepted_of_verdict patterns operand plain field text doc undollared undated stored
  exact ⟨accepted .startsWith true false (test?_starts operand) _ told.starts,
    accepted .endsWith false true (test?_ends operand) _ told.ends,
    accepted .contains false false (test?_contains operand) _ told.present⟩

end Plain

def shelfSeven : Document := [("shelf", .object [("label", .string "No. 7\x7d - ü]")])]

/-- Closing brackets, blanks and letters beyond ASCII stand for themselves. -/
theorem literal_iff_accepted_shelf :
    Plain "7\x7d - ü]".toList ∧
      Literal Pattern.compile "shelf.label" "7\x7d - ü]" "No. 7\x7d - ü]" shelfSeven ∧
      "7\x7d - ü]".toList <:+ "No. 7\x7d - ü]".toList := by
  have plain : Plain "7\x7d - ü]".toList := by decide
  have literal := literal_iff_accepted Pattern.compile_documented "7\x7d - ü]" plain "shelf.label"
    "No. 7\x7d - ü]" shelfSeven (by decide) (by decide) (by decide)
  exact ⟨plain, literal.2 (by decide), "No. ".toList, rfl⟩

def namedA : Document := [("name", .string "a")]

theorem complement_feed :
    Unicode.Ranges.complement (Pattern.CharSet.single '\n') =
      [(0, 9), (11, 0xd7ff), (0xe000, 0x10ffff)] := by
  have merged : List.merge (Pattern.CharSet.single '\n') Unicode.Ranges.surrogates
      Unicode.Ranges.startsFirst = [(10, 10), (0xd800, 0xdfff)] := by
    simp [Pattern.CharSet.single, Unicode.Ranges.surrogates, Unicode.Ranges.startsFirst]
  rw [Unicode.Ranges.complement, Unicode.Ranges.union, merged]
  rfl

theorem compile_dot (test : String → Bool) (compiled : Pattern.compile "." false = .ok test) :
    test "a" = true := by
  let tree : Pattern.Tree := .chars (.complement (Pattern.CharSet.single '\n')) 0
  have read : Pattern.read {} "." =
      if Pattern.Extent.fits Pattern.sizeLimit (.ofTree tree) then .ok tree else .error .tooLarge := by
    have items : Pattern.readFrom (".".toList.length + 1) (.starting false {}) [] [] ".".toList =
      .ok tree := rfl
    simp only [Pattern.read, items, Bind.bind, Except.bind]
    cases Pattern.Extent.fits Pattern.sizeLimit (.ofTree tree) <;> rfl
  rw [Pattern.compile, read] at compiled
  cases fits : Pattern.Extent.fits Pattern.sizeLimit (.ofTree tree) with
  | false => simp [fits] at compiled
  | true =>
      rw [fits, if_pos rfl] at compiled
      obtain rfl := Except.ok.inj compiled
      change tree.foundIn ['a'] = true
      simp only [tree, complement_feed]
      rfl

theorem dot_present :
    verdict? Pattern.compile false namedA (.array [.string "name", .string "contains", .string "."]) ≠
      some (.ok false) := by
  rw [show "contains" = Comparison.contains.name from rfl, verdict_bare Pattern.compile false "name"
    (.string ".") namedA (by decide) (by decide) "a" (by decide) .contains "." rfl (by decide),
    Predicate.compilePattern]
  cases compiled : Pattern.compile "." false with
  | error reason =>
      intro same
      cases Option.some.inj same
  | ok test =>
      have found := compile_dot test compiled
      exact fun same => absurd (Except.ok.inj (Option.some.inj same)) (by simp [found])

/-- No special character stands for itself, and a word may be refused without one. -/
theorem literal_iff_accepted_fails :
    (∀ c ∈ special, ¬ Literal Pattern.compile "name" (String.singleton c) "a" namedA) ∧
      ∃ word : String, Plain word.toList ∧ ¬ Literal Pattern.compile "name" word "a" namedA := by
  constructor
  · have differs : ∀ c ∈ special, verdict? Pattern.compile false namedA
        (.array [.string "name", .string "contains", .string (String.singleton c)]) ≠
          some (.ok false) := by
      simp only [special, List.forall_mem_cons]
      refine ⟨?_, dot_present, ?_, ?_, ?_, ?_, ?_, ?_, ?_, ?_, ?_, ?_, by simp⟩ <;> decide +kernel
    intro c member literal
    have absent : ¬ (String.singleton c).toList <:+: "a".toList := by
      revert c
      simp [special]
    refine differs c member (literal.present.trans ?_)
    rw [decide_eq_false absent]
  · -- the long word is not written out: all that counts is its length
    have plain (count : Nat) : Plain (String.ofList (List.replicate count 'a')).toList := by
      rw [String.toList_ofList]
      exact fun c member => List.eq_of_mem_replicate member ▸ by decide
    have size (count : Nat) : (String.ofList (List.replicate count 'a')).utf8ByteSize = count := by
      rw [← Pattern.length_encodes]
      simp [Pattern.Bytes.encode]
    refine ⟨_, plain (Pattern.longest + 1), fun literal => ?_⟩
    obtain ⟨test, accepted⟩ := accepted_of_verdict _ _ (plain (Pattern.longest + 1)) "name" "a" namedA
      (by decide) (by decide) (by decide) .endsWith false true (test?_ends _) _ literal.ends
    obtain ⟨reason, refused⟩ := Pattern.compile_long _ (plain (Pattern.longest + 1))
      (by rw [String.ofList_toList, size]; exact Nat.lt_succ_self _)
    rw [refused] at accepted
    contradiction

end DataGrid.Condition
