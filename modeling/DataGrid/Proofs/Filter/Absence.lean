import DataGrid.Pattern.Reader
import DataGrid.Proofs.Filter.Condition
import DataGrid.Proofs.Filter.Spelling
/-!
Comparisons of texts by patterns. That a text is absent is asked by a pattern around the one that
finds the text; a store takes it apart again and negates its finding. So presence and absence fail for
the same operands, and where they do not fail, they are opposites on every text and both false on
every other value. What a pattern means plays no part in this.
-/
namespace DataGrid

namespace Condition

variable (patterns : PatternCompiler) (ignoreCase : Bool) (field : String) (operand : Value)
  (doc : Document)

/-- The verdict of a filter on a document; none where it sets no condition. -/
def verdict? (filter : Value) : Option (StoreResult Bool) :=
  (ofValue? ignoreCase filter).map fun condition =>
    Predicate.holds patterns (.object doc) condition.predicate

theorem options_case : (if ignoreCase then "i" else "").toList.contains 'i' = ignoreCase := by
  cases ignoreCase <;> decide

section Stored

variable (undollared : Text.startsWithDollar field = false) (undated : DatePart.ofName? field = none)
include undollared undated

theorem verdict_stored (comparison : Comparison) (test : Value)
    (compiled : test? comparison operand ignoreCase = some test) :
    verdict? patterns ignoreCase doc (.array [.string field, .string comparison.name, operand]) =
      some (Predicate.fieldHolds patterns ((Value.object doc).get? field) test) := by
  have read := Filter.read?_compare field comparison.name comparison operand rfl
  have condition : ofFilter? ignoreCase (.compare field comparison operand) =
      some ⟨[(field, test)], [field]⟩ := by
    rw [ofFilter?, compiled, Option.map_some, onField, DatePart.matchName, undated]
    rfl
  rw [verdict?, ofValue?, read, Option.bind_some, condition, Option.map_some,
    Predicate.holds_field _ _ _ _ undollared]

section Pattern

variable (comparison : Comparison) (pattern : String)
  (spelled : test? comparison operand ignoreCase = some (patternTest pattern ignoreCase))
include spelled

theorem verdict_pattern :
    verdict? patterns ignoreCase doc (.array [.string field, .string comparison.name, operand]) =
      some (Predicate.matchesPattern patterns (((Value.object doc).get? field).getD .null)
        (.string pattern) (if ignoreCase then "i" else "")) := by
  rw [verdict_stored patterns ignoreCase field operand doc undollared undated comparison _ spelled,
    Predicate.fieldHolds_pattern]

theorem verdict_textless
    (textless : (((Value.object doc).get? field).getD .null).string? = none) :
    verdict? patterns ignoreCase doc (.array [.string field, .string comparison.name, operand]) =
      some (.ok false) := by
  rw [verdict_pattern patterns ignoreCase field operand doc undollared undated comparison pattern
    spelled, Predicate.matchesPattern_textless _ _ _ _ textless]

end Pattern

variable (text : String) (stored : (Value.object doc).get? field = some (.string text))
include stored

theorem verdict_bare (comparison : Comparison) (pattern : String)
    (spelled : test? comparison operand ignoreCase = some (patternTest pattern ignoreCase))
    (bare : ¬ Predicate.IsAbsence pattern) :
    verdict? patterns ignoreCase doc (.array [.string field, .string comparison.name, operand]) =
      some ((Predicate.compilePattern patterns pattern ignoreCase).map fun test => test text) := by
  rw [verdict_pattern patterns ignoreCase field operand doc undollared undated comparison pattern
    spelled, stored, Option.getD_some, Predicate.matchesPattern_bare _ _ _ _
    (Predicate.absenceOf?_bare pattern bare), options_case]

theorem verdict_absence :
    verdict? patterns ignoreCase doc (.array [.string field, .string "notcontains", operand]) =
      some ((Predicate.compilePattern patterns (operandText operand) ignoreCase).map
        fun test => !test text) := by
  rw [show "notcontains" = Comparison.notContains.name from rfl,
    verdict_pattern patterns ignoreCase field operand doc undollared undated .notContains
      (Predicate.absence (operandText operand)) rfl, stored, Option.getD_some,
    Predicate.matchesPattern_absence, options_case]

end Stored

/-- Presence and absence of a pattern in a stored field: they are refused together, a text matches
exactly one of them, and no other value matches either. The operand must not be spelled like an
absence itself, for then its presence would be read as the absence of something else. -/
theorem notContains_opposes (undollared : Text.startsWithDollar field = false)
    (undated : DatePart.ofName? field = none)
    (bare : ¬ Predicate.IsAbsence (operandText operand)) :
    ∃ present absent,
      verdict? patterns ignoreCase doc (.array [.string field, .string "contains", operand]) =
        some present ∧
      verdict? patterns ignoreCase doc (.array [.string field, .string "notcontains", operand]) =
        some absent ∧
      (∀ fault, absent = .error fault ↔ present = .error fault) ∧
      (∀ text, (Value.object doc).get? field = some (.string text) →
        present = (Predicate.compilePattern patterns (operandText operand) ignoreCase).map
          (fun test => test text) ∧
        ∀ found lacking, present = .ok found → absent = .ok lacking → lacking = !found) ∧
      ((∀ text, (Value.object doc).get? field ≠ some (.string text)) →
        present = .ok false ∧ absent = .ok false) := by
  -- a text is tested with one compiled pattern either way, and nothing else is tested at all
  by_cases texts : ∃ text, (Value.object doc).get? field = some (.string text)
  · obtain ⟨text, stored⟩ := texts
    refine ⟨_, _, verdict_bare patterns ignoreCase field operand doc undollared undated text stored
      .contains _ rfl bare, verdict_absence patterns ignoreCase field operand doc undollared undated
      text stored, ?_, ?_, fun textless => absurd stored (textless text)⟩
    · intro fault
      cases Predicate.compilePattern patterns (operandText operand) ignoreCase <;> simp [Except.map]
    · intro other storedToo
      obtain rfl := Value.string.inj (Option.some.inj (stored.symm.trans storedToo))
      refine ⟨rfl, fun found lacking presence absence => ?_⟩
      cases compiled : Predicate.compilePattern patterns (operandText operand) ignoreCase with
      | error fault =>
          rw [compiled] at presence
          contradiction
      | ok test =>
          rw [compiled] at presence absence
          rw [← Except.ok.inj presence, ← Except.ok.inj absence]
  · have textless : (((Value.object doc).get? field).getD .null).string? = none := by
      cases found : (Value.object doc).get? field with
      | none => rfl
      | some value =>
          cases value with
          | string text => exact absurd ⟨text, found⟩ texts
          | _ => rfl
    have matchless (comparison : Comparison) (pattern : String) (spelled) :=
      verdict_textless patterns ignoreCase field operand doc undollared undated comparison pattern
        spelled textless
    exact ⟨_, _, matchless .contains _ rfl, matchless .notContains _ rfl, fun fault => Iff.rfl,
      fun text stored => absurd ⟨text, stored⟩ texts, fun _ => ⟨rfl, rfl⟩⟩

def roomTwelve : Document := [("place", .object [("name", .string "Room 12")])]

/-- A number is searched by its digits, and the beginning of an absence is refused by both. -/
theorem notContains_opposes_room :
    verdict? Pattern.compile false roomTwelve
        (.array [.string "place.name", .string "contains", .int 12]) = some (.ok true) ∧
      verdict? Pattern.compile false roomTwelve
        (.array [.string "place.name", .string "notcontains", .int 12]) = some (.ok false) ∧
      ∃ fault,
        verdict? Pattern.compile false roomTwelve
          (.array [.string "place.name", .string "contains", .string "^((?!1"]) =
            some (.error fault) ∧
        verdict? Pattern.compile false roomTwelve
          (.array [.string "place.name", .string "notcontains", .string "^((?!1"]) =
            some (.error fault) := by
  have opposed (operand : Value) := notContains_opposes Pattern.compile false "place.name" operand
    roomTwelve (by decide) (by decide)
  obtain ⟨present, absent, presence, absence, refused, onText, _⟩ := opposed (.int 12) (by decide)
  obtain ⟨found, opposite⟩ := onText "Room 12" (by decide)
  have finds : present = .ok true := by
    rw [found]
    decide +kernel
  have lacks : absent = .ok false := by
    cases absent with
    | error fault => simp [finds] at refused
    | ok lacking => rw [opposite true lacking finds rfl]; rfl
  obtain ⟨present', absent', presence', absence', refused', onText', _⟩ :=
    opposed (.string "^((?!1") (by decide)
  obtain ⟨found', _⟩ := onText' "Room 12" (by decide)
  have refuses : ∃ fault, present' = .error fault := by
    rw [found']
    exact ⟨_, rfl⟩
  obtain ⟨fault, failed⟩ := refuses
  exact ⟨presence.trans (congrArg some finds), absence.trans (congrArg some lacks), fault,
    presence'.trans (congrArg some failed), absence'.trans (congrArg some ((refused' fault).mpr failed))⟩

end Condition

end DataGrid
