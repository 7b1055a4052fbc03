import DataGrid.Filter.Reader
/-!
The array spelling of filters and its reading. A name in the spelling may be written in any letter
case, and an array may stand in arrays of its own. The shapes of the spelling overlap, and some trees
are spelled like others: a chain needs a second operand to be told from it, and an operand of an
and-chain that is only the word "and" is taken for a token. Every other tree is read back from each of
its spellings. An array that mixes the connectives is read as nothing.
-/
namespace DataGrid

namespace Text

/-- Words that differ in the case of their ASCII letters at most. -/
def SameLetters (word other : String) : Prop :=
  word.toList.map Char.toLower = other.toList.map Char.toLower

instance (word other : String) : Decidable (SameLetters word other) :=
  inferInstanceAs (Decidable (_ = _))

theorem lower_of_ascii (word : String) (ascii : '\u212a' ∉ word.toList.map Char.toLower) :
    lower word = String.ofList (word.toList.map Char.toLower) := by
  have each : ∀ c ∈ word.toList, lowerLetter c = c.toLower := by
    intro c member
    refine if_neg fun kelvin => ascii (List.mem_map.mpr ⟨c, member, ?_⟩)
    rw [kelvin]
    rfl
  rw [lower, List.map_congr_left each]

theorem lower_of_sameLetters (word name : String) (same : SameLetters word name)
    (ascii : '\u212a' ∉ name.toList.map Char.toLower) : lower word = lower name := by
  rw [lower_of_ascii name ascii, lower_of_ascii word (same ▸ ascii), same]

end Text

open Text (SameLetters)

namespace Comparison

variable (comparison : Comparison) (token : String) (named : SameLetters token comparison.name)
include named

theorem lower_token : Text.lower token = Text.lower comparison.name :=
  Text.lower_of_sameLetters token _ named (by cases comparison <;> decide)

theorem ofName?_token : ofName? token = some comparison := by
  rw [ofName?, lower_token comparison token named]
  cases comparison <;> rfl

theorem no_connective : Connective.ofName? token = none := by
  rw [Connective.ofName?, lower_token comparison token named]
  cases comparison <;> rfl

end Comparison

namespace Connective

theorem ofName?_token (connective : Connective) (token : String)
    (named : SameLetters token connective.name) : ofName? token = some connective := by
  have lower := Text.lower_of_sameLetters token _ named (by cases connective <;> decide)
  rw [ofName?, lower]
  cases connective <;> rfl

theorem isAnd_token (connective : Connective) (token : String)
    (named : SameLetters token connective.name) (isAnd : Chain.isAnd (.string token) = true) :
    connective = .and := by
  have same : token = "and" := Value.string.inj (of_decide_eq_true isAnd)
  rw [same] at named
  cases connective with
  | and => rfl
  | or => exact absurd named (by decide)

end Connective

namespace Filter

mutual

/-- The values that spell a filter. -/
inductive Spells : Filter → Value → Prop
  | truth (field : String) : Spells (.truth field) (.string field)
  | not (inner : Filter) (value : Value) (below : Spells inner value) :
      Spells (.not inner) (.array [.string "!", value])
  | compare (field token : String) (comparison : Comparison) (operand : Value)
      (named : SameLetters token comparison.name) :
      Spells (.compare field comparison operand) (.array [.string field, .string token, operand])
  | chain (connective : Connective) (operands : List Filter) (elements : List Value)
      (joined : Joins connective operands elements) :
      Spells (.chain connective operands) (.array elements)
  | wrapped (filter : Filter) (elements : List Value) (inside : Spells filter (.array elements)) :
      Spells filter (.array [.array elements])

/-- Spelled operands with a token of the connective between every two of them. -/
inductive Joins : Connective → List Filter → List Value → Prop
  | last (connective : Connective) (operand : Filter) (value : Value)
      (spelled : Spells operand value) : Joins connective [operand] [value]
  | next (connective : Connective) (operand : Filter) (value : Value) (token : String)
      (rest : List Filter) (elements : List Value) (spelled : Spells operand value)
      (named : SameLetters token connective.name) (joined : Joins connective rest elements) :
      Joins connective (operand :: rest) (value :: .string token :: elements)

end

def isTruthOf (word : String) : Filter → Bool
  | .truth field => field == word
  | _ => false

mutual

/-- Whether a filter can be told from others by its spelling: every chain has a second operand, and
none joined by "and" has that word for an operand. -/
def isDistinct : Filter → Bool
  | .truth _ | .compare _ _ _ => true
  | .not inner => isDistinct inner
  | .chain connective operands =>
      decide (2 ≤ operands.length) &&
        !(connective == .and && operands.any (isTruthOf "and")) && areDistinct operands

def areDistinct : List Filter → Bool
  | [] => true
  | operand :: rest => isDistinct operand && areDistinct rest

end

theorem readEach_eq (elements : List Value) : readEach elements = elements.map read? := by
  induction elements with
  | nil => rfl
  | cons element rest ih => rw [readEach, ih, List.map_cons]

section Shapes

variable {connective : Connective} {operands : List Filter} {elements : List Value}

/-- Only the truth of a field is spelled by anything but an array. -/
theorem spells_array (filter : Filter) (value : Value) (spells : Spells filter value) :
    value.isArray = true ∨ ∃ field, filter = .truth field ∧ value = .string field := by
  cases spells with
  | truth field => exact Or.inr ⟨field, rfl, rfl⟩
  | _ => exact Or.inl rfl

theorem joins_length (joined : Joins connective operands elements) :
    elements.length + 1 = 2 * operands.length := by
  induction operands generalizing elements with
  | nil => nomatch joined
  | cons operand rest ih =>
      cases joined with
      | last => rfl
      | next _ _ value token _ elements spelled named joined =>
          have shorter := ih joined
          simp only [List.length_cons]
          omega

theorem joins_tokens (joined : Joins connective operands elements) :
    (tokens elements).all (fun token => Connective.ofValue? token == some connective) = true := by
  induction operands generalizing elements with
  | nil => nomatch joined
  | cons operand rest ih =>
      cases joined with
      | last => rfl
      | next _ _ value token _ elements spelled named joined =>
          rw [tokens, List.all_cons, ih joined, Bool.and_true]
          exact beq_iff_eq.mpr (connective.ofName?_token token named)

/-- A chain of arrays and tokens only is complete, unless one of its operands looks like a token. -/
theorem joins_complete (joined : Joins .and operands elements)
    (told : operands.any (isTruthOf "and") = false)
    (uniform : elements.all (fun element => element.isArray || Chain.isAnd element) = true) :
    Chain.isComplete elements = true := by
  -- an operand could pass for a token only if it were the word itself
  have operandArray (operand : Filter) (value : Value) (spelled : Spells operand value)
      (other : isTruthOf "and" operand = false)
      (either : (value.isArray || Chain.isAnd value) = true) : value.isArray = true := by
    rcases spells_array operand value spelled with array | ⟨field, rfl, rfl⟩
    · exact array
    · have same : field = "and" := Value.string.inj (of_decide_eq_true either)
      rw [same] at other
      contradiction
  induction operands generalizing elements with
  | nil => nomatch joined
  | cons operand rest ih =>
      rw [List.any_cons, Bool.or_eq_false_iff] at told
      cases joined with
      | last _ _ value spelled =>
          rw [List.all_cons, Bool.and_eq_true] at uniform
          exact operandArray operand value spelled told.1 uniform.1
      | next _ _ value token _ elements spelled named joined =>
          simp only [List.all_cons, Bool.and_eq_true] at uniform
          obtain ⟨first, second, later⟩ := uniform
          rw [Chain.isComplete, operandArray operand value spelled told.1 first, ih joined told.2 later]
          simpa [Value.isArray] using second

/-- No spelled chain is taken for one in which tokens were left out. -/
theorem joins_whole (joined : Joins connective operands elements) (several : 2 ≤ operands.length)
    (told : ¬ (connective = .and ∧ operands.any (isTruthOf "and") = true)) :
    Chain.isIncomplete elements = false := by
  cases joined with
  | last => simp at several
  | next _ operand value token rest elements spelled named later =>
      refine Bool.eq_false_iff.mpr fun incomplete => ?_
      simp only [Chain.isIncomplete, Bool.and_eq_true, Bool.not_eq_true'] at incomplete
      obtain ⟨⟨_, uniform⟩, broken⟩ := incomplete
      have second : Chain.isAnd (.string token) = true := by
        simp only [List.all_cons, Bool.and_eq_true] at uniform
        simpa [Value.isArray] using uniform.2.1
      obtain rfl := connective.isAnd_token token named second
      have whole := joins_complete (.next _ operand value token rest elements spelled named later)
        (by simpa using told) uniform
      rw [whole] at broken
      contradiction

end Shapes

section Reading

theorem read?_array (elements : List Value) :
    read? (.array elements) = ofElements? elements (elements.map read?) := by
  rw [read?, readEach_eq]

theorem read?_wrapped (elements : List Value) :
    read? (.array [.array elements]) = read? (.array elements) := by
  rw [read?_array]
  rfl

theorem read?_not (value : Value) :
    read? (.array [.string "!", value]) = (read? value).map .not := by
  rw [read?_array]
  rfl

/-- A longer array of odd length is read from its second element, unless tokens were left out. -/
theorem read?_odd (first second third : Value) (rest : List Value) (odd : rest.length % 2 = 0)
    (whole : Chain.isIncomplete (first :: second :: third :: rest) = false) :
    read? (.array (first :: second :: third :: rest)) =
      ofOdd? (first :: second :: third :: rest)
        ((first :: second :: third :: rest).map read?) := by
  have long : (decide ((first :: second :: third :: rest).length ≥ 3) &&
      (first :: second :: third :: rest).length % 2 == 1) = true := by
    simp only [List.length_cons, Bool.and_eq_true, decide_eq_true_eq, beq_iff_eq]
    omega
  rw [read?_array]
  unfold ofElements?
  split
  · rename_i short _
    simp at short
  · rename_i short _
    simp at short
  · rw [whole, if_neg Bool.false_ne_true, if_pos long]

theorem read?_compare (field token : String) (comparison : Comparison) (operand : Value)
    (named : SameLetters token comparison.name) :
    read? (.array [.string field, .string token, operand]) =
      some (.compare field comparison operand) := by
  rw [read?_odd _ _ _ [] rfl rfl]
  simp only [ofOdd?, comparison.no_connective token named, comparison.ofName?_token token named,
    Option.map_some]

theorem chainOf?_some (connective : Connective) (inner : List Filter) (filled : inner ≠ []) :
    chainOf? connective (inner.map some) = some (.chain connective inner) := by
  have kept : (inner.map some).filterMap id = inner := by
    rw [List.filterMap_map]
    exact List.filterMap_some
  rw [chainOf?, kept]
  cases inner with
  | nil => contradiction
  | cons first rest => rfl

theorem read?_joined (connective : Connective) (inner : List Filter) (elements : List Value)
    (joined : Joins connective inner elements) (several : 2 ≤ inner.length)
    (told : ¬ (connective = .and ∧ inner.any (isTruthOf "and") = true))
    (each : operands (elements.map read?) = inner.map some) :
    read? (.array elements) = some (.chain connective inner) := by
  have size := joins_length joined
  have agree := joins_tokens joined
  have whole := joins_whole joined several told
  cases joined with
  | last => simp at several
  | next _ operand value token rest others spelled named later =>
      cases others with
      | nil => nomatch later
      | cons third more =>
          -- a token between every two operands makes the length odd
          rw [read?_odd _ _ _ more (by simp only [List.length_cons] at size; omega) whole]
          simp only [ofOdd?, connective.ofName?_token token named, agree, if_true]
          rw [each]
          exact chainOf?_some connective _ (List.cons_ne_nil _ _)

mutual

/-- A filter is read back from each of its spellings. -/
theorem read?_spelled : ∀ (filter : Filter) (value : Value), Spells filter value →
    isDistinct filter = true → read? value = some filter
  | _, _, .truth field, _ => by rw [read?]
  | _, _, .not inner value below, told => by
      rw [read?_not, read?_spelled inner value below told]
      rfl
  | _, _, .compare field token comparison operand named, _ =>
      read?_compare field token comparison operand named
  | _, _, .chain connective operands elements joined, told => by
      simp only [isDistinct, Bool.and_eq_true, decide_eq_true_eq, Bool.not_eq_true'] at told
      refine read?_joined connective operands elements joined told.1.1 ?_
        (operands_joined connective operands elements joined told.2)
      rintro ⟨rfl, taken⟩
      simp [taken] at told
  | filter, _, .wrapped _ elements inside, told => by
      rw [read?_wrapped]
      exact read?_spelled filter _ inside told

theorem operands_joined : ∀ (connective : Connective) (inner : List Filter)
    (elements : List Value), Joins connective inner elements → areDistinct inner = true →
      operands (elements.map read?) = inner.map some
  | _, _, _, .last _ operand value spelled, told => by
      rw [areDistinct, Bool.and_eq_true] at told
      rw [List.map_singleton, read?_spelled operand value spelled told.1]
      rfl
  | _, _, _, .next connective operand value token rest elements spelled _ joined, told => by
      rw [areDistinct, Bool.and_eq_true] at told
      rw [List.map_cons, List.map_cons, operands, read?_spelled operand value spelled told.1,
        operands_joined connective rest elements joined told.2, List.map_cons]

end

/-- No two filters that can be told apart share a spelling. -/
theorem spells_unique (filter other : Filter) (value : Value) (spells : Spells filter value)
    (again : Spells other value) (told : filter.isDistinct = true) (toldToo : other.isDistinct = true) :
    filter = other :=
  Option.some.inj ((read?_spelled filter value spells told).symm.trans
    (read?_spelled other value again toldToo))

end Reading

section Writing

mutual

/-- The spelling of a filter in its plainest form. -/
def toValue : Filter → Value
  | .truth field => .string field
  | .not inner => .array [.string "!", toValue inner]
  | .compare field comparison operand =>
      .array [.string field, .string comparison.name, operand]
  | .chain connective operands => .array (toElements connective operands)

def toElements (connective : Connective) : List Filter → List Value
  | [] => []
  | [operand] => [toValue operand]
  | operand :: next :: rest =>
      toValue operand :: .string connective.name :: toElements connective (next :: rest)

end

mutual

theorem spells_toValue : ∀ filter : Filter, isDistinct filter = true → Spells filter (toValue filter)
  | .truth field, _ => .truth field
  | .not inner, told => .not inner _ (spells_toValue inner told)
  | .compare field comparison operand, _ => .compare field comparison.name comparison operand rfl
  | .chain connective operands, told => by
      simp only [isDistinct, Bool.and_eq_true, decide_eq_true_eq] at told
      refine .chain connective operands _ (joins_toElements connective operands ?_ told.2)
      rintro rfl
      simp at told

theorem joins_toElements (connective : Connective) : ∀ operands : List Filter, operands ≠ [] →
    areDistinct operands = true → Joins connective operands (toElements connective operands)
  | [], filled, _ => absurd rfl filled
  | [operand], _, told => by
      rw [areDistinct, Bool.and_eq_true] at told
      exact .last connective operand _ (spells_toValue operand told.1)
  | operand :: next :: rest, _, told => by
      rw [areDistinct, Bool.and_eq_true] at told
      exact .next connective operand _ _ _ _ (spells_toValue operand told.1) rfl
        (joins_toElements connective (next :: rest) (List.cons_ne_nil next rest) told.2)

end

/-- A value in so many arrays of one element. -/
def wrap (value : Value) : Nat → Value
  | 0 => value
  | depth + 1 => .array [wrap value depth]

theorem spells_wrap (filter : Filter) (value : Value) (spells : Spells filter value)
    (array : value.isArray = true) (depth : Nat) :
    Spells filter (wrap value depth) ∧ (wrap value depth).isArray = true := by
  induction depth with
  | zero => exact ⟨spells, array⟩
  | succ depth ih =>
      obtain ⟨inside, isArray⟩ := ih
      rw [wrap]
      cases inner : wrap value depth with
      | array elements =>
          rw [inner] at inside
          exact ⟨.wrapped filter elements inside, rfl⟩
      | _ =>
          rw [inner] at isArray
          contradiction

end Writing

section Mixing

/-- An array of odd length whose second element is a token, and which has a token of the other
connective where tokens stand. -/
def Mixes (elements : List Value) : Prop :=
  3 ≤ elements.length ∧ elements.length % 2 = 1 ∧
    ∃ first other : Connective, first ≠ other ∧ ∃ token word : String,
      SameLetters token first.name ∧ elements[1]? = some (.string token) ∧
      SameLetters word other.name ∧ ∃ place, elements[2 * place + 1]? = some (.string word)

theorem mem_tokens {α : Type} (elements : List α) (place : Nat) (element : α)
    (found : elements[2 * place + 1]? = some element) : element ∈ tokens elements := by
  induction elements using tokens.induct generalizing place with
  | case1 => simp at found
  | case2 => simp at found
  | case3 operand token rest ih =>
      rw [tokens]
      cases place with
      | zero => exact List.mem_cons.mpr (Or.inl (Option.some.inj found).symm)
      | succ place => exact List.mem_cons_of_mem token (ih place found)

theorem read?_mixed (elements : List Value) (mixes : Mixes elements) :
    read? (.array elements) = none := by
  obtain ⟨long, odd, first, other, differ, token, word, named, second, spelled, place, found⟩ := mixes
  match elements with
  | [] | [_] | [_, _] => simp at long
  | operand :: _ :: third :: rest =>
      obtain rfl := Option.some.inj second
      -- one of the two tokens is no plain "and", so nothing was left out
      have whole : Chain.isIncomplete (operand :: .string token :: third :: rest) = false := by
        refine Bool.eq_false_iff.mpr fun incomplete => ?_
        simp only [Chain.isIncomplete, Bool.and_eq_true] at incomplete
        have plain := List.all_eq_true.mp incomplete.1.2
        have isAnd (text : String)
            (member : .string text ∈ operand :: .string token :: third :: rest) :
            Chain.isAnd (.string text) = true := by simpa [Value.isArray] using plain _ member
        have one := first.isAnd_token token named (isAnd token (by simp))
        have two := other.isAnd_token word spelled (isAnd word (List.mem_of_getElem? found))
        exact differ (one.trans two.symm)
      have clash : ¬ (tokens (operand :: .string token :: third :: rest)).all
          (fun token => Connective.ofValue? token == some first) = true := by
        intro agree
        have same := List.all_eq_true.mp agree _ (mem_tokens _ place _ found)
        rw [beq_iff_eq, Connective.ofValue?, Value.string?, Option.bind_some,
          other.ofName?_token word spelled] at same
        exact differ (Option.some.inj same).symm
      rw [read?_odd _ _ _ rest (by simp only [List.length_cons] at odd; omega) whole]
      simp only [ofOdd?, first.ofName?_token token named, if_neg clash]

end Mixing

/-- Conditions on fields that are named like tokens. -/
def tangled : Filter :=
  .not (.chain .or
    [.truth "and", .compare "or" .notContains (.array [.string "and"]),
      .chain .and [.truth "!", .compare "=" .equalsId .null, .truth "AND"]])

/-- Its spelling in odd letter case, with a spare array around one operand. -/
def tangledSpelling : Value :=
  .array [.string "!",
    .array
      [.string "and", .string "OR",
        .array [.array [.string "or", .string "NotContains", .array [.string "and"]]], .string "oR",
        .array [.string "!", .string "and", .array [.string "=", .string "EqualsObjectID", .null],
          .string "And", .string "AND"]]]

theorem spells_tangled : Spells tangled tangledSpelling := by
  have inner := Joins.next .and (.truth "!") _ "and" _ _ (.truth "!") (by decide)
    (.next .and (.compare "=" .equalsId .null) _ "And" _ _
      (.compare "=" "EqualsObjectID" .equalsId .null (by decide)) (by decide)
      (.last .and (.truth "AND") _ (.truth "AND")))
  exact .not _ _ (.chain .or _ _ (.next .or (.truth "and") _ "OR" _ _ (.truth "and") (by decide)
    (.next .or (.compare "or" .notContains (.array [.string "and"])) _ "oR" _ _
      (.wrapped _ _ (.compare "or" "NotContains" .notContains (.array [.string "and"]) (by decide)))
      (by decide) (.last .or _ _ (.chain .and _ _ inner)))))

/-- Reading of spelled filters. A filter that can be told apart is read back from each of its
spellings, of which it has one, and from those in further arrays around one that is an array. What
mixes the connectives is read as nothing, whatever its operands are. -/
theorem read?_spelling :
    (∀ filter : Filter, filter.isDistinct = true → Spells filter filter.toValue ∧
      ∀ value, Spells filter value → read? value = some filter ∧
        (value.isArray = true → ∀ depth, read? (wrap value depth) = some filter)) ∧
    ∀ elements, Mixes elements → read? (.array elements) = none := by
  refine ⟨fun filter told => ⟨spells_toValue filter told, fun value spells => ⟨?_, ?_⟩⟩, read?_mixed⟩
  · exact read?_spelled filter value spells told
  · intro array depth
    exact read?_spelled filter _ (spells_wrap filter value spells array depth).1 told

theorem read?_spelling_tangled :
    read? (wrap tangledSpelling 3) = some tangled ∧
      read? (.array [tangledSpelling, .string "And", .array [], .string "and", .null, .string "Or",
        .string "and"]) = none := by
  obtain ⟨spelled, mixed⟩ := read?_spelling
  refine ⟨((spelled tangled rfl).2 tangledSpelling spells_tangled).2 rfl 3, mixed _ ?_⟩
  exact ⟨by decide, by decide, .and, .or, by decide, "And", "Or", by decide, rfl, by decide, 2, rfl⟩

end Filter

end DataGrid
