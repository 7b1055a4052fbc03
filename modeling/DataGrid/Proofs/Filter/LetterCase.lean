import DataGrid.Filter.Condition
import DataGrid.Proofs.Filter.Chain
/-!
The letter case of the tokens of a chain. A connective is known in any letter case, but a chain waits
for a repair only where its tokens are the plain word "and". So a token between two conditions may be
respelled wherever that changes nothing about repairs: the filter compiles as before. Where a chain
with tokens left out loses its plain word, it is not repaired any more and sets no condition.
-/
namespace DataGrid

open Text (SameLetters)

namespace Chain

/-- What a repair looks at: conditions, tokens, and anything else. -/
def shape (value : Value) : Value :=
  if value.isArray then .array [] else if isAnd value then andToken else .null

theorem isArray_shape (value : Value) : (shape value).isArray = value.isArray := by
  unfold shape
  cases value.isArray with
  | true => rfl
  | false => cases isAnd value <;> rfl

theorem isAnd_shape (value : Value) : isAnd (shape value) = isAnd value := by
  unfold shape
  cases array : value.isArray with
  | true =>
      cases value with
      | array items => rfl
      | _ => contradiction
  | false => cases isAnd value <;> rfl

theorem normalize_shape (values : List Value) :
    normalize (values.map shape) = (normalize values).map shape := by
  induction values using normalize.induct with
  | case1 => rfl
  | case2 => rfl
  | case3 value next rest both ih =>
      have shaped : ((shape value).isArray && (shape next).isArray) = true := by
        rw [isArray_shape, isArray_shape, both]
      rw [normalize, if_pos both, List.map_cons, List.map_cons, normalize, if_pos shaped,
        ← List.map_cons, ih]
      rfl
  | case4 value next rest apart ih =>
      have shaped : ¬ ((shape value).isArray && (shape next).isArray) = true := by
        rwa [isArray_shape, isArray_shape]
      rw [normalize, if_neg apart, List.map_cons, List.map_cons, normalize, if_neg shaped,
        ← List.map_cons, ih]
      rfl

theorem complete_shape (values : List Value) :
    isComplete (values.map shape) = isComplete values := by
  induction values using isComplete.induct with
  | case1 => rfl
  | case2 value => exact isArray_shape value
  | case3 value token rest ih =>
      rw [List.map_cons, List.map_cons, isComplete, isArray_shape, isAnd_shape, ih, isComplete]

theorem incomplete_uniform (elements : List Value) (incomplete : isIncomplete elements = true) :
    (∃ first second rest, elements = first :: second :: rest ∧ first.isArray = true) ∧
      ∀ element ∈ elements, (element.isArray || isAnd element) = true := by
  unfold isIncomplete at incomplete
  split at incomplete
  · simp only [Bool.and_eq_true] at incomplete
    exact ⟨⟨_, _, _, rfl, incomplete.1.1⟩, List.all_eq_true.mp incomplete.1.2⟩
  · contradiction

/-- Chains that wait for a repair and have their conditions at the same places are both made whole, or
neither is. -/
theorem complete_repaired (elements others : List Value) (incomplete : isIncomplete elements = true)
    (incompleteToo : isIncomplete others = true)
    (same : elements.map Value.isArray = others.map Value.isArray) :
    isComplete (normalize elements) = isComplete (normalize others) := by
  have shaped (values : List Value) (incomplete : isIncomplete values = true) :
      values.map shape =
        (values.map Value.isArray).map fun array => if array then .array [] else andToken := by
    rw [List.map_map]
    refine List.map_congr_left fun value member => ?_
    have either := (incomplete_uniform values incomplete).2 value member
    cases array : value.isArray <;> simp_all [shape]
  rw [← complete_shape (normalize elements), ← complete_shape (normalize others), ← normalize_shape,
    ← normalize_shape, shaped elements incomplete, shaped others incompleteToo, same]

/-- Where no condition stands in the place of a token, a repair has nothing to put in. -/
theorem complete_parted (elements : List Value) (complete : isComplete (normalize elements) = true)
    (parted : ∀ token ∈ Filter.tokens elements, token.isArray = false) : isComplete elements = true := by
  -- a condition and its token at a time: the token is no condition, so nothing is put in on either side
  induction elements using Filter.tokens.induct with
  | case1 => contradiction
  | case2 => exact complete
  | case3 condition token rest ih =>
      rw [Filter.tokens, List.forall_mem_cons] at parted
      obtain ⟨plain, later⟩ := parted
      cases rest with
      | nil =>
          rw [normalize, plain, Bool.and_false, if_neg Bool.false_ne_true] at complete
          exact complete
      | cons next rest =>
          rw [normalize, plain, Bool.and_false, if_neg Bool.false_ne_true, normalize, plain,
            Bool.false_and, if_neg Bool.false_ne_true, isComplete, Bool.and_eq_true] at complete
          rw [isComplete, complete.1, ih complete.2 later]
          rfl

end Chain

namespace Filter

open Chain

/-- Lists of which the members are related one by one, or are tokens of one connective that stand
between two conditions. -/
inductive Respelled (below : Value → Value → Prop) : List Value → List Value → Prop
  | nil : Respelled below [] []
  | element (value other : Value) (rest others : List Value) (inside : below value other)
      (later : Respelled below rest others) : Respelled below (value :: rest) (other :: others)
  | token (value other next : Value) (word wanted : String) (connective : Connective)
      (rest others : List Value) (between : value.isArray = true ∧ next.isArray = true)
      (named : SameLetters word connective.name) (again : SameLetters wanted connective.name)
      (inside : below value other) (later : Respelled below (next :: rest) others) :
      Respelled below (value :: .string word :: next :: rest) (other :: .string wanted :: others)

/-- A field, a text that is no connective, and an operand, which is not searched for filters. -/
def Compares (elements : List Value) : Prop :=
  ∃ field operator operand, elements = [.string field, .string operator, operand] ∧
    Connective.ofName? operator = none

/-- Values that are the same but for the letter case of tokens, in arrays where a change is
allowed. -/
inductive Recased (allowed : List Value → List Value → Prop) : Value → Value → Prop
  | same (value : Value) : Recased allowed value value
  | array (elements others : List Value) (searched : ¬ Compares elements)
      (may : allowed elements others) (inside : Respelled (Recased allowed) elements others) :
      Recased allowed (.array elements) (.array others)

/-- Both lists wait for a repair, or neither does. -/
def RepairedAlike (elements others : List Value) : Prop :=
  isIncomplete elements = isIncomplete others

/-- Values that are told apart by nothing that the reading of an array looks at. -/
structure ReadAlike (value other : Value) : Prop where
  read : read? value = read? other
  array : value.isArray = other.isArray
  text : value.string? = other.string?

section Lists

variable {below : Value → Value → Prop} {elements others : List Value}

/-- What does not depend on the spelling of a connective is the same along both lists. -/
theorem map_respelled {α : Type} (f : Value → α)
    (alike : ∀ value other, below value other → f value = f other)
    (blind : ∀ (connective : Connective) (word wanted : String), SameLetters word connective.name →
      SameLetters wanted connective.name → f (.string word) = f (.string wanted))
    (respelled : Respelled below elements others) : elements.map f = others.map f := by
  induction respelled with
  | nil => rfl
  | element value other rest others inside later ih =>
      rw [List.map_cons, List.map_cons, alike value other inside, ih]
  | token value other next word wanted connective rest others between named again inside later ih =>
      rw [List.map_cons, List.map_cons, ih, alike value other inside,
        blind connective word wanted named again]
      rfl

theorem arrays_respelled (array : ∀ value other, below value other → value.isArray = other.isArray)
    (respelled : Respelled below elements others) :
    elements.map Value.isArray = others.map Value.isArray :=
  map_respelled Value.isArray array (fun _ _ _ _ _ => rfl) respelled

theorem connectives_respelled (respelled : Respelled ReadAlike elements others) :
    elements.map Connective.ofValue? = others.map Connective.ofValue? := by
  refine map_respelled _ ?_ ?_ respelled
  · intro value other alike
    rw [Connective.ofValue?, alike.text, Connective.ofValue?]
  · intro connective word wanted named again
    exact (connective.ofName?_token word named).trans (connective.ofName?_token wanted again).symm

theorem conditions_respelled (respelled : Respelled ReadAlike elements others) :
    (elements.filter Value.isArray).map read? = (others.filter Value.isArray).map read? := by
  -- where the conditions stand is the same in both lists, so dropping the rest is the last step
  have conditions : ∀ values : List Value, (values.filter Value.isArray).map read? =
      (values.map fun value => if value.isArray then some (read? value) else none).filterMap id := by
    intro values
    induction values with
    | nil => rfl
    | cons value rest ih =>
        cases array : value.isArray <;> simp [array, ih]
  rw [conditions, conditions]
  congr 1
  refine map_respelled _ ?_ (fun _ _ _ _ _ => rfl) respelled
  intro value other alike
  rw [alike.array, alike.read]

theorem tokens_map {α β : Type} (f : α → β) (values : List α) :
    tokens (values.map f) = (tokens values).map f := by
  induction values using tokens.induct with
  | case1 => rfl
  | case2 => rfl
  | case3 value token rest ih => rw [tokens, List.map_cons, List.map_cons, tokens, ih, List.map_cons]

theorem agree_respelled (connective : Connective)
    (respelled : Respelled ReadAlike elements others) :
    (tokens elements).all (fun token => Connective.ofValue? token == some connective) =
      (tokens others).all (fun token => Connective.ofValue? token == some connective) := by
  have agree : ∀ values : List Value,
      (tokens values).all (fun token => Connective.ofValue? token == some connective) =
        (tokens (values.map Connective.ofValue?)).all (· == some connective) := by
    intro values
    rw [tokens_map, List.all_map]
    rfl
  rw [agree, agree, connectives_respelled respelled]

/-- Where tokens stand between the operands, no operand is a token that was respelled: the values
beside it would be conditions, and no tokens. -/
theorem operands_respelled (connective : Connective) (respelled : Respelled ReadAlike elements others)
    (agree : (tokens elements).all (fun token => Connective.ofValue? token == some connective) = true) :
    operands (elements.map read?) = operands (others.map read?) := by
  induction elements using tokens.induct generalizing others with
  | case1 =>
      cases respelled
      rfl
  | case2 value =>
      cases respelled with
      | element _ other _ _ inside later =>
          cases later
          rw [List.map_singleton, List.map_singleton, inside.read]
  | case3 value token rest ih =>
      rw [tokens, List.all_cons, Bool.and_eq_true] at agree
      cases respelled with
      | element _ other _ _ inside later =>
          cases later with
          | element _ wanted _ _ beside later =>
              simp only [List.map_cons, operands, inside.read, ih later agree.2]
          | token _ _ _ _ _ _ _ _ between =>
              -- a condition is no token, so that it cannot stand here
              cases token with
              | array items => exact absurd agree.1 (by simp [Connective.ofValue?, Value.string?])
              | _ => exact absurd between.1 (by simp [Value.isArray])
      | token _ other _ _ _ _ _ _ _ _ _ inside later =>
          simp only [List.map_cons, operands, inside.read]
          congr 1
          exact ih later agree.2

end Lists

section Reading

theorem read?_single (value : Value) :
    read? (.array [value]) = if value.isArray then read? value else none := by
  cases value with
  | array items => exact read?_wrapped items
  | _ => simp [read?_array, ofElements?, isIncomplete, Value.isArray]

theorem read?_pair (first second : Value) (whole : isIncomplete [first, second] = false) :
    read? (.array [first, second]) =
      if first.string? = some "!" then (read? second).map .not else none := by
  by_cases bang : first = .string "!"
  · subst bang
    exact read?_not second
  · have other : ¬ first.string? = some "!" := by
      cases first <;> simp_all [Value.string?]
    rw [if_neg other, read?_array]
    unfold ofElements?
    split
    · rename_i same _
      simp at same
    · rename_i same _
      simp_all
    · rw [whole]
      rfl

theorem read?_even (elements : List Value) (long : 3 ≤ elements.length)
    (even : elements.length % 2 = 0) (whole : isIncomplete elements = false) :
    read? (.array elements) = none := by
  rw [read?_array]
  unfold ofElements?
  split
  · simp at even
  · simp at long
  · simp [whole, even]

/-- What is no comparison is a chain of the connective at its second place. -/
theorem ofOdd?_searched (elements : List Value) (inner : List (Option Filter))
    (searched : ¬ Compares elements) :
    ofOdd? elements inner = (elements.map Connective.ofValue?)[1]?.join.bind fun connective =>
      if (tokens elements).all fun token => Connective.ofValue? token == some connective then
        chainOf? connective (operands inner)
      else none := by
  unfold ofOdd?
  split
  · rename_i field operator rest
    have second : ((field :: .string operator :: rest).map Connective.ofValue?)[1]?.join =
        Connective.ofName? operator := rfl
    rw [second]
    cases named : Connective.ofName? operator with
    | some connective => rfl
    | none =>
        simp only [Option.bind_none]
        split
        · exact absurd ⟨_, _, _, rfl, named⟩ searched
        · rfl
  · rename_i other
    match elements with
    | [] | [_] => rfl
    | _ :: .string operator :: _ => exact absurd rfl (other _ _ _)
    | _ :: .null :: _ | _ :: .bool _ :: _ | _ :: .int _ :: _ | _ :: .double _ :: _
    | _ :: .array _ :: _ | _ :: .object _ :: _ => rfl

variable {elements others : List Value}

theorem searched_respelled (respelled : Respelled ReadAlike elements others)
    (searched : ¬ Compares elements) : ¬ Compares others := by
  rintro ⟨field, operator, operand, rfl, unknown⟩
  refine searched ?_
  have string (value : Value) (text : String) (alike : ReadAlike value (.string text)) :
      value = .string text := by
    have same := alike.text
    cases value <;> simp_all [Value.string?]
  -- neither of the texts in front is a token between two conditions
  cases respelled with
  | element _ _ _ _ first later =>
      obtain rfl := string _ _ first
      cases later with
      | element _ _ _ _ second later =>
          obtain rfl := string _ _ second
          cases later with
          | element value _ _ _ third later =>
              cases later
              exact ⟨field, operator, value, rfl, unknown⟩
      | token _ _ _ _ _ _ _ _ between _ _ inside =>
          obtain rfl := string _ _ inside
          exact absurd between.1 Bool.false_ne_true
  | token _ _ _ _ _ _ _ _ between _ _ inside =>
      obtain rfl := string _ _ inside
      exact absurd between.1 Bool.false_ne_true

theorem ofOdd?_respelled (respelled : Respelled ReadAlike elements others)
    (searched : ¬ Compares elements) :
    ofOdd? elements (elements.map read?) = ofOdd? others (others.map read?) := by
  rw [ofOdd?_searched _ _ searched, ofOdd?_searched _ _ (searched_respelled respelled searched),
    connectives_respelled respelled]
  congr 1
  funext connective
  rw [← agree_respelled connective respelled]
  by_cases agree :
      (tokens elements).all (fun token => Connective.ofValue? token == some connective) = true
  · rw [if_pos agree, if_pos agree, operands_respelled connective respelled agree]
  · rw [if_neg agree, if_neg agree]

theorem read?_whole (respelled : Respelled ReadAlike elements others)
    (searched : ¬ Compares elements) (whole : isIncomplete elements = false)
    (wholeToo : isIncomplete others = false) : read? (.array elements) = read? (.array others) := by
  have size : elements.length = others.length := by
    simpa using congrArg List.length (arrays_respelled (fun _ _ alike => alike.array) respelled)
  by_cases long : 3 ≤ elements.length
  · by_cases even : elements.length % 2 = 0
    · rw [read?_even elements long even whole, read?_even others (size ▸ long) (size ▸ even) wholeToo]
    · match elements, others with
      | first :: token :: next :: rest, other :: word :: behind :: more =>
          simp only [List.length_cons] at even size
          rw [read?_odd _ _ _ _ (by omega) whole, read?_odd _ _ _ _ (by omega) wholeToo]
          exact ofOdd?_respelled respelled searched
  · -- two elements at most have no token between them
    cases respelled with
    | nil => rfl
    | token => simp at long
    | element value other _ _ inside later =>
        cases later with
        | nil => rw [read?_single, read?_single, inside.array, inside.read]
        | token => simp at long
        | element second another _ _ beside later =>
            cases later with
            | nil => rw [read?_pair _ _ whole, read?_pair _ _ wholeToo, inside.text, beside.read]
            | _ => simp at long

/-- An array is read like its respelling, where both wait for a repair or neither does. -/
theorem read?_respelled (respelled : Respelled ReadAlike elements others)
    (searched : ¬ Compares elements) (same : RepairedAlike elements others) :
    read? (.array elements) = read? (.array others) := by
  cases incomplete : isIncomplete elements with
  | true =>
      have incompleteToo : isIncomplete others = true := same ▸ incomplete
      rw [read?_incomplete elements incomplete, read?_incomplete others incompleteToo,
        complete_repaired elements others incomplete incompleteToo
          (arrays_respelled (fun _ _ alike => alike.array) respelled),
        conditions_respelled respelled]
  | false => exact read?_whole respelled searched incomplete (same ▸ incomplete)

end Reading

section Recasing

variable {allowed : List Value → List Value → Prop}

mutual

theorem alike_recased (value other : Value) (recased : Recased RepairedAlike value other) :
    ReadAlike value other :=
  match recased with
  | .same _ => ⟨rfl, rfl, rfl⟩
  | .array elements others searched may inside =>
      ⟨read?_respelled (respelled_recased elements others inside) searched may, rfl, rfl⟩

theorem respelled_recased (elements others : List Value)
    (respelled : Respelled (Recased RepairedAlike) elements others) :
    Respelled ReadAlike elements others :=
  match respelled with
  | .nil => .nil
  | .element value other rest others inside later =>
      .element value other rest others (alike_recased value other inside)
        (respelled_recased rest others later)
  | .token value other next word wanted connective rest others between named again inside later =>
      .token value other next word wanted connective rest others between named again
        (alike_recased value other inside) (respelled_recased (next :: rest) others later)

end

theorem isArray_recased (value other : Value) (recased : Recased allowed value other) :
    value.isArray = other.isArray := by
  cases recased <;> rfl

/-- A condition in the place of a token spoils a chain that is not repaired. -/
theorem read?_unparted (items : List Value) (second : Value) (rest : List Value)
    (unparted : ¬ ∀ token ∈ tokens (.array items :: second :: rest), token.isArray = false)
    (whole : isIncomplete (.array items :: second :: rest) = false) :
    read? (.array (.array items :: second :: rest)) = none := by
  cases rest with
  | nil => exact (read?_pair _ _ whole).trans (if_neg (by simp [Value.string?]))
  | cons third rest =>
      by_cases even : (Value.array items :: second :: third :: rest).length % 2 = 0
      · exact read?_even _ (by simp) even whole
      · have searched : ¬ Compares (.array items :: second :: third :: rest) := by
          rintro ⟨field, operator, operand, same, _⟩
          simp at same
        simp only [List.length_cons] at even
        rw [read?_odd _ _ _ _ (by omega) whole, ofOdd?_searched _ _ searched]
        refine Option.bind_eq_none_iff.mpr fun connective _ => if_neg fun agree => unparted ?_
        intro token member
        have known := List.all_eq_true.mp agree token member
        cases token with
        | array inner => exact absurd known (by simp [Connective.ofValue?, Value.string?])
        | _ => rfl

/-- A chain with tokens left out that is respelled so that it does not wait for a repair has a
condition in the place of a token. -/
theorem read?_unrepaired (elements others : List Value)
    (respelled : Respelled (Recased allowed) elements others)
    (incomplete : isIncomplete elements = true) (repaired : isComplete (Chain.normalize elements) = true)
    (lost : isIncomplete others = false) : read? (.array others) = none := by
  have arrays := arrays_respelled isArray_recased respelled
  -- with a token at each place the chain would have been whole, and would not have waited
  have unparted : ¬ ∀ token ∈ tokens others, token.isArray = false := by
    intro parted
    have partedToo : ∀ token ∈ tokens elements, token.isArray = false := by
      have inside : ∀ array ∈ (tokens others).map Value.isArray, array = false := by simpa using parted
      rw [← tokens_map, ← arrays, tokens_map] at inside
      simpa using inside
    have whole := complete_whole elements (complete_parted elements repaired partedToo)
    rw [incomplete] at whole
    contradiction
  obtain ⟨_, _, _, rfl, array⟩ := (incomplete_uniform elements incomplete).1
  match others with
  | [] | [_] => simp at arrays
  | first :: second :: rest =>
      rw [List.map_cons, List.map_cons, array] at arrays
      cases first with
      | array items => exact read?_unparted items second rest unparted lost
      | _ => exact absurd (List.cons.inj arrays).1 (by simp [Value.isArray])

end Recasing

end Filter

namespace Condition

open DataGrid.Chain DataGrid.Filter

/-- Letter case of the tokens in a filter. A token between two conditions may be respelled at any
depth, and in whole chains as in those with tokens left out, as long as no array comes to wait for a
repair or ceases to: the filter compiles to the same condition, or to none as before. A chain with
tokens left out that is not repaired for its new spelling is no constraint. -/
theorem ofValue?_recased :
    (∀ value other, Recased RepairedAlike value other →
      ∀ ignoreCase, ofValue? ignoreCase value = ofValue? ignoreCase other) ∧
    ∀ allowed elements others, Respelled (Recased allowed) elements others →
      isIncomplete elements = true → isComplete (Chain.normalize elements) = true →
      isIncomplete others = false → ∀ ignoreCase, ofValue? ignoreCase (.array others) = none := by
  constructor
  · intro value other recased ignoreCase
    rw [ofValue?, (alike_recased value other recased).read, ofValue?]
  · intro allowed elements others respelled incomplete repaired lost ignoreCase
    rw [ofValue?, read?_unrepaired elements others respelled incomplete repaired lost]
    rfl

/-- The field has the number. -/
def isNumber (field : String) (number : Int) : Value :=
  .array [.string field, .string "=", .int number]

/-- Three conditions with a token between the last two of them only. -/
def threeTasks (word : String) : List Value :=
  [isNumber "a" 1, isNumber "b" 2, .string word, isNumber "c" 3]

theorem threeTasks_respelled (allowed : List Value → List Value → Prop) :
    Respelled (Recased allowed) (threeTasks "and") (threeTasks "AND") :=
  .element _ _ _ _ (.same _) <|
    .token _ _ _ "and" "AND" .and _ _ ⟨rfl, rfl⟩ (by decide) (by decide) (.same _) <|
      .element _ _ _ _ (.same _) .nil

/-- A chain in a chain. -/
def nestedTasks (word outer : String) : List Value :=
  [.array [isNumber "a" 1, .string word, isNumber "b" 2], .string outer, isNumber "c" 3]

theorem ofValue?_recased_nested :
    ofValue? true (.array (nestedTasks "And" "OR")) = ofValue? true (.array (nestedTasks "and" "or")) ∧
      ofValue? true (.array (threeTasks "AND")) = none := by
  have searched (first rest : List Value) : ¬ Compares (.array first :: rest) := by
    rintro ⟨field, operator, operand, same, _⟩
    simp at same
  have inside : Recased RepairedAlike (.array [isNumber "a" 1, .string "And", isNumber "b" 2])
      (.array [isNumber "a" 1, .string "and", isNumber "b" 2]) :=
    .array _ _ (searched _ _) rfl <|
      .token _ _ _ _ _ .and _ _ ⟨rfl, rfl⟩ (by decide) (by decide) (.same _)
        (.element _ _ _ _ (.same _) .nil)
  have outside : Recased RepairedAlike (.array (nestedTasks "And" "OR"))
      (.array (nestedTasks "and" "or")) :=
    .array _ _ (searched _ _) rfl <|
      .token _ _ _ _ _ .or _ _ ⟨rfl, rfl⟩ (by decide) (by decide) inside
        (.element _ _ _ _ (.same _) .nil)
  obtain ⟨same, lost⟩ := ofValue?_recased
  exact ⟨same _ _ outside true, lost _ _ _ (threeTasks_respelled fun _ _ => True) rfl rfl rfl true⟩

/-- Letter case does matter to a chain that waits for its tokens: it is repaired for the plain word
only, and every document is kept instead of those that meet the three conditions. -/
theorem recased_and_lost :
    ¬ ∀ value other,
      Recased (fun elements _ => elements.head?.any Value.isArray = true) value other →
      ∀ ignoreCase, ofValue? ignoreCase value = ofValue? ignoreCase other := by
  intro blind
  have searched : ¬ Compares (threeTasks "and") := by
    rintro ⟨field, operator, operand, same, _⟩
    simp [threeTasks] at same
  have same := blind _ _ (.array _ _ searched rfl (threeTasks_respelled _)) true
  exact absurd (congrArg Option.isSome same) (by decide)

end Condition

end DataGrid
