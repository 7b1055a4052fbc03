import DataGrid.Proofs.Filter.Spelling
import Mathlib.Data.List.Chain
/-!
And-chains in which tokens were left out. A chain with some of its tokens left out is made whole again
as it was before, and is read like it: the repair puts the tokens back where they stood, and its
outcome is no chain that would be repaired again. What is whole already, the repair leaves alone.
-/
namespace DataGrid

namespace Chain

/-- A list with the same conditions in the same order, and with some of what stands between them. -/
structure Thins (shortened chain : List Value) : Prop where
  part : shortened.Sublist chain
  conditions : shortened.filter Value.isArray = chain.filter Value.isArray

/-- The step of a reader that makes a chain whole before it goes on. -/
structure Repairs (elements repaired : List Value) : Prop where
  incomplete : isIncomplete elements = true
  filled : repaired = normalize elements
  complete : isComplete repaired = true

section Tokens

theorem isArray_token (token : Value) (isToken : isAnd token = true) : token.isArray = false := by
  rw [show token = andToken from of_decide_eq_true isToken]
  rfl

theorem complete_cons (chain : List Value) (complete : isComplete chain = true) :
    ∃ condition rest, chain = condition :: rest ∧ condition.isArray = true := by
  match chain with
  | [] => contradiction
  | [condition] => exact ⟨condition, [], rfl, complete⟩
  | condition :: token :: rest =>
      simp only [isComplete, Bool.and_eq_true] at complete
      exact ⟨condition, token :: rest, rfl, complete.1.1⟩

theorem complete_uniform (chain : List Value) (complete : isComplete chain = true) :
    ∀ element ∈ chain, (element.isArray || isAnd element) = true := by
  induction chain using isComplete.induct with
  | case1 => contradiction
  | case2 condition =>
      intro element member
      rw [List.mem_singleton.mp member, show condition.isArray = true from complete, Bool.true_or]
  | case3 condition token rest ih =>
      simp only [isComplete, Bool.and_eq_true] at complete
      obtain ⟨⟨array, isToken⟩, later⟩ := complete
      intro element member
      rcases List.mem_cons.mp member with rfl | behind
      · rw [array, Bool.true_or]
      · rcases List.mem_cons.mp behind with rfl | inRest
        · rw [isToken, Bool.or_true]
        · exact ih later element inRest

theorem complete_whole (chain : List Value) (complete : isComplete chain = true) :
    isIncomplete chain = false := by
  match chain with
  | [] => rfl
  | [_] => rfl
  | _ :: _ :: _ => simp [isIncomplete, complete]

end Tokens

section Thinning

variable {shortened chain : List Value}

theorem thins_nil (thins : Thins shortened []) : shortened = [] := List.sublist_nil.mp thins.part

theorem thins_condition (condition : Value) (array : condition.isArray = true)
    (thins : Thins shortened (condition :: chain)) :
    ∃ rest, shortened = condition :: rest ∧ Thins rest chain := by
  obtain ⟨part, conditions⟩ := thins
  rw [List.filter_cons_of_pos array] at conditions
  cases part with
  | cons _ without =>
      -- what is left would have a condition fewer
      have fewer := (without.filter Value.isArray).length_le
      rw [conditions, List.length_cons] at fewer
      omega
  | cons_cons _ part =>
      rw [List.filter_cons_of_pos array] at conditions
      exact ⟨_, rfl, part, (List.cons.inj conditions).2⟩

theorem thins_token (token : Value) (plain : token.isArray = false)
    (thins : Thins shortened (token :: chain)) :
    Thins shortened chain ∨ ∃ rest, shortened = token :: rest ∧ Thins rest chain := by
  have other : ¬ token.isArray = true := by simp [plain]
  obtain ⟨part, conditions⟩ := thins
  rw [List.filter_cons_of_neg other] at conditions
  cases part with
  | cons _ part => exact Or.inl ⟨part, conditions⟩
  | cons_cons _ part =>
      rw [List.filter_cons_of_neg other] at conditions
      exact Or.inr ⟨_, rfl, part, conditions⟩

end Thinning

section Normalizing

/-- The tokens that were left out are put back where they stood. -/
theorem normalize_thinned (chain shortened : List Value) (complete : isComplete chain = true)
    (thins : Thins shortened chain) : normalize shortened = chain := by
  induction chain using isComplete.induct generalizing shortened with
  | case1 => contradiction
  | case2 condition =>
      obtain ⟨rest, rfl, nothing⟩ := thins_condition condition complete thins
      rw [thins_nil nothing]
      rfl
  | case3 condition token rest ih =>
      simp only [isComplete, Bool.and_eq_true] at complete
      obtain ⟨⟨array, isToken⟩, later⟩ := complete
      have plain := isArray_token token isToken
      obtain ⟨tail, rfl, thinned⟩ := thins_condition condition array thins
      obtain ⟨next, more, rfl, nextArray⟩ := complete_cons rest later
      rcases thins_token token plain thinned with gone | ⟨kept, rfl, behind⟩
      · -- two conditions that have become neighbours are parted again
        obtain ⟨others, rfl, _⟩ := thins_condition next nextArray gone
        rw [normalize, array, nextArray, Bool.and_self, if_pos rfl, ih _ later gone,
          show token = andToken from of_decide_eq_true isToken]
      · obtain ⟨others, rfl, _⟩ := thins_condition next nextArray behind
        rw [normalize, plain, Bool.and_false, if_neg Bool.false_ne_true, normalize, plain,
          Bool.false_and, if_neg Bool.false_ne_true, ih _ later behind]

theorem conditions_normalize (elements : List Value) :
    (normalize elements).filter Value.isArray = elements.filter Value.isArray := by
  induction elements using normalize.induct with
  | case1 => rfl
  | case2 element => rfl
  | case3 element next rest both ih =>
      have array := (Bool.and_eq_true_iff.mp both).1
      rw [normalize, if_pos both, List.filter_cons_of_pos array, List.filter_cons_of_neg (by decide),
        ih, List.filter_cons_of_pos array]
  | case4 element next rest apart ih =>
      rw [normalize, if_neg apart, List.filter_cons, ih]
      exact List.filter_cons.symm

/-- The repair adds tokens and nothing else. -/
theorem thins_normalize (elements : List Value) : Thins elements (normalize elements) := by
  refine ⟨?_, (conditions_normalize elements).symm⟩
  induction elements using normalize.induct with
  | case1 => exact List.Sublist.refl []
  | case2 element => exact List.Sublist.refl [element]
  | case3 element next rest both ih =>
      rw [normalize, if_pos both]
      exact (ih.cons andToken).cons_cons element
  | case4 element next rest apart ih =>
      rw [normalize, if_neg apart]
      exact ih.cons_cons element

/-- No two conditions stand side by side. -/
def Parted (elements : List Value) : Prop :=
  elements.IsChain fun element next => (element.isArray && next.isArray) = false

theorem normalize_head (element : Value) (rest : List Value) :
    (normalize (element :: rest)).head? = some element := by
  cases rest with
  | nil => rfl
  | cons next rest =>
      rw [normalize]
      split <;> rfl

theorem parted_normalize (elements : List Value) : Parted (normalize elements) := by
  induction elements using normalize.induct with
  | case1 => exact List.isChain_nil
  | case2 element => exact List.isChain_singleton element
  | case3 element next rest both ih =>
      rw [normalize, if_pos both]
      refine List.isChain_cons_cons.mpr ⟨Bool.and_false _, List.isChain_cons.mpr ⟨?_, ih⟩⟩
      exact fun _ _ => rfl
  | case4 element next rest apart ih =>
      rw [normalize, if_neg apart]
      refine List.isChain_cons.mpr ⟨fun first found => ?_, ih⟩
      rw [normalize_head] at found
      rw [← Option.some.inj found]
      exact Bool.eq_false_iff.mpr apart

theorem normalize_parted (elements : List Value) (parted : Parted elements) :
    normalize elements = elements := by
  induction elements using normalize.induct with
  | case1 => rfl
  | case2 element => rfl
  | case3 element next rest both ih =>
      have apart := (List.isChain_cons_cons.mp parted).1
      rw [both] at apart
      contradiction
  | case4 element next rest apart ih =>
      rw [normalize, if_neg apart, ih (List.isChain_cons_cons.mp parted).2]

theorem normalize_normalize (elements : List Value) :
    normalize (normalize elements) = normalize elements :=
  normalize_parted _ (parted_normalize elements)

end Normalizing

/-- A chain with tokens left out of it waits for a repair, and gets it. -/
theorem repairs_thinned (chain shortened : List Value) (complete : isComplete chain = true)
    (thins : Thins shortened chain) : shortened = chain ∨ Repairs shortened chain := by
  have filled := normalize_thinned chain shortened complete thins
  by_cases whole : isComplete shortened = true
  · -- what is whole is its own repair, so nothing was left out
    refine Or.inl ?_
    have apart := normalize_thinned shortened shortened whole ⟨List.Sublist.refl _, rfl⟩
    exact apart.symm.trans filled
  · refine Or.inr ⟨?_, filled.symm, complete⟩
    obtain ⟨condition, tokens, rfl, array⟩ := complete_cons chain complete
    obtain ⟨rest, rfl, _⟩ := thins_condition condition array thins
    have uniform : (condition :: rest).all (fun element => element.isArray || isAnd element) = true :=
      List.all_eq_true.mpr fun element member =>
        complete_uniform _ complete element (thins.part.subset member)
    cases rest with
    | nil => exact absurd array whole
    | cons next rest =>
        rw [isIncomplete, array, uniform, Bool.eq_false_iff.mpr whole]
        rfl

theorem repairs_once (elements repaired again : List Value) (repairs : Repairs elements repaired) :
    ¬ Repairs repaired again := by
  intro more
  have incomplete := more.incomplete
  rw [complete_whole repaired repairs.complete] at incomplete
  contradiction

end Chain

namespace Filter

open Chain

theorem operands_complete (chain : List Value) (complete : isComplete chain = true) :
    operands (chain.map read?) = (chain.filter Value.isArray).map read? := by
  induction chain using isComplete.induct with
  | case1 => contradiction
  | case2 condition =>
      have array : condition.isArray = true := complete
      rw [List.filter_cons_of_pos array]
      rfl
  | case3 condition token rest ih =>
      simp only [isComplete, Bool.and_eq_true] at complete
      obtain ⟨⟨array, isToken⟩, later⟩ := complete
      have plain : ¬ token.isArray = true := by simp [isArray_token token isToken]
      rw [List.filter_cons_of_pos array, List.filter_cons_of_neg plain, List.map_cons, List.map_cons,
        operands, ih later, List.map_cons]

theorem conditions_read (elements : List Value) :
    conditions? elements (elements.map read?) = (elements.filter Value.isArray).map read? := by
  unfold conditions?
  induction elements with
  | nil => rfl
  | cons element rest ih =>
      cases array : element.isArray with
      | true =>
          rw [List.map_cons, List.zip_cons_cons, List.filter_cons_of_pos (by simpa using array),
            List.filter_cons_of_pos array, List.map_cons, List.map_cons, ih]
      | false =>
          rw [List.map_cons, List.zip_cons_cons, List.filter_cons_of_neg (by simp [array]),
            List.filter_cons_of_neg (by simp [array]), ih]

/-- A chain that waits for a repair is read by its conditions, if the repair makes it whole. -/
theorem read?_incomplete (elements : List Value) (incomplete : isIncomplete elements = true) :
    read? (.array elements) =
      if isComplete (normalize elements) then
        chainOf? .and ((elements.filter Value.isArray).map read?)
      else none := by
  rw [read?_array]
  unfold ofElements?
  split
  · contradiction
  · contradiction
  · rw [if_pos incomplete, conditions_read]

theorem tokens_complete (chain : List Value) (complete : isComplete chain = true) :
    (tokens chain).all (fun token => Connective.ofValue? token == some .and) = true := by
  induction chain using isComplete.induct with
  | case1 => contradiction
  | case2 condition => rfl
  | case3 condition token rest ih =>
      simp only [isComplete, Bool.and_eq_true] at complete
      obtain ⟨⟨_, isToken⟩, later⟩ := complete
      rw [tokens, List.all_cons, ih later, show token = andToken from of_decide_eq_true isToken]
      rfl

theorem length_complete (chain : List Value) (complete : isComplete chain = true) :
    chain.length % 2 = 1 := by
  induction chain using isComplete.induct with
  | case1 => contradiction
  | case2 condition => rfl
  | case3 condition token rest ih =>
      simp only [isComplete, Bool.and_eq_true] at complete
      have odd := ih complete.2
      simp only [List.length_cons]
      omega

theorem read?_complete (first token next : Value) (rest : List Value)
    (complete : isComplete (first :: token :: next :: rest) = true) :
    read? (.array (first :: token :: next :: rest)) =
      chainOf? .and (((first :: token :: next :: rest).filter Value.isArray).map read?) := by
  have odd := length_complete _ complete
  have agree := tokens_complete _ complete
  have isToken : isAnd token = true := by
    simp only [isComplete, Bool.and_eq_true] at complete
    exact complete.1.2
  simp only [List.length_cons] at odd
  rw [read?_odd _ _ _ rest (by omega) (complete_whole _ complete), ← operands_complete _ complete]
  obtain rfl : token = .string "and" := of_decide_eq_true isToken
  simp only [ofOdd?, Connective.ofName?_token .and "and" rfl, if_pos agree]

theorem read?_repairs (elements repaired : List Value) (repairs : Repairs elements repaired) :
    read? (.array elements) = read? (.array repaired) := by
  obtain ⟨incomplete, rfl, complete⟩ := repairs
  have longer := (thins_normalize elements).part.length_le
  have odd := length_complete _ complete
  have several : 2 ≤ elements.length := by
    match elements with
    | [] => contradiction
    | [_] => contradiction
    | _ :: _ :: _ => simp
  -- by the number of its elements a repaired chain has two conditions at least
  rw [read?_incomplete elements incomplete, if_pos complete, ← conditions_normalize]
  match made : normalize elements with
  | [] | [_] | [_, _] =>
      rw [made] at longer odd
      simp only [List.length_cons, List.length_nil] at longer odd
      omega
  | first :: token :: next :: rest =>
      rw [made] at complete
      exact (read?_complete first token next rest complete).symm

/-- Repair of and-chains. Tokens that were left out of a whole chain come back where they stood, and
the chain is read as before. A repair does not change what an array is read as, and no array that it
has made is repaired again; and making an array whole twice is making it whole once. -/
theorem read?_thinned :
    (∀ chain shortened, isComplete chain = true → Thins shortened chain →
      normalize shortened = chain ∧ read? (.array shortened) = read? (.array chain)) ∧
    (∀ elements repaired, Repairs elements repaired →
      read? (.array elements) = read? (.array repaired) ∧ ∀ again, ¬ Repairs repaired again) ∧
    ∀ elements, normalize (normalize elements) = normalize elements := by
  refine ⟨fun chain shortened complete thins => ⟨?_, ?_⟩, fun elements repaired repairs => ⟨?_, ?_⟩,
    normalize_normalize⟩
  · exact normalize_thinned chain shortened complete thins
  · rcases repairs_thinned chain shortened complete thins with rfl | repairs
    · rfl
    · exact read?_repairs shortened chain repairs
  · exact read?_repairs elements repaired repairs
  · exact fun again => repairs_once elements repaired again repairs

/-- Three conditions, of which the middle one spells nothing. -/
def openTasks : List Value :=
  [.array [.string "done", .string "=", .bool false], .string "and", .array [.int 1], .string "and",
    .array [.string "!", .string "hidden"]]

theorem read?_thinned_openTasks :
    let shortened := openTasks.eraseIdx 1
    normalize shortened = openTasks ∧ Repairs shortened openTasks ∧
      (∀ again, ¬ Repairs openTasks again) ∧
      read? (.array shortened) =
        some (.chain .and [.compare "done" .eq (.bool false), .not (.truth "hidden")]) := by
  obtain ⟨thinned, repaired, _⟩ := read?_thinned
  obtain ⟨whole, same⟩ := thinned openTasks (openTasks.eraseIdx 1) rfl
    ⟨List.eraseIdx_sublist openTasks 1, rfl⟩
  have repairs : Repairs (openTasks.eraseIdx 1) openTasks := ⟨rfl, whole.symm, rfl⟩
  exact ⟨whole, repairs, (repaired _ openTasks repairs).2, same.trans rfl⟩

end Filter

end DataGrid
