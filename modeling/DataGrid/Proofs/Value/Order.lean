import DataGrid.Value.Order
/-!
Laws of the order of values. Two comparisons along a chain of three values fix the third: the order
is oriented and transitive over all kinds, so equality of values is an equivalence and equal values
compare alike with every other value. Numbers are compared through doubles, so equality is coarser
than identity.
-/
namespace DataGrid.Value

/-- What decides between two values of one bracket. -/
def inBracket : Value → Value → Ordering
  | .array as, .array bs => compareItems as bs
  | .object as, .object bs =>
      match bracket (.object as) with
      | .oid => Ord.compare (oidHex? (.object as)) (oidHex? (.object bs))
      | .date => Ord.compare (dateMillis? (.object as)) (dateMillis? (.object bs))
      | _ => compareFields as bs
  | .bool a, .bool b => Ord.compare a b
  | .string a, .string b => Ord.compare a b
  | .int a, .int b => (Double.ofInt a).compare (.ofInt b)
  | .int a, .double b => (Double.ofInt a).compare b
  | .double a, .int b => a.compare (.ofInt b)
  | .double a, .double b => a.compare b
  | _, _ => .eq

theorem compare_eq_then (a b : Value) :
    compare a b = (Ord.compare (bracket a).rank (bracket b).rank).then (inBracket a b) := by
  cases a with
  | object as =>
      cases b with
      | object bs =>
          rw [compare]
          rfl
      | _ => simp [compare, inBracket]
  | _ => cases b <;> simp [compare, inBracket, bracket]

theorem bracket_eq_of_rank (a b : Value)
    (same : Ord.compare (bracket a).rank (bracket b).rank = .eq) : bracket a = bracket b := by
  have ranks : (bracket a).rank = (bracket b).rank := Std.LawfulEqOrd.eq_of_compare same
  revert ranks
  cases bracket a <;> cases bracket b <;> simp [Bracket.rank]

/-- The comparisons along a chain of three: going up twice is going up, and arriving at an equal
value means that neither step went up. -/
def Fits (ab bc ac : Ordering) : Prop :=
  ab.isLE → bc.isLE → ac.isLE ∧ (ac = .eq → ab = .eq ∧ bc = .eq)

theorem Fits.then {ab bc ac ab' bc' ac' : Ordering} (first : Fits ab bc ac)
    (second : ab = .eq → bc = .eq → Fits ab' bc' ac') :
    Fits (ab.then ab') (bc.then bc') (ac.then ac') := by
  cases ab <;> cases bc <;> cases ac <;> simp_all [Fits]

theorem fits_of_trans {α : Type} (cmp : α → α → Ordering) [Std.TransCmp cmp] (a b c : α) :
    Fits (cmp a b) (cmp b c) (cmp a c) := by
  intro ab bc
  refine ⟨Std.TransCmp.isLE_trans ab bc, fun same => ?_⟩
  have back : cmp c a = (cmp a c).swap := Std.OrientedCmp.eq_swap
  have ca : (cmp c a).isLE := by simp [back, same]
  have ba : (cmp b a).isLE := Std.TransCmp.isLE_trans bc ca
  have cb : (cmp c b).isLE := Std.TransCmp.isLE_trans ca ab
  exact ⟨Std.OrientedCmp.isLE_antisymm ab ba, Std.OrientedCmp.isLE_antisymm bc cb⟩

theorem fits_signed (x y z : Double) : Fits (x.compare y) (y.compare z) (x.compare z) :=
  fits_of_trans Ord.compare x.signed y.signed z.signed

theorem double_compare_swap (x y : Double) : x.compare y = (y.compare x).swap := by
  change Ord.compare x.signed y.signed = (Ord.compare y.signed x.signed).swap
  exact Std.OrientedCmp.eq_swap

theorem bracket_object (fields : Document) :
    bracket (.object fields) = .oid ∨ bracket (.object fields) = .date ∨
      bracket (.object fields) = .object := by
  simp only [bracket]
  split
  · exact Or.inl rfl
  · split
    · exact Or.inr (Or.inl rfl)
    · exact Or.inr (Or.inr rfl)

/-- What the values of a bracket look like. Integers and doubles share one. -/
def HasForm : Bracket → Value → Prop
  | .null, value => value = .null
  | .number, value => ∃ x, value.double? = some x
  | .string, value => ∃ text, value = .string text
  | .array, value => ∃ items, value = .array items
  | .bool, value => ∃ truth, value = .bool truth
  | .object, value | .oid, value | .date, value => ∃ fields, value = .object fields

theorem form_of_bracket (kind : Bracket) (b : Value) (same : kind = bracket b) : HasForm kind b := by
  subst same
  cases b with
  | null => rfl
  | object fields => rcases bracket_object fields with h | h | h <;> rw [h] <;> exact ⟨fields, rfl⟩
  | _ => exact ⟨_, rfl⟩

theorem object_of_bracket (fields : Document) (b : Value)
    (same : bracket (.object fields) = bracket b) : ∃ others, b = .object others := by
  have form := form_of_bracket _ b same
  rcases bracket_object fields with h | h | h <;> rwa [h] at form

theorem inBracket_numbers (a b : Value) (x y : Double) (left : a.double? = some x)
    (right : b.double? = some y) : inBracket a b = x.compare y := by
  cases a <;> cases b <;> simp_all [double?, inBracket]

theorem numbers_swap (a b : Value) (x : Double) (left : a.double? = some x)
    (same : .number = bracket b) : inBracket a b = (inBracket b a).swap := by
  obtain ⟨y, right⟩ := form_of_bracket .number b same
  rw [inBracket_numbers a b x y left right, inBracket_numbers b a y x right left]
  exact double_compare_swap x y

theorem numbers_fits (a b c : Value) (x : Double) (first : a.double? = some x)
    (ab : .number = bracket b) (ac : .number = bracket c) :
    Fits (inBracket a b) (inBracket b c) (inBracket a c) := by
  obtain ⟨y, second⟩ := form_of_bracket .number b ab
  obtain ⟨z, third⟩ := form_of_bracket .number c ac
  rw [inBracket_numbers a b x y first second, inBracket_numbers b c y z second third,
    inBracket_numbers a c x z first third]
  exact fits_signed x y z

theorem compare_swap_of (a b : Value)
    (within : bracket a = bracket b → inBracket a b = (inBracket b a).swap) :
    compare a b = (compare b a).swap := by
  rw [compare_eq_then a b, compare_eq_then b a, Ordering.swap_then, ← Std.OrientedCmp.eq_swap]
  cases ranks : Ord.compare (bracket a).rank (bracket b).rank with
  | eq => rw [within (bracket_eq_of_rank a b ranks)]
  | lt => rfl
  | gt => rfl

theorem compare_fits_of (a b c : Value)
    (within : bracket a = bracket b → bracket b = bracket c →
      Fits (inBracket a b) (inBracket b c) (inBracket a c)) :
    Fits (compare a b) (compare b c) (compare a c) := by
  rw [compare_eq_then a b, compare_eq_then b c, compare_eq_then a c]
  apply (fits_of_trans Ord.compare _ _ _).then
  intro ab bc
  exact within (bracket_eq_of_rank a b ab) (bracket_eq_of_rank b c bc)

mutual

theorem compare_swap : ∀ a b : Value, compare a b = (compare b a).swap
  | .array as, b => compare_swap_of _ b fun same => by
      obtain ⟨bs, rfl⟩ := form_of_bracket .array b same
      exact compareItems_swap as bs
  | .object as, b => compare_swap_of _ b fun same => by
      obtain ⟨bs, rfl⟩ := object_of_bracket as b same
      simp only [inBracket, ← same]
      split
      · exact Std.OrientedCmp.eq_swap
      · exact Std.OrientedCmp.eq_swap
      · exact compareFields_swap as bs
  | .null, b => compare_swap_of _ b fun same => by
      obtain rfl := form_of_bracket .null b same
      rfl
  | .bool x, b => compare_swap_of _ b fun same => by
      obtain ⟨y, rfl⟩ := form_of_bracket .bool b same
      change Ord.compare x y = (Ord.compare y x).swap
      exact Std.OrientedCmp.eq_swap
  | .int x, b => compare_swap_of _ b fun same => numbers_swap (.int x) b _ rfl same
  | .double x, b => compare_swap_of _ b fun same => numbers_swap (.double x) b _ rfl same
  | .string x, b => compare_swap_of _ b fun same => by
      obtain ⟨y, rfl⟩ := form_of_bracket .string b same
      change Ord.compare x y = (Ord.compare y x).swap
      exact Std.OrientedCmp.eq_swap

theorem compareItems_swap : ∀ as bs : List Value, compareItems as bs = (compareItems bs as).swap
  | [], bs => by cases bs <;> rfl
  | a :: as, bs => by
      cases bs with
      | nil => rfl
      | cons b bs =>
          simp only [compareItems, Ordering.swap_then]
          rw [compare_swap a b, compareItems_swap as bs]

theorem compareFields_swap : ∀ as bs : List (String × Value),
    compareFields as bs = (compareFields bs as).swap
  | [], bs => by cases bs <;> rfl
  | (k, a) :: as, bs => by
      rcases bs with _ | ⟨⟨l, b⟩, bs⟩
      · rfl
      · simp only [compareFields, Ordering.swap_then]
        have keys : Ord.compare k l = (Ord.compare l k).swap := Std.OrientedCmp.eq_swap
        rw [keys, compare_swap a b, compareFields_swap as bs]

end

mutual

/-- Only where all three brackets agree are the parts compared, and there the three values have one
form. -/
theorem compare_fits : ∀ a b c : Value, Fits (compare a b) (compare b c) (compare a c)
  | .array as, b, c => compare_fits_of _ b c fun ab bc => by
      obtain ⟨bs, rfl⟩ := form_of_bracket .array b ab
      obtain ⟨cs, rfl⟩ := form_of_bracket .array c bc
      exact compareItems_fits as bs cs
  | .object as, b, c => compare_fits_of _ b c fun ab bc => by
      obtain ⟨bs, rfl⟩ := object_of_bracket as b ab
      obtain ⟨cs, rfl⟩ := object_of_bracket bs c bc
      -- ids and dates by their contents, all other objects by their fields
      simp only [inBracket, ← ab]
      split
      · exact fits_of_trans Ord.compare _ _ _
      · exact fits_of_trans Ord.compare _ _ _
      · exact compareFields_fits as bs cs
  | .null, b, c => compare_fits_of _ b c fun ab bc => by
      obtain rfl := form_of_bracket .null b ab
      obtain rfl := form_of_bracket .null c bc
      simp [Fits, inBracket]
  | .bool x, b, c => compare_fits_of _ b c fun ab bc => by
      obtain ⟨y, rfl⟩ := form_of_bracket .bool b ab
      obtain ⟨z, rfl⟩ := form_of_bracket .bool c bc
      exact fits_of_trans Ord.compare x y z
  | .int x, b, c => compare_fits_of _ b c fun ab bc =>
      numbers_fits (.int x) b c _ rfl ab (ab.trans bc)
  | .double x, b, c => compare_fits_of _ b c fun ab bc =>
      numbers_fits (.double x) b c _ rfl ab (ab.trans bc)
  | .string x, b, c => compare_fits_of _ b c fun ab bc => by
      obtain ⟨y, rfl⟩ := form_of_bracket .string b ab
      obtain ⟨z, rfl⟩ := form_of_bracket .string c bc
      exact fits_of_trans Ord.compare x y z

theorem compareItems_fits : ∀ as bs cs : List Value,
    Fits (compareItems as bs) (compareItems bs cs) (compareItems as cs)
  | [], bs, cs => by cases bs <;> cases cs <;> simp [Fits, compareItems]
  | a :: as, bs, cs => by
      rcases bs with _ | ⟨b, bs⟩ <;> rcases cs with _ | ⟨c, cs⟩ <;>
        try (simp [Fits, compareItems]; done)
      exact (compare_fits a b c).then fun _ _ => compareItems_fits as bs cs

theorem compareFields_fits : ∀ as bs cs : List (String × Value),
    Fits (compareFields as bs) (compareFields bs cs) (compareFields as cs)
  | [], bs, cs => by cases bs <;> cases cs <;> simp [Fits, compareFields]
  | (k, a) :: as, bs, cs => by
      rcases bs with _ | ⟨⟨l, b⟩, bs⟩ <;> rcases cs with _ | ⟨⟨m, c⟩, cs⟩ <;>
        try (simp [Fits, compareFields]; done)
      exact (fits_of_trans Ord.compare k l m).then fun _ _ =>
        (compare_fits a b c).then fun _ _ => compareFields_fits as bs cs

end

instance : Std.OrientedCmp compare := ⟨compare_swap _ _⟩

instance : Std.TransCmp compare := ⟨fun ab bc => (compare_fits _ _ _ ab bc).1⟩

theorem equal_refl (a : Value) : equal a a = true := by
  have self : compare a a = .eq := Std.ReflCmp.compare_self
  simp [equal, self]

theorem equal_symm (a b : Value) (same : equal a b = true) : equal b a = true := by
  simp only [equal, beq_iff_eq] at same ⊢
  rw [compare_swap b a, same]
  rfl

theorem equal_comm (a b : Value) : equal a b = equal b a :=
  Bool.eq_iff_iff.mpr ⟨equal_symm a b, equal_symm b a⟩

theorem equal_trans (a b c : Value) (ab : equal a b = true) (bc : equal b c = true) :
    equal a c = true := by
  simp only [equal, beq_iff_eq] at *
  exact Std.TransCmp.eq_trans ab bc

/-- Equal values compare alike with every third one. -/
theorem compare_congr_left (a b c : Value) (same : equal a b = true) : compare a c = compare b c :=
  Std.TransCmp.congr_left (beq_iff_eq.mp same)

theorem equal_congr_left (a b c : Value) (same : equal a b = true) : equal a c = equal b c := by
  simp only [equal, compare_congr_left a b c same]

/-- Equality of values as an equivalence, whose classes are the groups of a level. -/
def equality : Setoid Value where
  r a b := equal a b = true
  iseqv := ⟨equal_refl, fun {a b} => equal_symm a b, fun {a b c} => equal_trans a b c⟩

/-- The order of values is total: of two values one is at most the other, one that is at most a
second is at most whatever the second is at most, and reading a comparison the other way reverses it.
Equality is the equivalence of this order, and the order does not tell equal values apart on either
side. -/
theorem compare_preorder :
    (∀ a, compare a a = .eq) ∧
    (∀ a b, compare b a = (compare a b).swap) ∧
    (∀ a b, (compare a b).isLE = true ∨ (compare b a).isLE = true) ∧
    (∀ a b c, (compare a b).isLE = true → (compare b c).isLE = true → (compare a c).isLE = true) ∧
    Equivalence (fun a b => equal a b = true) ∧
    ∀ a b c, equal a b = true → compare a c = compare b c ∧ compare c a = compare c b := by
  refine ⟨fun a => Std.ReflCmp.compare_self, fun a b => compare_swap b a, ?_, ?_, equality.iseqv, ?_⟩
  · intro a b
    rw [compare_swap b a]
    cases compare a b with
    | lt | eq => exact Or.inl rfl
    | gt => exact Or.inr rfl
  · exact fun a b c first second => Std.TransCmp.isLE_trans first second
  · intro a b c same
    have left := compare_congr_left a b c same
    refine ⟨left, ?_⟩
    rw [compare_swap c a, left, ← compare_swap c b]

/-- The start of the era as a text and as a count, with one number of two kinds behind it. -/
def epochs : Value × Value :=
  (.array [.single "$date" (.string "1970-01-01T00:00:00Z"), .int 1],
    .array [.date 0, .double (.ofInt 1)])

theorem compare_preorder_epochs :
    (compare epochs.1 (.array [.date 1])).isLE = true ∧
      compare epochs.1 (.object []) = compare epochs.2 (.object []) ∧
      compare (.object []) epochs.1 = compare (.object []) epochs.2 := by
  obtain ⟨_, _, _, transitive, _, alike⟩ := compare_preorder
  have same : equal epochs.1 epochs.2 = true := by decide +kernel
  have below : (compare epochs.2 (.array [.date 1])).isLE = true := by decide +kernel
  refine ⟨transitive _ epochs.2 _ ?_ below, alike _ _ (.object []) same⟩
  rw [beq_iff_eq.mp same]
  rfl

end DataGrid.Value
