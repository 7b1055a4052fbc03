import DataGrid.Proofs.Double.Whole
import DataGrid.Proofs.Group.Key
/-!
Buckets of numbers. A width is given as a number or in digits between blanks. The key of a whole
number is its quotient by the width, cut toward zero: the number less its remainder is a multiple of
the width, so that the division is exact. From zero on, and for multiples of the width, the cut
quotient is the quotient rounded down. No stage of a group level divides by zero, for any interval.
-/
namespace DataGrid

open Result

namespace Text

theorem dropWhile_blanks (before text : List Char) (blank : ∀ c ∈ before, isBlank c = true)
    (full : ∀ c ∈ text, isBlank c = false) : (before ++ text).dropWhile isBlank = text := by
  rw [List.dropWhile_append_of_pos blank]
  cases text with
  | nil => rfl
  | cons c rest => rw [List.dropWhile_cons_of_neg (by simp [full c])]

theorem trim_blanks (before text after : List Char) (first : ∀ c ∈ before, isBlank c = true)
    (last : ∀ c ∈ after, isBlank c = true) (full : ∀ c ∈ text, isBlank c = false) :
    trim (before ++ text ++ after) = text := by
  -- blanks behind a text are in front of it when it is reversed
  have behind : (text ++ after).reverse.dropWhile isBlank = text.reverse := by
    rw [List.reverse_append]
    exact dropWhile_blanks after.reverse text.reverse (by simpa using last) (by simpa using full)
  rw [trim, List.append_assoc, List.dropWhile_append_of_pos first]
  cases text with
  | nil =>
      rw [List.nil_append, List.dropWhile_eq_nil_iff.mpr last]
      rfl
  | cons c rest =>
      rw [List.cons_append, List.dropWhile_cons_of_neg (by simp [full c]), ← List.cons_append, behind,
        List.reverse_reverse]

theorem foldl_digits (digits : List Char) :
    digits.foldl (fun sum c => sum * 10 + digitValue c) 0 =
      Nat.ofDigits 10 (digits.reverse.map digitValue) := by
  induction digits using List.reverseRecOn with
  | nil => rfl
  | append_singleton digits last ih =>
      rw [List.foldl_concat, ih, List.reverse_concat, List.map_cons, Nat.ofDigits_cons]
      omega

theorem decimal?_digits (digits : List Char) (filled : digits ≠ [])
    (decimal : ∀ c ∈ digits, c.isDigit = true) :
    decimal? digits = some (Nat.ofDigits 10 (digits.reverse.map digitValue)) := by
  have accepted : ¬ (digits.isEmpty || digits.any fun c => !c.isDigit) = true := by
    simpa [filled] using decimal
  rw [decimal?, if_neg accepted, foldl_digits]

theorem int64?_digits (sign digits : List Char) (signed : sign = [] ∨ sign = ['+'])
    (filled : digits ≠ []) (decimal : ∀ c ∈ digits, c.isDigit = true)
    (fits : Nat.ofDigits 10 (digits.reverse.map digitValue) < 2 ^ 63) :
    int64? (sign ++ digits) = some ((Nat.ofDigits 10 (digits.reverse.map digitValue) : Nat) : Int) := by
  have read := decimal?_digits digits filled decimal
  have bounds : -0x8000000000000000 ≤ ((Nat.ofDigits 10 (digits.reverse.map digitValue) : Nat) : Int) ∧
      ((Nat.ofDigits 10 (digits.reverse.map digitValue) : Nat) : Int) ≤ 0x7fffffffffffffff := by
    omega
  rcases signed with rfl | rfl
  · unfold int64? int?
    rw [List.nil_append]
    -- a digit is no sign
    split
    · exact absurd (decimal '-' (by simp)) (by decide)
    · exact absurd (decimal '+' (by simp)) (by decide)
    · rw [read]
      exact if_pos bounds
  · simp only [int64?, int?, List.cons_append, List.nil_append, read]
    exact if_pos bounds

theorem isBlank_digit (c : Char) (digit : c.isDigit = true) : isBlank c = false := by
  simp only [Char.isDigit, Bool.and_eq_true, decide_eq_true_eq] at digit
  obtain ⟨low, high⟩ := digit
  have least : 48 ≤ c.toNat := low
  have most : c.toNat ≤ 57 := high
  simp [isBlank]
  omega

end Text

namespace Interval

/-- The widths that an interval gives: a number, or decimal digits with blanks around them and perhaps
a plus sign in front. -/
inductive Gives : Interval → Int → Prop
  | number (width : Int) : Gives (.width width) width
  | digits (before sign digits after : List Char) (first : ∀ c ∈ before, Text.isBlank c = true)
      (last : ∀ c ∈ after, Text.isBlank c = true) (signed : sign = [] ∨ sign = ['+'])
      (filled : digits ≠ []) (decimal : ∀ c ∈ digits, c.isDigit = true) :
      Gives (.named (String.ofList (before ++ (sign ++ digits) ++ after)))
        (Nat.ofDigits 10 (digits.reverse.map Text.digitValue) : Nat)

theorem Gives.rule {interval : Interval} {width : Int} (gives : interval.Gives width)
    (positive : 0 < width) (fits : width < 2 ^ 63) : interval.rule = .bucket width := by
  cases gives with
  | number => exact if_pos positive
  | digits before sign digits after first last signed filled decimal =>
      -- no character of the digits is lost with the blanks around them
      have full : ∀ c ∈ sign ++ digits, Text.isBlank c = false := by
        intro c member
        rcases List.mem_append.mp member with inSign | inDigits
        · rcases signed with rfl | rfl
          · simp at inSign
          · rw [List.mem_singleton.mp inSign]
            decide
        · exact Text.isBlank_digit c (decimal c inDigits)
      have trimmed : Text.trim (String.ofList (before ++ (sign ++ digits) ++ after)).toList =
          sign ++ digits := by
        rw [String.toList_ofList]
        exact Text.trim_blanks before (sign ++ digits) after first last full
      have read : Text.int64? (sign ++ digits) =
          some ((Nat.ofDigits 10 (digits.reverse.map Text.digitValue) : Nat) : Int) :=
        Text.int64?_digits sign digits signed filled decimal (by omega)
      rw [Interval.rule, trimmed, read]
      exact if_pos positive

theorem rule_bucket (interval : Interval) (width : Int) (bucket : interval.rule = .bucket width) :
    0 < width := by
  have positive (number : Int) (made : ofWidth number = .bucket width) : 0 < width := by
    unfold ofWidth at made
    split at made
    · cases made
      assumption
    · contradiction
  cases interval with
  | width number => exact positive number bucket
  | named name =>
      unfold Interval.rule at bucket
      dsimp only at bucket
      split at bucket
      · exact positive _ bucket
      · cases known : DateUnit.ofName? name <;> simp [known] at bucket

end Interval

namespace Arithmetic

theorem int64?_int (number : Int) (fits : number.natAbs < 2 ^ 63) :
    (Value.int number).int64? = some number :=
  if_pos (by omega)

/-- Numbers are no dates, so that whole numbers meet as numbers. -/
theorem apply_int (op : Arithmetic) (x y : Int) (divides : op.dividesBy = true → y ≠ 0)
    (left : x.natAbs < 2 ^ 63) (right : y.natAbs < 2 ^ 63) :
    op.apply (.int x) (.int y) = match op.onIntegers x y with
      | some number => .ok (.int number)
      | none => .ok (.ofDouble (op.onDoubles (.ofInt x) (.ofInt y))) := by
  have numbers : op.apply (.int x) (.int y) = op.onNumbers (.int x) (.int y) := by
    cases op <;> rfl
  have possible : ¬ (op.dividesBy && (Double.ofInt y).isZero) = true := by
    intro refused
    rw [Bool.and_eq_true] at refused
    rw [Double.isZero_ofInt y (divides refused.1)] at refused
    exact Bool.false_ne_true refused.2
  rw [numbers, onNumbers]
  change (if (op.dividesBy && (Double.ofInt y).isZero) = true then _ else _) = _
  rw [if_neg possible]
  simp only [int64?_int x left, int64?_int y right, Option.bind_some]
  cases op.onIntegers x y <;> rfl

end Arithmetic

namespace Term

/-- The quotient of whole numbers up to 2⁵³ is cut toward zero, and exact. -/
theorem quotientOf_int (number width : Int) (small : number.natAbs ≤ 2 ^ 53) (positive : 0 < width)
    (narrow : width ≤ 2 ^ 53) :
    quotientOf (.int number) (.int width) = .ok (.double (.ofInt (number.tdiv width))) := by
  have split := Int.mul_tdiv_add_tmod number width
  have rest : (number.tmod width).natAbs ≤ number.natAbs := by
    rw [Int.natAbs_tmod]
    exact Nat.mod_le _ _
  have whole : number - number.tmod width = number.tdiv width * width := by
    rw [Int.mul_comm (number.tdiv width)]
    omega
  have multiple : (number.tdiv width * width).natAbs ≤ 2 ^ 53 := by
    rw [Int.natAbs_mul, Int.natAbs_tdiv]
    exact (Nat.div_mul_le_self _ _).trans small
  -- one operation after the other: the rest, the multiple that it leaves, and its quotient
  have remainder : Arithmetic.apply .mod (.int number) (.int width) =
      .ok (.int (number.tmod width)) := by
    rw [Arithmetic.apply_int .mod number width (fun _ => positive.ne') (by omega) (by omega)]
    simp only [Arithmetic.onIntegers]
    rw [if_neg (by omega)]
  have dividend : Arithmetic.apply .subtract (.int number) (.int (number.tmod width)) =
      .ok (.int (number.tdiv width * width)) := by
    rw [Arithmetic.apply_int .subtract number _ nofun (by omega) (by omega), ← whole]
    simp only [Arithmetic.onIntegers, inInt64]
    rw [if_pos (by omega)]
  have quotient : (number.tdiv width).natAbs < 2 ^ 64 := by
    rw [Int.natAbs_tdiv]
    exact (Nat.div_le_self _ _).trans_lt (by omega)
  have divided : Arithmetic.apply .divide (.int (number.tdiv width * width)) (.int width) =
      .ok (.double (.ofInt (number.tdiv width))) := by
    rw [Arithmetic.apply_int .divide _ width (fun _ => positive.ne') (by omega) (by omega)]
    simp only [Arithmetic.onIntegers, Arithmetic.onDoubles]
    rw [Double.div_ofInt _ _ positive multiple (by omega), Value.ofDouble,
      Double.finite_ofInt _ quotient]
  exact (bind_ok _ _ _).mpr ⟨_, remainder, (bind_ok _ _ _).mpr ⟨_, dividend, divided⟩⟩

theorem quotientOf_null (width : Int) : quotientOf .null (.int width) = .ok .null := rfl

end Term

/-- The quotient that is cut toward zero is the one rounded down from zero on, and for multiples. -/
theorem tdiv_floor (number width : Int) (positive : 0 < width) :
    number.tdiv width = number / width ↔ 0 ≤ number ∨ width ∣ number := by
  rw [Int.tdiv_eq_ediv]
  split
  · rename_i exact
    simp [exact]
  · rename_i below
    rw [not_or] at below
    simp [below, Int.sign_eq_one_of_pos positive]

namespace GroupKey

variable (key : GroupKey) (width : Int) (bucket : key.rule = .bucket width)
include bucket

theorem valueOf_bucket (doc : Document) :
    key.valueOf doc = Term.quotientOf (Expression.reference doc key.selector) (.int width) := by
  rw [valueOf, extend_eq, fields, bucket]
  dsimp only
  cases Term.quotientOf (Expression.reference doc key.selector) (.int width) with
  | error fault => rfl
  | ok value =>
      exact congrArg (fun stored => Except.ok (stored.getD .null))
        (Document.get?_putAll_last doc [] key.field value)

theorem names_bucket : key.names = [key.field] := by
  rw [names, computed, bucket]
  rfl

end GroupKey

section Zero

/-- A computation that is not refused for a division by zero. -/
def NeverByZero {α : Type} (outcome : StoreResult α) : Prop :=
  ∀ operator, outcome ≠ .error (.invalidExpression (.zeroDivisor operator))

variable {α β : Type}

theorem neverByZero_ok (value : α) : NeverByZero (.ok value) := fun _ => nofun

theorem neverByZero_bind (first : StoreResult α) (next : α → StoreResult β)
    (before : NeverByZero first) (after : ∀ value, NeverByZero (next value)) :
    NeverByZero (first >>= next) := by
  intro operator refused
  rcases (bind_error _ _ _).mp refused with early | ⟨value, _, late⟩
  · exact before operator early
  · exact after value operator late

theorem neverByZero_mapM (f : α → StoreResult β) (items : List α)
    (each : ∀ item, NeverByZero (f item)) : NeverByZero (items.mapM f) := by
  intro operator refused
  obtain ⟨item, _, failed⟩ := mapM_error f items _ refused
  exact each item operator failed

namespace Arithmetic

variable (op : Arithmetic)

theorem neverByZero_number (value : Value) : NeverByZero (op.number value) := by
  unfold number
  split
  · exact neverByZero_ok _
  · exact fun operator => nofun

theorem neverByZero_onNumbers (a b : Value)
    (divides : op.dividesBy = true → ∃ divisor ≠ 0, b = .int divisor) :
    NeverByZero (op.onNumbers a b) := by
  refine neverByZero_bind _ _ (op.neverByZero_number a) fun x => ?_
  intro operator refused
  rcases (bind_error _ _ _).mp refused with early | ⟨y, read, late⟩
  · exact op.neverByZero_number b operator early
  · split at late
    · rename_i zero
      rw [Bool.and_eq_true] at zero
      obtain ⟨divisor, nonzero, rfl⟩ := divides zero.1
      rw [← Except.ok.inj read, Double.isZero_ofInt divisor nonzero] at zero
      exact Bool.false_ne_true zero.2
    · dsimp only at late
      split at late <;> contradiction

theorem neverByZero_apply (a b : Value)
    (divides : op.dividesBy = true → ∃ divisor ≠ 0, b = .int divisor) :
    NeverByZero (op.apply a b) := by
  have shifted (sign : Arithmetic) (value : Value) (next : Int → StoreResult Value)
      (after : ∀ millis, NeverByZero (next millis)) : NeverByZero (sign.millis value >>= next) := by
    refine neverByZero_bind _ _ ?_ after
    exact neverByZero_bind _ _ (sign.neverByZero_number value) fun _ => neverByZero_ok _
  unfold apply
  split
  · exact neverByZero_ok _
  · split
    · exact neverByZero_ok _
    · exact shifted _ _ _ fun _ => neverByZero_ok _
    · exact shifted _ _ _ fun _ => neverByZero_ok _
    · exact shifted _ _ _ fun _ => neverByZero_ok _
    · exact neverByZero_onNumbers _ a b divides

end Arithmetic

theorem Term.neverByZero_quotientOf (dividend : Value) (width : Int) (nonzero : width ≠ 0) :
    NeverByZero (Term.quotientOf dividend (.int width)) := by
  refine neverByZero_bind _ _ ?_ fun rest => neverByZero_bind _ _ ?_ fun whole => ?_
  · exact Arithmetic.neverByZero_apply .mod _ _ fun _ => ⟨width, nonzero, rfl⟩
  · exact Arithmetic.neverByZero_apply .subtract _ _ nofun
  · exact Arithmetic.neverByZero_apply .divide _ _ fun _ => ⟨width, nonzero, rfl⟩

theorem CalendarPart.neverByZero_apply (part : CalendarPart) (time : Value) :
    NeverByZero (part.apply time) := by
  unfold apply
  split
  · exact neverByZero_ok _
  · split
    · exact neverByZero_ok _
    · exact fun operator => nofun

namespace DateUnit

theorem neverByZero_shifted (op : Arithmetic) (part : CalendarPart) (time : Value) (number : Int)
    (adds : op.dividesBy = false) :
    NeverByZero ((part.apply time).bind fun value => op.apply value (.int number)) :=
  neverByZero_bind _ _ (part.neverByZero_apply time) fun value =>
    op.neverByZero_apply value _ fun divides => by simp [adds] at divides

theorem neverByZero_ofLocal (unit : DateUnit) (time : Value) : NeverByZero (unit.ofLocal time) := by
  cases unit with
  | quarter =>
      exact neverByZero_bind _ _ (neverByZero_shifted .add .month time 2 rfl) fun month =>
        Term.neverByZero_quotientOf month 3 (by decide)
  | dayOfWeek => exact neverByZero_shifted .subtract .dayOfWeek time 1 rfl
  | year | month | day | hour | minute | second => exact CalendarPart.neverByZero_apply _ time

end DateUnit

namespace GroupKey

variable (key : GroupKey)

/-- The expressions of a level divide by its width or by three. -/
theorem neverByZero_computed (positive : ∀ width, key.rule = .bucket width → width ≠ 0)
    (doc : Document) (name : String) (expression : Value)
    (listed : (name, expression) ∈ key.computed) :
    NeverByZero (Expression.evaluate (.object doc) expression) := by
  have selected := Expression.evaluate_field doc key.selector
  have local_ : NeverByZero (Expression.evaluate (.object doc)
      (Term.localTime key.selector key.offset)) := by
    rw [Term.evaluate_localTime]
    exact Arithmetic.neverByZero_apply .subtract _ _ nofun
  unfold computed at listed
  cases rule : key.rule with
  | raw =>
      simp only [rule, List.mem_singleton, Prod.mk.injEq] at listed
      rw [listed.2, selected]
      exact neverByZero_ok _
  | bucket width =>
      simp only [rule, List.mem_singleton, Prod.mk.injEq] at listed
      rw [listed.2, Term.evaluate_quotient _ _ _ _ _ selected rfl]
      exact Term.neverByZero_quotientOf _ width (positive width rule)
  | part unit =>
      simp only [rule] at listed
      cases single : unit.extract? (Term.localTime key.selector key.offset) with
      | some extracted =>
          simp only [single, List.mem_singleton, Prod.mk.injEq] at listed
          rw [listed.2, unit.evaluate_extract _ _ _ single]
          exact neverByZero_bind _ _ local_ unit.neverByZero_ofLocal
      | none =>
          simp only [single, List.mem_cons, List.not_mem_nil, or_false, Prod.mk.injEq] at listed
          -- the month plus two, and a third of it
          rcases listed with ⟨_, rfl⟩ | ⟨_, rfl⟩
          · rw [DateUnit.evaluate_monthPlusTwo]
            exact neverByZero_bind _ _ local_ fun time =>
              DateUnit.neverByZero_shifted .add .month time 2 rfl
          · rw [DateUnit.evaluate_quarter]
            exact Term.neverByZero_quotientOf _ 3 (by decide)

theorem neverByZero_stages (positive : ∀ width, key.rule = .bucket width → width ≠ 0)
    (patterns : PatternCompiler) (docs : List Document) :
    NeverByZero (Pipeline.run patterns key.stages docs) := by
  have each := key.neverByZero_computed positive
  unfold stages
  -- a stage for each computed field, whatever the fields before it left in the documents
  generalize key.computed = parts at each
  induction parts generalizing docs with
  | nil => exact neverByZero_ok docs
  | cons part rest ih =>
      refine neverByZero_bind _ _ ?_ fun middle =>
        ih middle fun doc name expression listed =>
          each doc name expression (List.mem_cons_of_mem _ listed)
      refine neverByZero_mapM _ docs fun doc => ?_
      exact neverByZero_bind _ _ (each doc part.1 part.2 List.mem_cons_self) fun _ =>
        neverByZero_ok _

end GroupKey

end Zero

end DataGrid
