import DataGrid.Proofs.Double
/-!
Whole numbers among the doubles. Rounding keeps the order of magnitudes, so two whole numbers that do
not share a double are compared by their doubles as they are. Every whole number up to 2⁵³ is a double
itself, and one below 2⁵³ shares its double with no other. A longer one is a double just where its
leading 53 bits are all of it, and then it comes back from there. A quotient that is whole comes out
exactly.
-/
namespace DataGrid.Double

section Rounding

variable (low high denominator : Nat)

theorem divideToEven_ge : low / denominator ≤ divideToEven low denominator := by
  unfold divideToEven
  dsimp only
  split
  · exact Nat.le_refl _
  · split <;> omega

theorem divideToEven_le_succ : divideToEven low denominator ≤ low / denominator + 1 := by
  unfold divideToEven
  dsimp only
  split
  · omega
  · split <;> omega

theorem divideToEven_mono (ordered : low ≤ high) :
    divideToEven low denominator ≤ divideToEven high denominator := by
  have quotients := Nat.div_le_div_right (c := denominator) ordered
  -- a greater quotient makes up for the rounding, and equal ones are rounded by their rests
  rcases Nat.lt_or_eq_of_le quotients with apart | same
  · exact (divideToEven_le_succ low denominator).trans
      (apart.trans_le (divideToEven_ge high denominator))
  · have whole := Nat.div_add_mod low denominator
    have others := Nat.div_add_mod high denominator
    rw [same] at whole
    have rests : low % denominator ≤ high % denominator := by omega
    unfold divideToEven
    rw [same]
    dsimp only
    split
    · split
      · exact Nat.le_refl _
      · split <;> omega
    · split
      · rw [if_neg (by omega), if_pos (by omega)]
      · rw [if_neg (by omega)]
        split <;> omega

theorem divideToEven_mul (scale : Nat) (positive : 0 < scale) :
    divideToEven (low * scale) (denominator * scale) = divideToEven low denominator := by
  unfold divideToEven
  rw [Nat.mul_div_mul_right _ _ positive, Nat.mul_mod_mul_right]
  dsimp only
  rw [← Nat.mul_assoc]
  simp only [Nat.mul_lt_mul_right positive]

/-- A magnitude up to a multiple of the unit is not rounded beyond it, one from there on not below. -/
theorem rounded_le (unit bound : Nat) (positive : 0 < unit) (divides : unit ∣ bound)
    (within : low ≤ bound) : divideToEven low unit * unit ≤ bound := by
  have rounded := divideToEven_mono low bound unit within
  rw [divideToEven_of_dvd bound unit positive divides] at rounded
  exact (Nat.mul_le_mul_right unit rounded).trans (Nat.div_mul_cancel divides).le

theorem le_rounded (unit bound : Nat) (positive : 0 < unit) (divides : unit ∣ bound)
    (within : bound ≤ high) : bound ≤ divideToEven high unit * unit := by
  have rounded := divideToEven_mono bound high unit within
  rw [divideToEven_of_dvd bound unit positive divides] at rounded
  exact (Nat.div_mul_cancel divides).ge.trans (Nat.mul_le_mul_right unit rounded)

/-- Rounding keeps the order. Numbers of different lengths have a power of two between them, which is
a multiple of the units of both. -/
theorem nearest_mono (ordered : low ≤ high) : nearest low 1 ≤ nearest high 1 := by
  rcases Nat.eq_zero_or_pos low with rfl | positive
  · exact Nat.zero_le _
  have lengths : low.log2 ≤ high.log2 :=
    (Nat.le_log2 (by omega)).mpr ((Nat.log2_self_le (by omega)).trans ordered)
  rw [nearest_one, nearest_one]
  -- numbers of one length are rounded to multiples of one unit
  by_cases same : spareBits low = spareBits high
  · rw [same]
    exact Nat.mul_le_mul_right _ (divideToEven_mono low high _ ordered)
  · have longer : spareBits low < spareBits high := by
      unfold spareBits at same ⊢
      omega
    -- otherwise the power of two below the longer one stands between both
    have below : low ≤ 2 ^ high.log2 := by
      have short : low.log2 + 1 ≤ high.log2 := by
        unfold spareBits at longer
        omega
      exact (Nat.lt_log2_self.le).trans (Nat.pow_le_pow_right (by decide) short)
    have units : spareBits high ≤ high.log2 := Nat.sub_le _ _
    exact (rounded_le low _ _ (Nat.two_pow_pos _) (Nat.pow_dvd_pow 2 (longer.le.trans units))
      below).trans
      (le_rounded high _ _ (Nat.two_pow_pos _) (Nat.pow_dvd_pow 2 units)
        (Nat.log2_self_le (by omega)))

theorem nearest_mul (scale : Nat) (positive : 0 < scale) :
    nearest (low * scale) scale = nearest low 1 := by
  rw [nearest_one, nearest, Nat.mul_div_cancel _ positive, Nat.one_shiftLeft, Nat.mul_comm scale,
    divideToEven_mul low _ scale positive]

end Rounding

section Whole

variable (number : Int)

theorem nearest_moved (magnitude shift : Nat) (small : magnitude ≤ 2 ^ 53) :
    nearest (magnitude * 2 ^ shift) 1 = magnitude * 2 ^ shift := by
  rcases Nat.lt_or_eq_of_le small with less | rfl
  · exact nearest_shifted magnitude shift less
  -- the first number of 54 bits ends in a zero
  · have halved : 2 ^ 53 * 2 ^ shift = 2 ^ 52 * 2 ^ (shift + 1) := by ring
    rw [halved]
    exact nearest_shifted (2 ^ 52) (shift + 1) (by decide)

theorem nearest_whole (magnitude : Nat) (small : magnitude ≤ 2 ^ 53) :
    nearest (magnitude * one) 1 = magnitude * one := by
  have moved := nearest_moved magnitude 1074 small
  simp only [one, Nat.one_shiftLeft, moved]

theorem signed_ofInt :
    (ofInt number).signed =
      if number < 0 then -(nearest (number.natAbs * one) 1 : Int)
      else nearest (number.natAbs * one) 1 := by
  simp [signed, ofInt]

theorem signed_small (small : number.natAbs ≤ 2 ^ 53) : (ofInt number).signed = number * one := by
  rw [signed_ofInt, nearest_whole _ small, Nat.cast_mul]
  split
  · rw [← Int.neg_mul]
    congr 1
    omega
  · congr 1
    omega

variable {number} {other : Int}

theorem signed_mono (ordered : number ≤ other) : (ofInt number).signed ≤ (ofInt other).signed := by
  rw [signed_ofInt, signed_ofInt]
  split
  · split
    · have rounded := nearest_mono (other.natAbs * one) (number.natAbs * one)
        (Nat.mul_le_mul_right one (by omega))
      omega
    · omega
  · rw [if_neg (by omega)]
    have rounded := nearest_mono (number.natAbs * one) (other.natAbs * one)
      (Nat.mul_le_mul_right one (by omega))
    omega

/-- Whole numbers that are one number or have two doubles. -/
def Separates (number other : Int) : Prop :=
  number = other ∨ (ofInt number).signed ≠ (ofInt other).signed

instance (number other : Int) : Decidable (Separates number other) := by
  unfold Separates
  infer_instance

/-- A whole number below 2⁵³ is told apart from every other: both its neighbours are doubles, and what
lies beyond them is not rounded back to it. -/
theorem separates_small (small : number.natAbs < 2 ^ 53) : Separates number other := by
  have step (least : Int) : least * one < (least + 1) * one := by
    rw [Int.add_mul]
    have := one_pos
    omega
  rcases Int.lt_trichotomy number other with less | same | more
  · have above : (ofInt number).signed < (ofInt other).signed := calc
      (ofInt number).signed = number * one := signed_small number (by omega)
      _ < (number + 1) * one := step number
      _ = (ofInt (number + 1)).signed := (signed_small (number + 1) (by omega)).symm
      _ ≤ (ofInt other).signed := signed_mono less
    exact Or.inr above.ne
  · exact Or.inl same
  · have below : (ofInt other).signed < (ofInt number).signed := calc
      (ofInt other).signed ≤ (ofInt (number - 1)).signed := signed_mono (by omega)
      _ = (number - 1) * one := signed_small (number - 1) (by omega)
      _ < (number - 1 + 1) * one := step (number - 1)
      _ = (ofInt number).signed := by rw [Int.sub_add_cancel, signed_small number (by omega)]
    exact Or.inr below.ne'

/-- Doubles compare whole numbers as they are, unless these are two with one double. -/
theorem compare_ofInt (apart : Separates number other) :
    (ofInt number).compare (ofInt other) = Ord.compare number other := by
  unfold compare
  rcases apart with rfl | differ
  · rw [Std.compare_self, Std.compare_self]
  · rcases Int.lt_trichotomy number other with less | rfl | more
    · have above := lt_of_le_of_ne (signed_mono less.le) differ
      rw [Std.compare_eq_lt.mpr less, Std.compare_eq_lt.mpr above]
    · contradiction
    · have below := lt_of_le_of_ne (signed_mono more.le) differ.symm
      rw [Std.compare_eq_gt.mpr more, Std.compare_eq_gt.mpr below]

end Whole

section Kept

variable (number : Int)

theorem isExact_small (small : number.natAbs ≤ 2 ^ 53) : IsExact number := by
  rcases Nat.lt_or_eq_of_le small with less | same
  · exact ⟨number.natAbs, 0, less, by simp⟩
  · exact ⟨2 ^ 52, 1, by decide, by rw [same]; rfl⟩

theorem leading_le (magnitude : Nat) :
    divideToEven magnitude (2 ^ spareBits magnitude) ≤ 2 ^ 53 := by
  have short : magnitude < 2 ^ 53 * 2 ^ spareBits magnitude := by
    rw [← Nat.pow_add]
    refine Nat.lt_log2_self.trans_le (Nat.pow_le_pow_right (by decide) ?_)
    unfold spareBits
    omega
  have quotient := (Nat.div_lt_iff_lt_mul (Nat.two_pow_pos _)).mpr short
  exact (divideToEven_le_succ _ _).trans quotient

/-- A long number, moved up, has no leading bit where it has been moved over. -/
theorem le_spareBits (magnitude shift : Nat) (long : 2 ^ 53 ≤ magnitude) :
    shift ≤ spareBits (magnitude * (1 <<< shift)) := by
  rw [Nat.one_shiftLeft]
  have moved : 2 ^ (53 + shift) ≤ magnitude * 2 ^ shift := by
    rw [Nat.pow_add]
    exact Nat.mul_le_mul_right _ long
  have nonzero : magnitude * 2 ^ shift ≠ 0 := ((Nat.two_pow_pos _).trans_le moved).ne'
  have leading := (Nat.le_log2 nonzero).mpr moved
  unfold spareBits
  omega

/-- A whole number that comes back from its double has no bit that rounding gives up. -/
theorem isExact_of_steps (kept : (ofInt number).steps / one = number.natAbs) : IsExact number := by
  by_cases small : number.natAbs < 2 ^ 53
  · exact isExact_small number small.le
  -- the unit of the last bit is a whole number, and at most 53 bits count it
  have spare : 1074 ≤ spareBits (number.natAbs * one) :=
    le_spareBits number.natAbs 1074 (Nat.le_of_not_lt small)
  obtain ⟨zeros, split⟩ := Nat.exists_eq_add_of_le' spare
  have few := leading_le (number.natAbs * one)
  have spelled : (ofInt number).steps =
      divideToEven (number.natAbs * one) (2 ^ spareBits (number.natAbs * one)) * 2 ^ zeros * one := by
    change nearest (number.natAbs * one) 1 = _
    rw [nearest_one, Nat.mul_assoc _ (2 ^ zeros)]
    congr 1
    rw [split, Nat.pow_add, one, Nat.one_shiftLeft]
  rw [spelled, Nat.mul_div_cancel _ one_pos] at kept
  rcases Nat.lt_or_eq_of_le few with less | full
  · exact ⟨_, zeros, less, kept.symm⟩
  · refine ⟨2 ^ 52, zeros + 1, by decide, ?_⟩
    rw [← kept, full, Nat.pow_succ' (n := zeros), ← Nat.mul_assoc]
    rfl

theorem toInt64_bounds (x : Double) : -(2 ^ 63) ≤ x.toInt64 ∧ x.toInt64 < 2 ^ 63 := by
  unfold toInt64
  dsimp only
  omega

/-- What a double and 64 bits keep of a whole number: one that is a double comes back, and so does
the greatest one, whose double is cut back to it. -/
theorem toInt64_eq_iff (bounds : -(2 ^ 63) ≤ number ∧ number < 2 ^ 63) :
    (ofInt number).toInt64 = number ↔ IsExact number ∨ number = 2 ^ 63 - 1 := by
  rw [toInt64_steps]
  constructor
  · intro kept
    by_cases greatest : number = 2 ^ 63 - 1
    · exact Or.inr greatest
    · refine Or.inl ?_
      by_cases least : number = -(2 ^ 63)
      · exact ⟨1, 63, by decide, by rw [least]; rfl⟩
      · refine isExact_of_steps number ?_
        split at kept <;> omega
  · rintro (exact | rfl)
    · rw [steps_exact number exact, Nat.mul_div_cancel _ one_pos]
      split <;> omega
    · decide +kernel

end Kept

section Quotient

theorem isZero_ofInt (divisor : Int) (nonzero : divisor ≠ 0) : (ofInt divisor).isZero = false := by
  have least := nearest_mono (1 * one) (divisor.natAbs * one) (Nat.mul_le_mul_right one (by omega))
  rw [nearest_whole 1 (by decide)] at least
  have positive := one_pos
  rw [isZero, ofInt, beq_eq_false_iff_ne]
  dsimp only
  omega

theorem finite_ofInt (number : Int) (small : number.natAbs < 2 ^ 64) :
    (ofInt number).finite? = some (ofInt number) :=
  if_pos ((ofInt_le_largest number small).trans_lt (full_lt 2045))

theorem div_ofInt (quotient divisor : Int) (positive : 0 < divisor)
    (dividend : (quotient * divisor).natAbs ≤ 2 ^ 53) (within : divisor.natAbs ≤ 2 ^ 53) :
    (ofInt (quotient * divisor)).div (ofInt divisor) = ofInt quotient := by
  have sign : decide (quotient * divisor < 0) = decide (quotient < 0) := by
    rw [decide_eq_decide, mul_neg_iff]
    omega
  have magnitude : quotient.natAbs * divisor.natAbs * one * one =
      quotient.natAbs * one * (divisor.natAbs * one) := by ring
  have scale : 0 < divisor.natAbs * one := Nat.mul_pos (by omega) one_pos
  unfold div ofInt
  rw [nearest_whole _ dividend, nearest_whole _ within, sign, Int.natAbs_mul, magnitude,
    nearest_mul _ _ scale, decide_eq_false (show ¬ divisor < 0 by omega), Bool.bne_false]

end Quotient

end DataGrid.Double
