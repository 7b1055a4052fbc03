import DataGrid.Double
import Mathlib
/-!
Whole numbers of at most 53 bits, also with zeros behind them, are doubles themselves: they fill no
bit that rounding would have to give up, so that they come back unchanged. Rounding moves a number by
less than its last bit is worth, so a double that is finite stays so when a whole number of 64 bits is
taken away from it.
-/
namespace DataGrid.Double

theorem divideToEven_of_dvd (numerator denominator : Nat) (positive : 0 < denominator)
    (divides : denominator ∣ numerator) :
    divideToEven numerator denominator = numerator / denominator := by
  have rest : numerator % denominator = 0 := Nat.mod_eq_zero_of_dvd divides
  rw [divideToEven, rest, if_pos (by omega)]

/-- The leading bits of a small number, moved up, leave enough room below them. -/
theorem nearest_shifted (number shift : Nat) (small : number < 2 ^ 53) :
    nearest (number * 2 ^ shift) 1 = number * 2 ^ shift := by
  -- zero has no leading bit
  rcases Nat.eq_zero_or_pos number with rfl | positive
  · simp [nearest, divideToEven]
  · have spare : 2 ^ spareBits (number * 2 ^ shift) ∣ number * 2 ^ shift := by
      have bound : number * 2 ^ shift < 2 ^ (53 + shift) := by
        rw [Nat.pow_add]
        exact Nat.mul_lt_mul_of_pos_right small (Nat.two_pow_pos shift)
      have leading : (number * 2 ^ shift).log2 < 53 + shift :=
        (Nat.log2_lt (Nat.ne_of_gt (Nat.mul_pos positive (Nat.two_pow_pos shift)))).mpr bound
      have room : spareBits (number * 2 ^ shift) ≤ shift := by
        rw [spareBits]
        omega
      exact Nat.dvd_mul_left_of_dvd (Nat.pow_dvd_pow 2 room) number
    rw [nearest, Nat.div_one, Nat.one_shiftLeft, Nat.one_mul,
      divideToEven_of_dvd _ _ (Nat.two_pow_pos _) spare, Nat.div_mul_cancel spare]

theorem one_pos : 0 < one := by
  rw [one, Nat.one_shiftLeft]
  exact Nat.two_pow_pos 1074

section Kept

variable (number : Int)

/-- Whole numbers of 53 bits and zeros behind them. -/
def IsExact (number : Int) : Prop :=
  ∃ bits zeros, bits < 2 ^ 53 ∧ number.natAbs = bits * 2 ^ zeros

theorem steps_exact (exact : IsExact number) : (ofInt number).steps = number.natAbs * one := by
  obtain ⟨bits, zeros, small, spelled⟩ := exact
  have moved : number.natAbs * 2 ^ 1074 = bits * 2 ^ (zeros + 1074) := by
    rw [spelled, Nat.mul_assoc, ← Nat.pow_add]
  have shifted := nearest_shifted bits (zeros + 1074) small
  rw [← moved] at shifted
  simp only [ofInt, one, Nat.one_shiftLeft, shifted]

theorem steps_ofInt (small : number.natAbs < 2 ^ 53) : (ofInt number).steps = number.natAbs * one :=
  steps_exact number ⟨number.natAbs, 0, small, by simp⟩

theorem toInt64_steps : (ofInt number).toInt64 =
    max (-0x8000000000000000) (min 0x7fffffffffffffff
      (if number < 0 then -(((ofInt number).steps / one : Nat) : Int)
        else ((ofInt number).steps / one : Nat))) := by
  have sign : (ofInt number).negative = decide (number < 0) := rfl
  rw [toInt64, sign]
  simp only [decide_eq_true_eq]

theorem toInt64_ofInt (small : number.natAbs < 2 ^ 53) : (ofInt number).toInt64 = number := by
  rw [toInt64_steps, steps_ofInt number small, Nat.mul_div_cancel _ one_pos]
  split <;> omega

end Kept

section Bounds

/-- Less than half a unit beyond a whole number of units is not rounded beyond it. -/
theorem divideToEven_le (numerator denominator units : Nat)
    (near : 2 * numerator < (2 * units + 1) * denominator) :
    divideToEven numerator denominator ≤ units := by
  have whole := Nat.div_add_mod numerator denominator
  unfold divideToEven
  dsimp only
  generalize numerator / denominator = low at *
  generalize numerator % denominator = rest at *
  -- below the bound one more is allowed, at the bound the rest is small, and above is none
  rcases Nat.lt_trichotomy low units with below | rfl | above
  · split
    · omega
    · split <;> omega
  · have few : 2 * rest < denominator := by
      rw [← whole, Nat.add_mul, Nat.mul_add, Nat.mul_assoc, Nat.mul_comm low, Nat.one_mul] at near
      omega
    rw [if_pos few]
  · have many : (2 * units + 2) * denominator ≤ 2 * (denominator * low) := by
      rw [Nat.mul_comm denominator, ← Nat.mul_assoc]
      exact Nat.mul_le_mul_right _ (by omega)
    rw [Nat.add_mul] at near many
    omega

theorem nearest_one (number : Nat) :
    nearest number 1 =
      divideToEven number (2 ^ spareBits number) * 2 ^ spareBits number := by
  rw [nearest, Nat.div_one, Nat.one_shiftLeft, Nat.one_mul]

/-- Rounding moves a magnitude by no more than the unit of its last bit. -/
theorem nearest_le (number : Nat) : nearest number 1 ≤ number + 2 ^ spareBits number := by
  have positive := Nat.two_pow_pos (spareBits number)
  rw [nearest_one]
  generalize 2 ^ spareBits number = unit at *
  have whole := Nat.div_mul_le_self number unit
  have less := Nat.lt_div_mul_add positive (a := number)
  have rounded : divideToEven number unit ≤ number / unit + 1 := by
    refine divideToEven_le _ _ _ ?_
    rw [Nat.add_mul, Nat.mul_assoc, Nat.add_mul]
    omega
  have moved := Nat.mul_le_mul_right unit rounded
  rw [Nat.add_mul] at moved
  omega

theorem two_pow_spareBits (number : Nat) (positive : 0 < number) : 2 ^ spareBits number ≤ number :=
  (Nat.pow_le_pow_right (by decide) (Nat.sub_le _ _)).trans (Nat.log2_self_le (Nat.ne_of_gt positive))

theorem spareBits_le (number bits : Nat) (small : number < 2 ^ (bits + 53)) :
    spareBits number ≤ bits := by
  rcases Nat.eq_zero_or_pos number with rfl | positive
  · simp [spareBits]
  · have leading := (Nat.log2_lt (Nat.ne_of_gt positive)).mpr small
    rw [spareBits]
    omega

/-- The largest number of 53 bits above some that are zero. -/
def full (bits : Nat) : Nat := (2 ^ 53 - 1) * 2 ^ bits

/-- Nothing less than half a unit beyond a number of 53 bits is rounded beyond it. -/
theorem nearest_full (number bits : Nat) (near : number < full (bits + 1) + 2 ^ bits) :
    nearest number 1 ≤ full (bits + 1) := by
  unfold full at *
  have double : 2 ^ (bits + 1) = 2 * 2 ^ bits := Nat.pow_succ'
  have positive := Nat.two_pow_pos bits
  -- a shorter number has smaller units, and one of full length has less than half of one
  by_cases small : number < 2 ^ (bits + 53)
  · have moved := nearest_le number
    have unit : 2 ^ spareBits number ≤ 2 ^ bits :=
      Nat.pow_le_pow_right (by decide) (spareBits_le number bits small)
    rw [Nat.pow_add] at small
    omega
  · have high : number < 2 ^ (bits + 1 + 53) := by
      rw [Nat.pow_add]
      omega
    have least := Nat.le_of_not_lt small
    have low : bits + 53 ≤ number.log2 :=
      (Nat.le_log2 (Nat.ne_of_gt (Nat.lt_of_lt_of_le (Nat.two_pow_pos _) least))).mpr least
    have last : spareBits number = bits + 1 := by
      have most := spareBits_le number (bits + 1) high
      rw [spareBits] at most ⊢
      omega
    rw [nearest_one, last]
    exact Nat.mul_le_mul_right _ (divideToEven_le _ _ _ (by omega))

theorem full_lt (bits : Nat) : full bits < 1 <<< (53 + bits) := by
  rw [full, Nat.one_shiftLeft, Nat.pow_add]
  exact Nat.mul_lt_mul_of_pos_right (by decide) (Nat.two_pow_pos bits)

theorem nearest_lt (number bits : Nat) (small : number < 2 ^ bits) :
    nearest number 1 < 2 ^ (bits + 1) := by
  have double : 2 ^ (bits + 1) = 2 * 2 ^ bits := Nat.pow_succ'
  have moved := nearest_le number
  rcases Nat.eq_zero_or_pos number with rfl | positive
  · simp [nearest, divideToEven]
  · have unit := two_pow_spareBits number positive
    omega

theorem natAbs_signed (x : Double) : x.signed.natAbs = x.steps := by
  unfold signed
  split <;> simp

theorem sub_le (x y : Double) (bits : Nat) (within : x.steps ≤ full (bits + 1))
    (small : y.steps < 2 ^ bits) : (x.sub y).steps ≤ full (bits + 1) := by
  refine nearest_full _ bits ?_
  have sum := Int.natAbs_add_le x.signed y.neg.signed
  rw [natAbs_signed, natAbs_signed] at sum
  exact sum.trans_lt (Nat.add_lt_add_of_le_of_lt within small)

/-- Least steps in the largest finite double. -/
def largest : Nat := full 2045

theorem nearest_shifted_lt (number shift bits : Nat) (small : number < 2 ^ 64)
    (room : 64 + shift + 1 ≤ bits) : nearest (number * (1 <<< shift)) 1 < 2 ^ bits := by
  have shifted : number * (1 <<< shift) < 2 ^ (64 + shift) := by
    rw [Nat.one_shiftLeft, Nat.pow_add]
    exact Nat.mul_lt_mul_of_pos_right small (Nat.two_pow_pos shift)
  exact (nearest_lt _ _ shifted).trans_le (Nat.pow_le_pow_right (by decide) room)

theorem steps_ofInt_lt (number : Int) (small : number.natAbs < 2 ^ 64) :
    (ofInt number).steps < 2 ^ 2044 :=
  nearest_shifted_lt number.natAbs 1074 2044 small (by decide)

theorem two_pow_le_full (bits : Nat) : 2 ^ bits ≤ full (bits + 1) := by
  rw [full, Nat.pow_succ]
  omega

theorem ofInt_le_largest (number : Int) (small : number.natAbs < 2 ^ 64) :
    (ofInt number).steps ≤ largest :=
  (Nat.le_of_lt (steps_ofInt_lt number small)).trans (two_pow_le_full 2044)

theorem sub_ofInt_finite (x : Double) (number : Int) (within : x.steps ≤ largest)
    (small : number.natAbs < 2 ^ 64) : (x.sub (ofInt number)).steps < limit :=
  (sub_le x (ofInt number) 2044 within (steps_ofInt_lt number small)).trans_lt (full_lt 2045)

end Bounds
end DataGrid.Double
