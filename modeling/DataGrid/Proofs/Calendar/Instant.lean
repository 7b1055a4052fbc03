import DataGrid.Calendar.Instant
import Mathlib
/-!
Bounds of calendar parts and of instants: a month is one of twelve and a weekday one of seven. The
instants of the supported years and those that timestamps spell are far from the ends of 64 bits.
-/
namespace DataGrid.Calendar

theorem weekday_lt (days : Int) : weekday days < 7 := by
  unfold weekday
  omega

theorem month_of_day (dayOfYear month : Int) (first : 0 ≤ dayOfYear) (last : dayOfYear ≤ 365)
    (counted : month = (5 * dayOfYear + 2) / 153) : 0 ≤ month ∧ month ≤ 11 := by
  omega

/-- The year of a day in a century, counted by cycles of four years and by the year in such a cycle,
of which the last one has the leap day. -/
theorem year_of_century (century day year : Int) (centuries : 0 ≤ century ∧ century ≤ 3)
    (first : 0 ≤ day) (last : day < 36524)
    (counted : year = (36500 * century + day - (24 * century + day) / 1460) / 365) :
    ∃ quarter, year = 100 * century + 4 * (day / 1461) + quarter ∧ 0 ≤ quarter ∧ quarter ≤ 3 ∧
      365 * quarter ≤ day % 1461 ∧ day % 1461 ≤ 365 * quarter + 365 := by
  have parts := Int.mul_ediv_add_emod day 1461
  have low := Int.emod_nonneg day (b := 1461) (by omega)
  have high := Int.emod_lt_of_pos day (b := 1461) (by omega)
  generalize day / 1461 = cycle at *
  generalize day % 1461 = rest at *
  -- the last day of four years belongs to the fourth, which has one day more
  by_cases leap : rest = 1460
  · exact ⟨3, by omega, by omega, by omega, by omega, by omega⟩
  · exact ⟨rest / 365, by omega, by omega, by omega, by omega, by omega⟩

/-- A day of a cycle of 400 years falls into a year of at most 366 days. -/
theorem day_of_cycle (day year : Int) (first : 0 ≤ day) (last : day < 146097)
    (counted : year = (day - day / 1460 + day / 36524 - day / 146096) / 365) :
    0 ≤ day - (365 * year + year / 4 - year / 100) ∧
      day - (365 * year + year / 4 - year / 100) ≤ 365 := by
  -- the last day of a cycle is a leap day that no century has
  by_cases final : day = 146096
  · subst final counted
    decide
  · obtain ⟨century, rest, rfl, centuries, low, high⟩ : ∃ century rest : Int,
        day = 36524 * century + rest ∧ (0 ≤ century ∧ century ≤ 3) ∧ 0 ≤ rest ∧ rest < 36524 :=
      ⟨day / 36524, day % 36524, by omega, by omega, by omega, by omega⟩
    clear final first last
    have years : year = (36500 * century + rest - (24 * century + rest) / 1460) / 365 := by
      have whole : (36524 * century + rest) / 146096 = 0 :=
        Int.ediv_eq_zero_of_lt (by omega) (by omega)
      have again : (36524 * century + rest) / 36524 = century := by omega
      have days : (36524 * century + rest) / 1460 = 25 * century + (24 * century + rest) / 1460 := by
        omega
      rw [counted, whole, again, days]
      congr 1
      omega
    obtain ⟨quarter, found, first, last, after, before⟩ := year_of_century century rest year centuries
      low high years
    clear counted years
    have parts := Int.mul_ediv_add_emod rest 1461
    have cycles : 0 ≤ rest / 1461 ∧ rest / 1461 ≤ 24 := by omega
    generalize rest / 1461 = cycle at *
    generalize rest % 1461 = day at *
    have quarters : year / 4 = 25 * century + cycle := by omega
    have hundreds : year / 100 = century := by omega
    rw [quarters, hundreds]
    omega

theorem month_bounds (days : Int) :
    1 ≤ (Date.ofDays days).month ∧ (Date.ofDays days).month ≤ 12 := by
  unfold Date.ofDays
  dsimp only
  have inCycle : 0 ≤ (days + epochShift) % cycleDays ∧ (days + epochShift) % cycleDays < 146097 := by
    unfold cycleDays
    omega
  have inYear := day_of_cycle _ _ inCycle.1 inCycle.2 rfl
  have inMonths := month_of_day _ _ inYear.1 inYear.2 rfl
  generalize (5 * _ + 2) / 153 = month at inMonths ⊢
  split <;> omega

/-- The supported years end long before the instants of 64 bits do. -/
theorem inRange_bounds (millis : Int) (supported : inRange millis = true) :
    -(2 ^ 60) < millis ∧ millis < 2 ^ 60 := by
  have start : Date.toDays ⟨-262143, 1, 1⟩ = -96465292 := by decide
  have stop : Date.toDays ⟨262142, 12, 31⟩ = 95026236 := by decide
  simp only [inRange, start, stop, millisPerDay, Bool.and_eq_true, decide_eq_true_eq] at supported
  omega

namespace Timestamp

theorem digit_le (c : Char) (digit : c.isDigit = true) : c.toNat - '0'.toNat ≤ 9 := by
  have ends := Char.isDigit_iff_toNat.mp digit
  have zero : '0'.toNat = 48 := rfl
  have nine : '9'.toNat = 57 := rfl
  omega

theorem digits_lt (count : Nat) (text rest : List Char) (number : Nat)
    (read : digits count text = some (number, rest)) : number < 10 ^ count := by
  induction count generalizing text number with
  | zero =>
      rw [digits] at read
      have zero := (Prod.mk.inj (Option.some.inj read)).1
      omega
  | succ count ih =>
      cases text with
      | nil => simp [digits] at read
      | cons c text =>
          rw [digits] at read
          split at read
          · rename_i digit
            obtain ⟨⟨low, after⟩, found, same⟩ := Option.map_eq_some_iff.mp read
            have tail := ih text low (by rw [found, ← (Prod.mk.inj same).2])
            have head := Nat.mul_le_mul_right (10 ^ count) (digit_le c digit)
            rw [← (Prod.mk.inj same).1, Nat.pow_eq, Nat.pow_succ]
            omega
          · contradiction

theorem decimal_lt (sum : Nat) (text : List Char) (shown : ∀ c ∈ text, c.isDigit = true) :
    text.foldl (fun sum c => sum * 10 + (c.toNat - '0'.toNat)) sum < (sum + 1) * 10 ^ text.length := by
  induction text generalizing sum with
  | nil => simp
  | cons c text ih =>
      have tail := ih (sum * 10 + (c.toNat - '0'.toNat))
        fun other member => shown other (List.mem_cons_of_mem c member)
      have head := digit_le c (shown c (by simp))
      refine Nat.lt_of_lt_of_le tail ?_
      rw [List.length_cons, Nat.pow_succ, Nat.mul_comm (10 ^ _) 10, ← Nat.mul_assoc]
      exact Nat.mul_le_mul_right _ (by omega)

theorem fraction_lt (text rest : List Char) (milli : Nat)
    (read : fraction text = some (milli, rest)) : milli < 1000 := by
  unfold fraction at read
  dsimp only at read
  split at read
  · contradiction
  · rw [← (Prod.mk.inj (Option.some.inj read)).1]
    have shown : ∀ c ∈ (text.takeWhile Char.isDigit ++ ['0', '0']).take 3, c.isDigit = true := by
      intro c member
      rcases List.mem_append.mp (List.mem_of_mem_take member) with digit | zero
      · exact List.all_eq_true.mp List.all_takeWhile c digit
      · have same : c = '0' := by simpa using zero
        rw [same]
        decide
    have bound := decimal_lt 0 _ shown
    have size : ((text.takeWhile Char.isDigit ++ ['0', '0']).take 3).length ≤ 3 :=
      List.length_take_le 3 _
    exact Nat.lt_of_lt_of_le bound (by simpa using Nat.pow_le_pow_right (by decide) size)

theorem optionalFraction_lt (text rest : List Char) (milli : Nat)
    (read : optionalFraction text = some (milli, rest)) : milli < 1000 := by
  unfold optionalFraction at read
  split at read
  · exact fraction_lt _ _ _ read
  · have zero := (Prod.mk.inj (Option.some.inj read)).1
    omega

theorem zone_bounds (text rest : List Char) (east : Int)
    (read : zone text = some (east, rest)) : -1500 < east ∧ east < 1500 := by
  unfold zone at read
  split at read
  · have same := (Prod.mk.inj (Option.some.inj read)).1
    omega
  · have same := (Prod.mk.inj (Option.some.inj read)).1
    omega
  · simp only [Option.bind_eq_bind, Option.bind_eq_some_iff] at read
    obtain ⟨negative, _, ⟨hours, _⟩, _, _, _, ⟨minutes, _⟩, _, last⟩ := read
    dsimp only at last
    split at last
    · rename_i bounds
      have same := (Prod.mk.inj (Option.some.inj last)).1
      cases negative with
      | false =>
          rw [if_neg Bool.false_ne_true] at same
          omega
      | true =>
          rw [if_pos rfl] at same
          omega
    · contradiction
  · contradiction

theorem toDays_bounds (date : Date) (valid : date.isValid = true) (start : 0 ≤ date.year)
    (stop : date.year < 10000) : -1000000 < date.toDays ∧ date.toDays < 4000000 := by
  simp only [Date.isValid, Bool.and_eq_true, decide_eq_true_eq] at valid
  have length : monthLength date.year date.month ≤ 31 := by
    unfold monthLength
    split
    · split <;> omega
    · omega
    · omega
    · omega
    · omega
    · omega
  have shifted : ∃ year : Int, (if date.month ≤ 2 then date.year - 1 else date.year) = year ∧
      -1 ≤ year ∧ year < 10000 := by
    split
    · exact ⟨_, rfl, by omega, by omega⟩
    · exact ⟨_, rfl, by omega, by omega⟩
  obtain ⟨year, same, low, high⟩ := shifted
  unfold Date.toDays cycleDays epochShift
  dsimp only
  rw [same]
  omega

theorem date_year (text rest : List Char) (date : Date) (read : date? text = some (date, rest)) :
    0 ≤ date.year ∧ date.year < 10 ^ 4 := by
  unfold date? at read
  simp only [Option.bind_eq_bind, Option.bind_eq_some_iff] at read
  obtain ⟨⟨year, _⟩, years, _, _, ⟨month, _⟩, _, _, _, ⟨day, _⟩, _, last⟩ := read
  have yearLt := digits_lt 4 _ _ _ years
  cases last
  exact ⟨Int.natCast_nonneg year, Int.ofNat_lt.mpr yearLt⟩

/-- A timestamp spells an instant of the years 0 to 9999. -/
theorem millis_bounds (text : String) (millis : Int) (read : millis? text = some millis) :
    -(2 ^ 60) < millis ∧ millis < 2 ^ 60 := by
  unfold millis? at read
  simp only [Option.bind_eq_bind, Option.bind_eq_some_iff] at read
  obtain ⟨⟨date, _⟩, dates, _, _, ⟨hour, minute, second, _⟩, _, ⟨milli, _⟩, fractions,
    ⟨east, _⟩, zones, last⟩ := read
  have years := date_year _ _ _ dates
  have eastLt := zone_bounds _ _ _ zones
  have milliLt := optionalFraction_lt _ _ _ fractions
  dsimp only at last
  split at last
  · rename_i bounds
    have days := toDays_bounds date bounds.2.1 years.1 years.2
    have same := Option.some.inj last
    unfold millisPerDay at same
    generalize date.toDays = day at days same
    omega
  · contradiction

end Timestamp

end DataGrid.Calendar
