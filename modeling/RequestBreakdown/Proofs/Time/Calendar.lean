import Mathlib.Algebra.Order.Group.Nat
import Mathlib.Algebra.Order.Ring.Nat
import RequestBreakdown.Time.Calendar

/-!
# The calendar and the day numbers

Every day lies in one year and in one month of it, so that taking a day number apart into
a date and putting the date together again gives the same number.  The date is a valid
one as long as its year is.
-/

namespace RequestBreakdown

/-! ## Years -/

/-- Four hundred years have 146097 days, and no year starts far from where it would if they
were all of one length. -/
theorem daysBeforeYear_mean (past : Nat) :
    146097 * past ≤ 400 * daysBeforeYear (past + 1) + 699 ∧
      400 * daysBeforeYear (past + 1) ≤ 146097 * past + 396 := by
  simp only [daysBeforeYear, Nat.add_sub_cancel]
  omega

theorem isLeapYear_iff {year : Nat} :
    isLeapYear year = true ↔ 4 ∣ year ∧ (¬ 100 ∣ year ∨ 400 ∣ year) := by
  simp [isLeapYear, Nat.dvd_iff_mod_eq_zero]

theorem daysBeforeYear_succ {year : Nat} (hyear : 1 ≤ year) :
    daysBeforeYear (year + 1) = daysBeforeYear year + if isLeapYear year then 366 else 365 := by
  obtain ⟨past, rfl⟩ := Nat.exists_eq_add_of_le' hyear
  have hless : past / 100 ≤ past / 4 := Nat.div_le_div_left (by decide) (by decide)
  simp only [daysBeforeYear, Nat.add_sub_cancel, Nat.succ_div, isLeapYear_iff]
  generalize past / 4 = fours at hless ⊢
  generalize past / 100 = hundreds at hless ⊢
  generalize past / 400 = fourHundreds
  split_ifs <;> omega

theorem daysBeforeYear_mono {year later : Nat} (hle : year ≤ later) :
    daysBeforeYear year ≤ daysBeforeYear later := by
  induction later, hle using Nat.le_induction with
  | base => exact Nat.le_refl _
  | succ later hle ih =>
      rcases Nat.eq_zero_or_pos later with rfl | hpos
      · exact ih
      · have hsucc := daysBeforeYear_succ hpos
        omega

theorem monthLength_le (year month : Nat) : monthLength year month ≤ 31 := by
  have hall : ∀ length ∈ monthLengths year, length ≤ 31 := by
    simp only [monthLengths, List.forall_mem_cons, List.not_mem_nil, false_implies, implies_true,
      and_true]
    split <;> decide
  rw [monthLength, List.getD_eq_getElem?_getD]
  cases hlength : (monthLengths year)[month - 1]? with
  | none => exact Nat.zero_le 31
  | some length => exact hall length (List.mem_of_getElem? hlength)

namespace CivilDate

/-- The estimate of the year is off by one at most. -/
theorem yearOfDay_bounds (n : Nat) :
    1 ≤ yearOfDay n ∧ daysBeforeYear (yearOfDay n) ≤ n ∧
      n < daysBeforeYear (yearOfDay n + 1) := by
  obtain ⟨past, hpast⟩ : ∃ past, n * 400 / 146097 = past := ⟨_, rfl⟩
  have hlow : past * 146097 ≤ n * 400 := by omega
  have hhigh : n * 400 < (past + 1) * 146097 := by omega
  have hnext : 146097 * (past + 2) ≤ 400 * daysBeforeYear (past + 1 + 1 + 1) + 699 :=
    (daysBeforeYear_mean (past + 2)).1
  unfold yearOfDay
  simp only [hpast]
  split
  · rename_i hbefore
    rcases past with _ | before
    · exact absurd hbefore (Nat.not_lt_zero n)
    · have hfirst := (daysBeforeYear_mean before).2
      refine ⟨by omega, ?_, hbefore⟩
      rw [Nat.add_sub_cancel]
      omega
  · split
    · exact ⟨by omega, ‹_›, by omega⟩
    · exact ⟨by omega, by omega, by omega⟩

theorem le_yearOfDay_iff {n year : Nat} : year ≤ yearOfDay n ↔ daysBeforeYear year ≤ n := by
  obtain ⟨-, hlow, hhigh⟩ := yearOfDay_bounds n
  constructor
  · intro hle
    exact Nat.le_trans (daysBeforeYear_mono hle) hlow
  · intro hle
    by_contra hlater
    have hmono : daysBeforeYear (yearOfDay n + 1) ≤ daysBeforeYear year :=
      daysBeforeYear_mono (by omega)
    omega

/-! ## Months -/

/-- A day that lies in the months given is a day of one of them, behind those before it. -/
theorem monthAndDay_spec {lengths : List Nat} (month : Nat) {rest : Nat}
    (hrest : rest < lengths.sum) :
    ∃ i < lengths.length, (monthAndDay lengths month rest).1 = month + i ∧
      1 ≤ (monthAndDay lengths month rest).2 ∧
      (monthAndDay lengths month rest).2 ≤ lengths.getD i 0 ∧
      (lengths.take i).sum + ((monthAndDay lengths month rest).2 - 1) = rest := by
  fun_induction monthAndDay lengths month rest with
  | case1 month rest => exact absurd hrest (Nat.not_lt_zero rest)
  | case2 length month rest =>
      have hlast : rest < length := by simpa using hrest
      exact ⟨0, by simp, rfl, by omega, by simpa [Nat.succ_le_iff] using hlast, by simp⟩
  | case3 length lengths month rest hlast hlt =>
      exact ⟨0, by simp, rfl, by omega, by simpa [Nat.succ_le_iff] using hlt, by simp⟩
  | case4 length lengths month rest hlast hlt ih =>
      have hlater : rest - length < lengths.sum := by
        rw [List.sum_cons] at hrest
        omega
      obtain ⟨i, hi, hmonth, hday, hlength, hsum⟩ := ih hlater
      refine ⟨i + 1, by simpa using hi, by omega, hday, by simpa using hlength, ?_⟩
      rw [List.take_succ_cons, List.sum_cons]
      omega

theorem sum_monthLengths (year : Nat) :
    (monthLengths year).sum = if isLeapYear year then 366 else 365 := by
  unfold monthLengths
  split
  · rfl
  · rfl

/-- What is known of the date of a day. -/
theorem ofDayNumber_spec (n : Nat) :
    (ofDayNumber n).year = yearOfDay n ∧
      1 ≤ (ofDayNumber n).month ∧ (ofDayNumber n).month ≤ 12 ∧
      1 ≤ (ofDayNumber n).day ∧
      (ofDayNumber n).day ≤ monthLength (ofDayNumber n).year (ofDayNumber n).month ∧
      (ofDayNumber n).dayNumber = n := by
  obtain ⟨hyear, hlow, hhigh⟩ := yearOfDay_bounds n
  have hwithin : n - daysBeforeYear (yearOfDay n) < (monthLengths (yearOfDay n)).sum := by
    rw [sum_monthLengths]
    have hsucc := daysBeforeYear_succ hyear
    omega
  obtain ⟨i, hi, hmonth, hday, hlength, hsum⟩ := monthAndDay_spec 1 hwithin
  have hmonths : (monthLengths (yearOfDay n)).length = 12 := rfl
  have hindex : 1 + i - 1 = i := by omega
  refine ⟨rfl, ?_, ?_, hday, ?_, ?_⟩
  · simp only [ofDayNumber, hmonth]
    omega
  · simp only [ofDayNumber, hmonth]
    omega
  · simp only [ofDayNumber, hmonth, monthLength, hindex]
    exact hlength
  · simp only [ofDayNumber, dayNumber, hmonth, daysBeforeMonth, hindex, ← List.sum_eq_foldl_nat]
    omega

theorem dayNumber_ofDayNumber (n : Nat) : (ofDayNumber n).dayNumber = n :=
  (ofDayNumber_spec n).2.2.2.2.2

theorem isValid_ofDayNumber {n : Nat} (hyear : (ofDayNumber n).year ≤ maxYear) :
    (ofDayNumber n).isValid = true := by
  obtain ⟨hfound, hmonth, hmonth', hday, hday', -⟩ := ofDayNumber_spec n
  have hfirst : minYear ≤ (ofDayNumber n).year := hfound ▸ (yearOfDay_bounds n).1
  exact decide_eq_true ⟨hfirst, hyear, hmonth, hmonth', hday, hday'⟩

end CivilDate

end RequestBreakdown
