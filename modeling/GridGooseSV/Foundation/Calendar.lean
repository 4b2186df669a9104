import Mathlib.Data.Nat.Basic
import Mathlib.Order.Basic
import Mathlib.Tactic.IntervalCases
import Mathlib.Tactic.Ring

/-!
# The Gregorian calendar

The days of an era of 400 years that starts on a first of March, so that a leap day is the last day
of its year. The year and the month in which a day falls are found without a search.
-/

namespace GridGooseSV

/-- A year with a leap day. -/
def IsLeap (year : Nat) : Prop := year % 4 = 0 ∧ (year % 100 ≠ 0 ∨ year % 400 = 0)

instance : DecidablePred IsLeap := fun year =>
  inferInstanceAs (Decidable (year % 4 = 0 ∧ (year % 100 ≠ 0 ∨ year % 400 = 0)))

/-- The days of a month, which is counted from January. -/
def daysInMonth (year month : Nat) : Nat :=
  if month = 2 then if IsLeap year then 29 else 28
  else if month = 4 ∨ month = 6 ∨ month = 9 ∨ month = 11 then 30 else 31

/-- The days of an era before a year of it. -/
def daysBeforeYear (year : Nat) : Nat := 365 * year + year / 4 - year / 100

/-- The days of a year of an era, which has the February of the next year of the calendar. -/
def daysInYear (year : Nat) : Nat := if IsLeap (year + 1) then 366 else 365

/-- The days that come before the first of a year, with all the leap days left out. -/
def regularDays (day : Nat) : Nat := day - day / 1460 + day / 36524 - day / 146096

/-- The year of an era in which a day falls. -/
def yearOfDay (day : Nat) : Nat := regularDays day / 365

/-- The days of a year before a month, which is counted from March. -/
def daysBeforeMonth (month : Nat) : Nat := (153 * month + 2) / 5

/-- The month in which a day of a year falls. -/
def monthOfDay (day : Nat) : Nat := (5 * day + 2) / 153

section Years

variable {day year : Nat}

theorem regularDays_mono {first second : Nat} (ordered : first ≤ second)
    (inside : second < 146097) : regularDays first ≤ regularDays second := by
  induction second, ordered using Nat.le_induction with
  | base => exact Nat.le_refl _
  | succ second _ ih =>
      refine Nat.le_trans (ih (by omega)) ?_
      unfold regularDays
      omega

theorem daysInYear_cases (year : Nat) : IsLeap (year + 1) ∧ daysInYear year = 366 ∨
    ¬ IsLeap (year + 1) ∧ daysInYear year = 365 := by
  by_cases leap : IsLeap (year + 1)
  · exact .inl ⟨leap, if_pos leap⟩
  · exact .inr ⟨leap, if_neg leap⟩

/-- A year follows the days of the one before. -/
theorem daysBeforeYear_succ (inside : year < 399) :
    daysBeforeYear (year + 1) = daysBeforeYear year + daysInYear year := by
  rcases daysInYear_cases year with ⟨leap, days⟩ | ⟨leap, days⟩
  · rw [days]
    unfold IsLeap at leap
    unfold daysBeforeYear
    omega
  · rw [days]
    unfold IsLeap at leap
    unfold daysBeforeYear
    omega

/-- The years end within the era. -/
theorem daysBeforeYear_le (inside : year < 400) :
    daysBeforeYear year + daysInYear year ≤ 146097 := by
  rcases daysInYear_cases year with ⟨leap, days⟩ | ⟨leap, days⟩
  · rw [days]
    unfold daysBeforeYear
    omega
  · rw [days]
    unfold IsLeap at leap
    unfold daysBeforeYear
    omega

/-- The first and the last day of every year of an era. -/
theorem yearOfDay_ends : ∀ year < 400, yearOfDay (daysBeforeYear year) = year ∧
    yearOfDay (daysBeforeYear year + daysInYear year - 1) = year := by
  decide +kernel

/-- A day falls in the year that has it. -/
theorem yearOfDay_eq (inside : year < 400) (started : daysBeforeYear year ≤ day)
    (notOver : day < daysBeforeYear year + daysInYear year) : yearOfDay day = year := by
  obtain ⟨first, last⟩ := yearOfDay_ends year inside
  have era := daysBeforeYear_le inside
  have lower := regularDays_mono started (by omega)
  have upper : regularDays day ≤ regularDays (daysBeforeYear year + daysInYear year - 1) :=
    regularDays_mono (by omega) (by omega)
  apply Nat.le_antisymm
  · rw [← last]
    exact Nat.div_le_div_right upper
  · rw [← first]
    exact Nat.div_le_div_right lower

/-- Every day of an era falls in a year of it. -/
theorem exists_year (inside : day < 146097) :
    ∃ year < 400, daysBeforeYear year ≤ day ∧ day < daysBeforeYear year + daysInYear year := by
  by_contra none
  push Not at none
  have later : ∀ year < 400, daysBeforeYear year ≤ day := by
    intro year
    induction year with
    | zero => exact fun _ => Nat.zero_le day
    | succ year ih =>
        intro bound
        rw [daysBeforeYear_succ (by omega)]
        exact none year (by omega) (ih (by omega))
  have last := none 399 (by decide) (later 399 (by decide))
  have total : daysBeforeYear 399 + daysInYear 399 = 146097 := rfl
  omega

/-- The year of a day has it. -/
theorem yearOfDay_spec (inside : day < 146097) :
    yearOfDay day < 400 ∧ daysBeforeYear (yearOfDay day) ≤ day ∧
      day < daysBeforeYear (yearOfDay day) + daysInYear (yearOfDay day) := by
  obtain ⟨year, bound, started, notOver⟩ := exists_year inside
  rw [yearOfDay_eq bound started notOver]
  exact ⟨bound, started, notOver⟩

end Years

section Months

variable {day month : Nat}

/-- The month of a day has it. -/
theorem monthOfDay_spec (day : Nat) : daysBeforeMonth (monthOfDay day) ≤ day ∧
    day < daysBeforeMonth (monthOfDay day + 1) := by
  unfold daysBeforeMonth monthOfDay
  omega

/-- A day falls in the month that has it. -/
theorem monthOfDay_eq (started : daysBeforeMonth month ≤ day)
    (notOver : day < daysBeforeMonth (month + 1)) : monthOfDay day = month := by
  unfold daysBeforeMonth at started notOver
  unfold monthOfDay
  omega

/-- The month of the calendar in which a month that is counted from March falls. -/
def calendarMonth (month : Nat) : Nat := if month < 10 then month + 3 else month - 9

/-- A month has as many days as the calendar says, and the last one ends with its year. -/
theorem daysInMonth_eq (year : Nat) (inside : month < 12) :
    daysBeforeMonth month +
        daysInMonth (if month < 10 then year else year + 1) (calendarMonth month) =
      min (daysBeforeMonth (month + 1)) (daysInYear year) := by
  rcases daysInYear_cases year with ⟨leap, days⟩ | ⟨leap, days⟩
  · rw [days]
    interval_cases month <;> simp [daysBeforeMonth, calendarMonth, daysInMonth, leap]
  · rw [days]
    interval_cases month <;> simp [daysBeforeMonth, calendarMonth, daysInMonth, leap]

end Months

end GridGooseSV
