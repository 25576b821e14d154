import Mathlib.Tactic.IntervalCases
import Mathlib.Tactic.SplitIfs

/-!
# The proleptic Gregorian calendar

Every day has a number, counted from the first of January of the year 0, and every number is that of
one date. The year of a number is estimated from the mean length of a year and corrected by one.
-/

namespace Foundation.Calendar

/-- A leap year. -/
def IsLeap (year : Int) : Prop := year % 4 = 0 ∧ (year % 100 ≠ 0 ∨ year % 400 = 0)

instance (year : Int) : Decidable (IsLeap year) :=
  inferInstanceAs (Decidable (_ ∧ _))

/-- The leap day of a year, when it has one. -/
def leapDay (year : Int) : Int := if IsLeap year then 1 else 0

/-- The days of a month. -/
def monthLength (year : Int) (month : Nat) : Nat :=
  if month = 2 then if IsLeap year then 29 else 28
  else if month ∈ [4, 6, 9, 11] then 30 else 31

/-- The days from the first of January of the year 0 to that of a year. -/
def daysBeforeYear (year : Int) : Int :=
  365 * year + (year + 3) / 4 - (year + 99) / 100 + (year + 399) / 400

/-- The days of a year before a month, in a year with or without a leap day. -/
def daysBeforeMonth (leapDay : Int) : Nat → Int
  | 1 => 0
  | 2 => 31
  | 3 => 59 + leapDay
  | 4 => 90 + leapDay
  | 5 => 120 + leapDay
  | 6 => 151 + leapDay
  | 7 => 181 + leapDay
  | 8 => 212 + leapDay
  | 9 => 243 + leapDay
  | 10 => 273 + leapDay
  | 11 => 304 + leapDay
  | _ => 334 + leapDay

/-- The number of a date. -/
def dayNumber (year : Int) (month day : Nat) : Int :=
  daysBeforeYear year + daysBeforeMonth (leapDay year) month + day - 1

/-- The year of a day. -/
def yearOf (n : Int) : Int :=
  let year := 400 * n / 146097
  if daysBeforeYear (year + 1) ≤ n then year + 1
  else if n < daysBeforeYear year then year - 1
  else year

/-- The last month up to a given one that has begun on a day of a year, which is counted from 0. -/
def monthUpTo (leapDay day : Int) : Nat → Nat
  | 0 => 1
  | month + 1 =>
    if daysBeforeMonth leapDay (month + 1) ≤ day then month + 1 else monthUpTo leapDay day month

/-- The month of a day of a year. -/
def monthOf (leapDay day : Int) : Nat := monthUpTo leapDay day 12

/-- The date of a day. -/
def civil (n : Int) : Int × Nat × Nat :=
  let year := yearOf n
  let day := n - daysBeforeYear year
  let month := monthOf (leapDay year) day
  (year, month, (day - daysBeforeMonth (leapDay year) month).toNat + 1)

/-- A leap day is one day. -/
theorem leapDay_cases (year : Int) :
    IsLeap year ∧ leapDay year = 1 ∨ ¬ IsLeap year ∧ leapDay year = 0 := by
  by_cases leap : IsLeap year
  · exact .inl ⟨leap, if_pos leap⟩
  · exact .inr ⟨leap, if_neg leap⟩

/-- A year ends after 365 days and its leap day. -/
theorem daysBeforeYear_succ (year : Int) :
    daysBeforeYear (year + 1) = daysBeforeYear year + 365 + leapDay year := by
  have leap := leapDay_cases year
  unfold IsLeap at leap
  unfold daysBeforeYear
  omega

/-- Years are in order. -/
theorem daysBeforeYear_mono {year later : Int} (ordered : year ≤ later) :
    daysBeforeYear year ≤ daysBeforeYear later := by
  unfold daysBeforeYear
  omega

/-- A day lies in its year. -/
theorem yearOf_bounds (n : Int) :
    daysBeforeYear (yearOf n) ≤ n ∧ n < daysBeforeYear (yearOf n + 1) := by
  have estimate : daysBeforeYear (400 * n / 146097 - 1) ≤ n ∧
      n < daysBeforeYear (400 * n / 146097 + 1 + 1) := by
    unfold daysBeforeYear
    omega
  unfold yearOf
  dsimp only
  split_ifs with early late
  · exact ⟨early, estimate.2⟩
  · rw [Int.sub_add_cancel]
    exact ⟨estimate.1, late⟩
  · exact ⟨Int.not_lt.mp late, Int.not_le.mp early⟩

/-- A day lies in no other year. -/
theorem yearOf_unique {n year : Int} (lower : daysBeforeYear year ≤ n)
    (upper : n < daysBeforeYear (year + 1)) : yearOf n = year := by
  obtain ⟨lower', upper'⟩ := yearOf_bounds n
  rcases Int.lt_trichotomy (yearOf n) year with before | same | after
  · have ordered := daysBeforeYear_mono (Int.add_one_le_of_lt before)
    omega
  · exact same
  · have ordered := daysBeforeYear_mono (Int.add_one_le_of_lt after)
    omega

/-- The months of a year follow one another. -/
theorem daysBeforeMonth_succ (year : Int) (month : Nat) (valid : 1 ≤ month ∧ month < 12) :
    daysBeforeMonth (leapDay year) (month + 1) =
      daysBeforeMonth (leapDay year) month + monthLength year month := by
  obtain ⟨lower, upper⟩ := valid
  rcases leapDay_cases year with ⟨leap, one⟩ | ⟨common, none⟩
  · interval_cases month <;> simp [daysBeforeMonth, monthLength, leap, one]
  · interval_cases month <;> simp [daysBeforeMonth, monthLength, common, none]

/-- The last month ends with the year. -/
theorem daysBeforeMonth_december (year : Int) :
    daysBeforeMonth (leapDay year) 12 + monthLength year 12 = 365 + leapDay year := by
  simp only [daysBeforeMonth, monthLength]
  simp
  omega

/-- No month is empty. -/
theorem monthLength_pos (year : Int) (month : Nat) : 0 < monthLength year month := by
  unfold monthLength
  split_ifs <;> omega

/-- Months are in order. -/
theorem daysBeforeMonth_mono (year : Int) (month later : Nat) (first : 1 ≤ month)
    (ordered : month ≤ later) (last : later ≤ 12) :
    daysBeforeMonth (leapDay year) month ≤ daysBeforeMonth (leapDay year) later := by
  induction later, ordered using Nat.le_induction with
  | base => exact Int.le_refl _
  | succ later ordered ih =>
    have step := daysBeforeMonth_succ year later ⟨by omega, by omega⟩
    have earlier := ih (by omega)
    omega

/-- The last month that has begun. -/
theorem monthUpTo_bounds {leapDay day : Int} (lower : 0 ≤ day) (month : Nat)
    (upper : month + 1 ≤ 12 → day < daysBeforeMonth leapDay (month + 1)) (inside : month ≤ 12)
    (some : 1 ≤ month) :
    (1 ≤ monthUpTo leapDay day month ∧ monthUpTo leapDay day month ≤ 12) ∧
      daysBeforeMonth leapDay (monthUpTo leapDay day month) ≤ day ∧
      (monthUpTo leapDay day month + 1 ≤ 12 →
        day < daysBeforeMonth leapDay (monthUpTo leapDay day month + 1)) := by
  induction month with
  | zero => omega
  | succ month ih =>
    rw [monthUpTo]
    split_ifs with begun
    · exact ⟨⟨some, inside⟩, begun, upper⟩
    · have earlier : 1 ≤ month := by
        by_contra none
        have zero : month = 0 := by omega
        subst zero
        exact begun lower
      exact ih (fun _ => Int.not_le.mp begun) (by omega) earlier

/-- A day of a year lies in its month. -/
theorem monthOf_bounds (leapDay day : Int) (lower : 0 ≤ day) :
    (1 ≤ monthOf leapDay day ∧ monthOf leapDay day ≤ 12) ∧
      daysBeforeMonth leapDay (monthOf leapDay day) ≤ day ∧
      (monthOf leapDay day + 1 ≤ 12 → day < daysBeforeMonth leapDay (monthOf leapDay day + 1)) :=
  monthUpTo_bounds lower 12 (by omega) (by omega) (by omega)

/-- A day of a year lies in no other month. -/
theorem monthOf_unique {year day : Int} {month : Nat} (valid : 1 ≤ month ∧ month ≤ 12)
    (lower : daysBeforeMonth (leapDay year) month ≤ day)
    (upper : day < daysBeforeMonth (leapDay year) month + monthLength year month) :
    monthOf (leapDay year) day = month := by
  have positive : 0 ≤ day := by
    have first := daysBeforeMonth_mono year 1 month (Nat.le_refl 1) valid.1 valid.2
    have zero : daysBeforeMonth (leapDay year) 1 = 0 := rfl
    omega
  obtain ⟨valid', lower', upper'⟩ := monthOf_bounds (leapDay year) day positive
  rcases Nat.lt_trichotomy (monthOf (leapDay year) day) month with before | same | after
  · have ordered := daysBeforeMonth_mono year (monthOf (leapDay year) day + 1) month (by omega)
      (by omega) valid.2
    have inside := upper' (by omega)
    omega
  · exact same
  · have next := daysBeforeMonth_succ year month ⟨valid.1, by omega⟩
    have ordered := daysBeforeMonth_mono year (month + 1) (monthOf (leapDay year) day) (by omega)
      (by omega) valid'.2
    omega

/-- The number of a date is that of its date only. -/
theorem civil_dayNumber {year : Int} {month day : Nat} (valid : 1 ≤ month ∧ month ≤ 12)
    (days : 1 ≤ day ∧ day ≤ monthLength year month) :
    civil (dayNumber year month day) = (year, month, day) := by
  have ends : daysBeforeMonth (leapDay year) month + monthLength year month ≤
      365 + leapDay year := by
    by_cases december : month = 12
    · rw [december, daysBeforeMonth_december]
    · have next := daysBeforeMonth_succ year month ⟨valid.1, by omega⟩
      have ordered := daysBeforeMonth_mono year (month + 1) 12 (by omega) (by omega)
        (Nat.le_refl 12)
      have whole := daysBeforeMonth_december year
      have longer := monthLength_pos year 12
      omega
  have begins : 0 ≤ daysBeforeMonth (leapDay year) month :=
    daysBeforeMonth_mono year 1 month (Nat.le_refl 1) valid.1 valid.2
  have years : yearOf (dayNumber year month day) = year := by
    have next := daysBeforeYear_succ year
    apply yearOf_unique <;> unfold dayNumber <;> omega
  have day_eq : dayNumber year month day - daysBeforeYear year =
      daysBeforeMonth (leapDay year) month + day - 1 := by
    unfold dayNumber
    omega
  have months : monthOf (leapDay year) (daysBeforeMonth (leapDay year) month + day - 1) = month :=
    monthOf_unique valid (by omega) (by omega)
  unfold civil
  simp only [years, day_eq, months, Prod.mk.injEq, true_and]
  omega

/-- Every day is that of its date. -/
theorem dayNumber_civil (n : Int) :
    dayNumber (civil n).1 (civil n).2.1 (civil n).2.2 = n := by
  obtain ⟨lower, upper⟩ := yearOf_bounds n
  have begun := (monthOf_bounds (leapDay (yearOf n)) (n - daysBeforeYear (yearOf n))
    (by omega)).2.1
  unfold civil dayNumber
  dsimp only
  omega

/-- The date of a day is valid. -/
theorem civil_valid (n : Int) : (1 ≤ (civil n).2.1 ∧ (civil n).2.1 ≤ 12) ∧
    1 ≤ (civil n).2.2 ∧ (civil n).2.2 ≤ monthLength (civil n).1 (civil n).2.1 := by
  obtain ⟨lower, upper⟩ := yearOf_bounds n
  obtain ⟨valid, begun, next⟩ := monthOf_bounds (leapDay (yearOf n))
    (n - daysBeforeYear (yearOf n)) (by omega)
  refine ⟨valid, ?_⟩
  unfold civil
  dsimp only
  by_cases december : monthOf (leapDay (yearOf n)) (n - daysBeforeYear (yearOf n)) = 12
  · have whole := daysBeforeMonth_december (yearOf n)
    have year := daysBeforeYear_succ (yearOf n)
    rw [december] at begun ⊢
    omega
  · have inside := next (by omega)
    have month := daysBeforeMonth_succ (yearOf n)
      (monthOf (leapDay (yearOf n)) (n - daysBeforeYear (yearOf n))) ⟨valid.1, by omega⟩
    omega

example : dayNumber 1970 1 1 = 719528 ∧ civil 719528 = (1970, 1, 1) := by decide

end Foundation.Calendar
