import Mathlib.Order.Monotone.Basic
import Mathlib.Tactic.IntervalCases
import VirtualNpu.Registration.Handshake

/-!
The proleptic Gregorian calendar by its rules: which years are leap years, how long the months are,
and which day follows on which.  The date of a day is found by walking the calendar from 1970-01-01,
forwards and backwards, and the number of the day is read off the date again.
-/

namespace VirtualNpu
namespace Registration

/-! ### Rules -/

def IsLeap (year : Int) : Prop := 4 ∣ year ∧ (¬ 100 ∣ year ∨ 400 ∣ year)

instance (year : Int) : Decidable (IsLeap year) :=
  inferInstanceAs (Decidable (4 ∣ year ∧ (¬ 100 ∣ year ∨ 400 ∣ year)))

def leapDays (year : Int) : Nat := if IsLeap year then 1 else 0

def monthDays (year : Int) : Nat → Nat
  | 2 => 28 + leapDays year
  | 4 => 30
  | 6 => 30
  | 9 => 30
  | 11 => 30
  | _ => 31

/-- A date is a year, a month and a day. -/
abbrev Date := Int × Nat × Nat

structure IsDate (date : Date) : Prop where
  month : 1 ≤ date.2.1 ∧ date.2.1 ≤ 12
  day : 1 ≤ date.2.2 ∧ date.2.2 ≤ monthDays date.1 date.2.1

def nextDay : Date → Date
  | (year, month, day) =>
      if day < monthDays year month then (year, month, day + 1)
      else if month < 12 then (year, month + 1, 1)
      else (year + 1, 1, 1)

/-! ### Numbers of days -/

def leapsBefore (year : Int) : Int := (year - 1) / 4 - (year - 1) / 100 + (year - 1) / 400

def yearStart (year : Int) : Int :=
  365 * (year - 1970) + (leapsBefore year - leapsBefore 1970)

def monthStart (year : Int) (month : Nat) : Nat :=
  ((List.range' 1 (month - 1)).map (monthDays year)).sum

/-- The days from 1970-01-01 to a date. -/
def dayNumber : Date → Int
  | (year, month, day) => yearStart year + monthStart year month + (day - 1)

theorem yearStart_succ (year : Int) :
    yearStart (year + 1) = yearStart year + 365 + leapDays year := by
  unfold yearStart leapsBefore leapDays
  by_cases leap : IsLeap year
  · rw [if_pos leap]
    unfold IsLeap at leap
    omega
  · rw [if_neg leap]
    unfold IsLeap at leap
    omega

theorem monthStart_succ (year : Int) {month : Nat} (counted : 1 ≤ month) :
    monthStart year (month + 1) = monthStart year month + monthDays year month := by
  obtain ⟨before, rfl⟩ := Nat.exists_eq_add_of_le' counted
  unfold monthStart
  rw [Nat.add_sub_cancel, Nat.add_sub_cancel, List.range'_concat, List.map_append, List.sum_append,
    List.map_singleton, List.sum_singleton, Nat.one_mul, Nat.add_comm 1 before]

theorem monthStart_yearEnd (year : Int) :
    monthStart year 12 + monthDays year 12 = 365 + leapDays year := by
  simp [monthStart, monthDays, List.range', List.sum_cons]
  omega

theorem dayNumber_nextDay {date : Date} (valid : IsDate date) :
    dayNumber (nextDay date) = dayNumber date + 1 := by
  obtain ⟨year, month, day⟩ := date
  obtain ⟨⟨first, last⟩, ⟨early, late⟩⟩ := valid
  dsimp only at first last early late
  dsimp only [nextDay]
  split
  · dsimp only [dayNumber]
    push_cast
    omega
  · rename_i ended
    have full : day = monthDays year month := by omega
    split
    · dsimp only [dayNumber]
      rw [monthStart_succ year first, full]
      push_cast
      omega
    · rename_i december
      have december : month = 12 := by omega
      subst december
      have whole := monthStart_yearEnd year
      have next := yearStart_succ year
      have begins : monthStart (year + 1) 1 = 0 := rfl
      dsimp only [dayNumber]
      rw [begins, full, next]
      push_cast
      omega

theorem monthDays_pos (year : Int) (month : Nat) : 1 ≤ monthDays year month := by
  unfold monthDays
  split <;> omega

theorem isDate_nextDay {date : Date} (valid : IsDate date) : IsDate (nextDay date) := by
  obtain ⟨year, month, day⟩ := date
  obtain ⟨⟨first, last⟩, ⟨early, late⟩⟩ := valid
  dsimp only at first last early late
  dsimp only [nextDay]
  split
  · exact ⟨⟨first, last⟩, ⟨Nat.le_add_left 1 day, ‹_›⟩⟩
  · split
    · exact ⟨⟨Nat.le_add_left 1 month, ‹_›⟩, ⟨le_rfl, monthDays_pos _ _⟩⟩
    · exact ⟨⟨le_rfl, Nat.le_add_left 1 11⟩, ⟨le_rfl, monthDays_pos _ _⟩⟩

/-! ### The order of dates -/

theorem yearStart_mono {year later : Int} (before : year ≤ later) :
    yearStart year ≤ yearStart later := by
  unfold yearStart leapsBefore
  omega

theorem monthStart_mono (year : Int) {month later : Nat} (counted : 1 ≤ month)
    (before : month ≤ later) : monthStart year month ≤ monthStart year later := by
  induction later, before using Nat.le_induction with
  | base => exact le_rfl
  | succ later before ih =>
      rw [monthStart_succ year (counted.trans before)]
      exact ih.trans (Nat.le_add_right _ _)

def Precedes (one other : Date) : Prop :=
  one.1 < other.1 ∨ one.1 = other.1 ∧
    (one.2.1 < other.2.1 ∨ one.2.1 = other.2.1 ∧ one.2.2 < other.2.2)

theorem dayNumber_within {date : Date} (valid : IsDate date) :
    yearStart date.1 ≤ dayNumber date ∧ dayNumber date < yearStart (date.1 + 1) := by
  obtain ⟨year, month, day⟩ := date
  obtain ⟨⟨first, last⟩, ⟨early, late⟩⟩ := valid
  dsimp only at first last early late ⊢
  have whole := monthStart_yearEnd year
  have upTo := monthStart_mono year (Nat.le_add_left 1 month) (Nat.add_le_add_right last 1)
  rw [monthStart_succ year first, monthStart_succ year (by omega)] at upTo
  rw [yearStart_succ]
  dsimp only [dayNumber]
  omega

theorem dayNumber_lt {one other : Date} (valid : IsDate one) (valid' : IsDate other)
    (precedes : Precedes one other) : dayNumber one < dayNumber other := by
  rcases precedes with earlier | ⟨sameYear, earlier | ⟨sameMonth, earlier⟩⟩
  · have upTo := (dayNumber_within valid).2
    have since := (dayNumber_within valid').1
    have years := yearStart_mono (Int.add_one_le_of_lt earlier)
    omega
  · obtain ⟨year, month, day⟩ := one
    obtain ⟨year', month', day'⟩ := other
    obtain ⟨⟨first, -⟩, ⟨-, late⟩⟩ := valid
    obtain ⟨-, ⟨early, -⟩⟩ := valid'
    dsimp only at sameYear earlier first late early
    subst sameYear
    have months := monthStart_mono year (Nat.le_add_left 1 month) earlier
    rw [monthStart_succ year first] at months
    dsimp only [dayNumber]
    omega
  · obtain ⟨year, month, day⟩ := one
    obtain ⟨year', month', day'⟩ := other
    dsimp only at sameYear sameMonth earlier
    subst sameYear sameMonth
    dsimp only [dayNumber]
    omega

theorem precedes_trichotomy (one other : Date) :
    Precedes one other ∨ one = other ∨ Precedes other one := by
  obtain ⟨year, month, day⟩ := one
  obtain ⟨year', month', day'⟩ := other
  simp only [Precedes, Prod.mk.injEq]
  omega

theorem dayNumber_injective {one other : Date} (valid : IsDate one) (valid' : IsDate other)
    (same : dayNumber one = dayNumber other) : one = other := by
  rcases precedes_trichotomy one other with precedes | equal | precedes
  · have less := dayNumber_lt valid valid' precedes
    omega
  · exact equal
  · have less := dayNumber_lt valid' valid precedes
    omega

/-! ### Years of an era -/

/-- The days of an era that count for 365 days of a year. -/
def commonDays (eraDay : Nat) : Nat := eraDay - eraDay / 1460 + eraDay / 36524 - eraDay / 146096

theorem commonDays_mono : Monotone commonDays := by
  refine monotone_nat_of_le_succ fun eraDay => ?_
  unfold commonDays
  omega

/-- Years of an era by their first days.  Years do not go back from one day to the next, so that it
is enough to look at the ends of each. -/
theorem eraYear_spec {eraDay : Nat} (inside : eraDay < 146097) :
    let year := commonDays eraDay / 365
    year < 400 ∧ daysBeforeYear year ≤ eraDay ∧
      eraDay < daysBeforeYear (year + 1) + if year = 399 then 1 else 0 := by
  intro year
  have ends : ∀ year < 400, commonDays (daysBeforeYear year) / 365 = year ∧
      commonDays (daysBeforeYear (year + 1) - 1) / 365 = year := by decide +kernel
  have mono {one other : Nat} (before : one ≤ other) :
      commonDays one / 365 ≤ commonDays other / 365 :=
    Nat.div_le_div_right (commonDays_mono before)
  have last : commonDays 146096 / 365 = 399 := by decide
  have small : year < 400 := by
    have upTo := mono (Nat.le_of_lt_succ inside)
    omega
  refine ⟨small, ?_, ?_⟩
  · by_contra late
    have positive : 0 < year := by
      by_contra zero
      rw [Nat.eq_zero_of_not_pos zero] at late
      exact late (Nat.zero_le _)
    have before := (ends (year - 1) (by omega)).2
    rw [Nat.sub_add_cancel positive] at before
    have upTo := mono (Nat.le_sub_one_of_lt (Nat.lt_of_not_le late))
    rw [before] at upTo
    change year ≤ year - 1 at upTo
    omega
  · split
    · rename_i final
      rw [final]
      exact inside
    · by_contra past
      have after := (ends (year + 1) (by omega)).1
      have upTo := mono (Nat.le_of_not_lt past)
      rw [Nat.add_zero, after] at upTo
      change year + 1 ≤ year at upTo
      omega

/-! ### Dates of days -/

/-- The date of a day of a year that begins in March, by months counted from zero. -/
def marchDate (year : Int) (month day : Nat) : Date :=
  let civil := if month < 10 then month + 3 else month - 9
  (if civil ≤ 2 then year + 1 else year, civil, day)

theorem dayNumber_marchDate (year : Int) {month : Nat} (inside : month < 12) (day : Nat) :
    dayNumber (marchDate year month day) =
      yearStart (year + 1) - 306 + daysBeforeMonth month + (day - 1) := by
  have next := yearStart_succ year
  interval_cases month <;>
    simp [marchDate, dayNumber, monthStart, monthDays, List.range', daysBeforeMonth] <;> omega

theorem monthDays_marchDate (year : Int) {month : Nat} (inside : month < 12) (day : Nat) :
    monthDays (marchDate year month day).1 (marchDate year month day).2.1 =
      if month < 11 then daysBeforeMonth (month + 1) - daysBeforeMonth month
      else 28 + leapDays (year + 1) := by
  interval_cases month <;> rfl

theorem eraMonth_spec {yearDay : Nat} (inside : yearDay ≤ 365) :
    let month := (5 * yearDay + 2) / 153
    month < 12 ∧ daysBeforeMonth month ≤ yearDay ∧ yearDay < daysBeforeMonth (month + 1) := by
  unfold daysBeforeMonth
  omega

theorem splitEraDay_eq (eraDay : Nat) :
    let year := commonDays eraDay / 365
    let yearDay := eraDay - daysBeforeYear year
    let month := (5 * yearDay + 2) / 153
    splitEraDay eraDay = (year, month, yearDay - daysBeforeMonth month + 1) := rfl

theorem splitEraDay_spec {eraDay : Nat} (inside : eraDay < 146097) :
    ∃ year month day, splitEraDay eraDay = (year, month, day) ∧ year < 400 ∧ month < 12 ∧
      1 ≤ day ∧ eraDay + 1 = daysBeforeYear year + daysBeforeMonth month + day ∧
      daysBeforeMonth month + day ≤ daysBeforeMonth (month + 1) ∧
      eraDay < daysBeforeYear (year + 1) + if year = 399 then 1 else 0 := by
  have split := splitEraDay_eq eraDay
  obtain ⟨small, since, upTo⟩ := eraYear_spec inside
  dsimp only at split
  generalize commonDays eraDay / 365 = year at split small since upTo
  have inYear : eraDay - daysBeforeYear year ≤ 365 := by
    unfold daysBeforeYear at *
    split at upTo <;> omega
  obtain ⟨months, begun, before⟩ := eraMonth_spec inYear
  generalize (5 * (eraDay - daysBeforeYear year) + 2) / 153 = month at split months begun before
  exact ⟨year, month, _, split, small, months, Nat.le_add_left 1 _, by omega, by omega, upTo⟩

theorem marchDate_spec {year month day eraDay : Nat} (era : Int) (small : year < 400)
    (months : month < 12) (positive : 1 ≤ day)
    (number : eraDay + 1 = daysBeforeYear year + daysBeforeMonth month + day)
    (inMonth : daysBeforeMonth month + day ≤ daysBeforeMonth (month + 1))
    (inYear : eraDay < daysBeforeYear (year + 1) + if year = 399 then 1 else 0) :
    IsDate (marchDate (year + era * 400) month day) ∧
      dayNumber (marchDate (year + era * 400) month day) = era * 146097 + eraDay - 719468 := by
  refine ⟨⟨?_, ?_, ?_⟩, ?_⟩
  · unfold marchDate
    dsimp only
    split <;> omega
  · exact positive
  · rw [monthDays_marchDate _ months]
    change day ≤ _
    split
    · omega
    · -- Only February may be longer, by the day that its year is longer.
      have february : month = 11 := by omega
      subst february
      unfold daysBeforeYear daysBeforeMonth at *
      unfold leapDays
      by_cases leap : IsLeap (year + era * 400 + 1)
      · rw [if_pos leap]
        split at inYear <;> omega
      · rw [if_neg leap]
        unfold IsLeap at leap
        split at inYear <;> omega
  · rw [dayNumber_marchDate _ months]
    unfold yearStart leapsBefore
    unfold daysBeforeYear at number
    omega

theorem civilDate_spec (days : Int) :
    IsDate (civilDate days) ∧ dayNumber (civilDate days) = days := by
  have counted := Int.mul_ediv_add_emod (days + 719468) 146097
  have least := Int.emod_nonneg (days + 719468) (by decide : (146097 : Int) ≠ 0)
  have most := Int.emod_lt_of_pos (days + 719468) (by decide : (0 : Int) < 146097)
  have inside : ((days + 719468) % 146097).toNat < 146097 := by omega
  obtain ⟨year, month, day, split, small, months, positive, number, inMonth, inYear⟩ :=
    splitEraDay_spec inside
  have date : civilDate days =
      marchDate (year + (days + 719468) / 146097 * 400) month day := by
    unfold civilDate
    dsimp only
    rw [Int.fdiv_eq_ediv_of_nonneg _ (by decide), Int.fmod_eq_emod_of_nonneg _ (by decide), split]
    rfl
  obtain ⟨valid, back⟩ :=
    marchDate_spec ((days + 719468) / 146097) small months positive number inMonth inYear
  rw [date]
  refine ⟨valid, back.trans ?_⟩
  omega

/-- The dates of the days follow on each other as the calendar has it, from 1970-01-01 on and back
from it. -/
theorem civilDate_walks :
    civilDate 0 = (1970, 1, 1) ∧ ∀ days, civilDate (days + 1) = nextDay (civilDate days) := by
  refine ⟨by decide, fun days => ?_⟩
  obtain ⟨valid, number⟩ := civilDate_spec days
  obtain ⟨valid', number'⟩ := civilDate_spec (days + 1)
  refine dayNumber_injective valid' (isDate_nextDay valid) ?_
  rw [dayNumber_nextDay valid, number, number']

end Registration
end VirtualNpu
