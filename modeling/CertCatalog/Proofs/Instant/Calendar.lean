import CertCatalog.Instant.Calendar
import Mathlib.Tactic.IntervalCases

/-!
# Dates of days

Every day number has one date of the calendar, and the day number of this date is the day again.
An era of 400 years is taken apart into centuries, cycles of four years, years and days.
-/

namespace CertCatalog.Date

/-! ## Days of an era -/

/--
A day of an era of 400 years that begin in March: three or four centuries of 36524 days, cycles of
four years, years and the day of the year.  Only the last year of a cycle can have a leap day, and
that of the last cycle only in the last century.
-/
structure EraDay where
  century : Nat
  cycle : Nat
  year : Nat
  day : Nat
  century_le : century ≤ 3 := by omega
  cycle_le : cycle ≤ 24 := by omega
  year_le : year ≤ 3 := by omega
  day_le : day ≤ 365 := by omega
  leap_day : day = 365 → year = 3 ∧ (cycle < 24 ∨ century = 3) := by omega

namespace EraDay

def number (e : EraDay) : Nat :=
  36524 * e.century + 1461 * e.cycle + 365 * e.year + e.day

def yearOfEra (e : EraDay) : Nat :=
  100 * e.century + 4 * e.cycle + e.year

theorem yearOfEra_lt (e : EraDay) : e.yearOfEra < 400 := by
  obtain ⟨century, cycle, year, day⟩ := e
  simp only [yearOfEra]
  omega

theorem number_lt (e : EraDay) : e.number < 146097 := by
  obtain ⟨century, cycle, year, day⟩ := e
  simp only [number]
  omega

theorem exists_number_eq {number : Nat} (hnumber : number < 146097) :
    ∃ e : EraDay, e.number = number := by
  let century := min (number / 36524) 3
  let afterCenturies := number - 36524 * century
  let cycle := afterCenturies / 1461
  let afterCycles := afterCenturies - 1461 * cycle
  let year := min (afterCycles / 365) 3
  refine ⟨{ century := century, cycle := cycle, year := year, day := afterCycles - 365 * year },
    ?_⟩
  simp only [EraDay.number]
  omega

/-- The last day of an era is the only one that would begin a fifth century. -/
theorem number_div_century (e : EraDay) :
    e.number / 36524 = e.century + e.number / 146096 := by
  obtain ⟨century, cycle, year, day, hcentury, hcycle, hyear, hday, hleap⟩ := e
  simp only [number]
  have hcases : 1461 * cycle + 365 * year + day < 36524 ∨
      century = 3 ∧ cycle = 24 ∧ year = 3 ∧ day = 365 := by omega
  rcases hcases with hinside | ⟨rfl, rfl, rfl, rfl⟩
  · have hlast : (36524 * century + 1461 * cycle + 365 * year + day) / 146096 = 0 :=
      Nat.div_eq_of_lt (by omega)
    rw [hlast]
    omega
  · rfl

theorem number_div_cycle (e : EraDay) :
    e.number / 1460 = 25 * e.century + e.cycle +
      (24 * e.century + e.cycle + 365 * e.year + e.day) / 1460 := by
  have hnumber : e.number = 1460 * (25 * e.century + e.cycle) +
      (24 * e.century + e.cycle + 365 * e.year + e.day) := by
    simp only [number]
    omega
  rw [hnumber, Nat.mul_add_div (by decide)]

theorem yearOfEra_eq (e : EraDay) :
    (e.number - e.number / 1460 + e.number / 36524 - e.number / 146096) / 365 = e.yearOfEra := by
  have hcenturies := e.number_div_century
  have hcycles := e.number_div_cycle
  obtain ⟨century, cycle, year, day, hcentury, hcycle, hyear, hday, hleap⟩ := e
  simp only [number, yearOfEra] at *
  generalize (36524 * century + 1461 * cycle + 365 * year + day) / 146096 = last at *
  rw [hcenturies, hcycles]
  omega

theorem number_eq (e : EraDay) :
    e.number = 365 * e.yearOfEra + e.yearOfEra / 4 - e.yearOfEra / 100 + e.day := by
  obtain ⟨century, cycle, year, day, hcentury, hcycle, hyear, hday, hleap⟩ := e
  simp only [number, yearOfEra]
  omega

end EraDay

/-! ## Dates of days -/

def marchMonth (day : Nat) : Nat := (5 * day + 2) / 153

def monthOf (marchMonth : Nat) : Nat :=
  if marchMonth < 10 then marchMonth + 3 else marchMonth - 9

def ofEraDay (era : Int) (e : EraDay) : Date :=
  let month := monthOf (marchMonth e.day)
  let year := era * 400 + e.yearOfEra
  { year := if month ≤ 2 then year + 1 else year
    month := month
    day := e.day - (153 * marchMonth e.day + 2) / 5 + 1 }

theorem ofDayNumber_eq (era : Int) (e : EraDay) :
    ofDayNumber (era * 146097 + e.number - 719468) = ofEraDay era e := by
  have hlt := e.number_lt
  have hera : (era * 146097 + e.number - 719468 + 719468) / 146097 = era := by omega
  have hday : (era * 146097 + e.number - 719468 + 719468 - era * 146097).toNat = e.number := by
    omega
  have hrest : e.number - (365 * e.yearOfEra + e.yearOfEra / 4 - e.yearOfEra / 100) = e.day := by
    have hnumber := e.number_eq
    omega
  simp only [ofDayNumber, hera, hday, e.yearOfEra_eq, hrest]
  rfl

theorem exists_eraDay (number : Int) :
    ∃ era, ∃ e : EraDay, number = era * 146097 + e.number - 719468 := by
  obtain ⟨e, he⟩ := EraDay.exists_number_eq
    (show ((number + 719468) % 146097).toNat < 146097 by omega)
  refine ⟨(number + 719468) / 146097, e, ?_⟩
  omega

theorem monthFromMarch_monthOf {month : Nat} (hmonth : month < 12) :
    monthFromMarch (monthOf month) = month := by
  unfold monthFromMarch monthOf
  split <;> omega

theorem marchMonth_lt (e : EraDay) : marchMonth e.day < 12 := by
  have hday := e.day_le
  unfold marchMonth
  omega

theorem dayNumber_ofEraDay (era : Int) (e : EraDay) :
    (ofEraDay era e).dayNumber = era * 146097 + e.number - 719468 := by
  have hmonth := monthFromMarch_monthOf (marchMonth_lt e)
  have hstart : (153 * marchMonth e.day + 2) / 5 ≤ e.day := by
    unfold marchMonth
    omega
  have hnumber := e.number_eq
  have hlt := e.yearOfEra_lt
  have hyear : (if monthOf (marchMonth e.day) ≤ 2 then (ofEraDay era e).year - 1
      else (ofEraDay era e).year) = era * 400 + e.yearOfEra := by
    unfold ofEraDay
    dsimp only
    split <;> omega
  have hera : (era * 400 + e.yearOfEra) / 400 = era := by omega
  have hstep : (ofEraDay era e).month = monthOf (marchMonth e.day) := rfl
  have hday : (ofEraDay era e).day = e.day - (153 * marchMonth e.day + 2) / 5 + 1 := rfl
  simp only [dayNumber, hstep, hday, hyear, hera, hmonth]
  omega

theorem isLeapYear_of_day (era : Int) {e : EraDay} (hday : e.day = 365) :
    isLeapYear (era * 400 + e.yearOfEra + 1) = true := by
  obtain ⟨hyear, hlast⟩ := e.leap_day hday
  have hcentury := e.century_le
  have hcycle := e.cycle_le
  simp only [isLeapYear, EraDay.yearOfEra, Bool.and_eq_true, Bool.or_eq_true, beq_iff_eq,
    bne_iff_ne]
  omega

/-- All months but February have the length by which the months before them differ. -/
theorem daysInMonth_monthOf {month : Nat} (hmonth : month < 11) (year : Int) :
    daysInMonth year (monthOf month) =
      (153 * (month + 1) + 2) / 5 - (153 * month + 2) / 5 := by
  interval_cases month <;> rfl

theorem day_ofEraDay_le (era : Int) (e : EraDay) :
    (ofEraDay era e).day ≤ daysInMonth (ofEraDay era e).year (ofEraDay era e).month := by
  have hmonth : (ofEraDay era e).month = monthOf (marchMonth e.day) := rfl
  have hday : (ofEraDay era e).day = e.day - (153 * marchMonth e.day + 2) / 5 + 1 := rfl
  have hfound : marchMonth e.day = (5 * e.day + 2) / 153 := rfl
  have hlast := e.day_le
  by_cases hfebruary : marchMonth e.day = 11
  · have hyear : (ofEraDay era e).year = era * 400 + e.yearOfEra + 1 := by
      simp [ofEraDay, hfebruary, monthOf]
    have hlength : daysInMonth (ofEraDay era e).year (ofEraDay era e).month =
        if isLeapYear (era * 400 + e.yearOfEra + 1) then 29 else 28 := by
      rw [hmonth, hfebruary, hyear]
      rfl
    rw [hlength, hday, hfebruary]
    by_cases hleap : e.day = 365
    · rw [isLeapYear_of_day era hleap, hleap]
      decide
    · split <;> omega
  · have hlt := marchMonth_lt e
    rw [hmonth, daysInMonth_monthOf (by omega), hday]
    omega

theorem isValid_ofEraDay (era : Int) (e : EraDay) : (ofEraDay era e).isValid = true := by
  have hlt := marchMonth_lt e
  have hmonth : (ofEraDay era e).month = monthOf (marchMonth e.day) := rfl
  have hbounds : 1 ≤ (ofEraDay era e).month ∧ (ofEraDay era e).month ≤ 12 := by
    rw [hmonth]
    unfold monthOf
    split <;> omega
  have hday : 1 ≤ (ofEraDay era e).day := Nat.le_add_left 1 _
  simp [isValid, hbounds, hday, day_ofEraDay_le]

/-! ## Dates of day numbers -/

theorem daysInMonth_le (year : Int) (month : Nat) : daysInMonth year month ≤ 31 := by
  unfold daysInMonth
  split <;> (try split) <;> decide

theorem dayNumber_ofDayNumber (number : Int) : (ofDayNumber number).dayNumber = number := by
  obtain ⟨era, e, rfl⟩ := exists_eraDay number
  rw [ofDayNumber_eq, dayNumber_ofEraDay]

theorem isValid_ofDayNumber (number : Int) : (ofDayNumber number).isValid = true := by
  obtain ⟨era, e, rfl⟩ := exists_eraDay number
  rw [ofDayNumber_eq, isValid_ofEraDay]

end CertCatalog.Date
