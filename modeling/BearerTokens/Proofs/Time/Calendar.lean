import BearerTokens.Time.Timestamp

/-!
# Dates count days

The date of a day is computed by divisions that take the leap years into account.  The
day is counted back from its date, so no two days have the same date.  Months and days
have at most two digits.

Main results:

- Definition {lit}`Date.days`: the day of a date.
- Theorem {lit}`Date.days_ofDays`: the day of the date of a day.
- Theorem {lit}`Date.month_day_ofDays`: the range of months and days.
-/

namespace BearerTokens
namespace Timestamp

/-! ## Years of an era -/

/-- The day of an era with which one of its years starts. -/
def startOfYear (year : Nat) : Nat :=
  365 * year + year / 4 - year / 100

/-- The year of an era in which one of its days is. -/
def yearOfEra (day : Nat) : Nat :=
  (day - day / 1460 + day / 36524 - day / 146096) / 365

/-- A day of an era is one of the first 366 days of its year, which is one of 400. -/
theorem yearOfEra_spec {day : Nat} (h : day < 146097) :
    yearOfEra day < 400 ∧ startOfYear (yearOfEra day) ≤ day ∧
      day - startOfYear (yearOfEra day) ≤ 365 := by
  by_cases hlast : day = 146096
  · subst hlast
    decide
  have hera : day / 146096 = 0 := by omega
  have hcenturies : day / 36524 = 0 ∨ day / 36524 = 1 ∨ day / 36524 = 2 ∨ day / 36524 = 3 := by
    omega
  have hcentury : 36524 * (day / 36524) ≤ day ∧ day < 36524 * (day / 36524) + 36524 := by omega
  have hcycle : 1460 * (day / 1460) ≤ day ∧ day < 1460 * (day / 1460) + 1460 := by omega
  simp only [startOfYear, yearOfEra, hera, Nat.sub_zero]
  generalize day / 36524 = century at *
  generalize day / 1460 = cycle at *
  have hyear : 365 * ((day - cycle + century) / 365) ≤ day - cycle + century ∧
      day - cycle + century < 365 * ((day - cycle + century) / 365) + 365 := by omega
  generalize (day - cycle + century) / 365 = year at *
  have hfour : 4 * (year / 4) ≤ year ∧ year < 4 * (year / 4) + 4 := by omega
  have hhundred : 100 * (year / 100) ≤ year ∧ year < 100 * (year / 100) + 100 := by omega
  -- The divisions of the day give the leap years up to its year, or one more.
  have hcenturyOfYear : year / 100 = century := by
    rcases hcenturies with rfl | rfl | rfl | rfl <;> omega
  have hcycleOfYear : year / 4 ≤ cycle ∧ cycle ≤ year / 4 + 1 := by omega
  omega

/-! ## Months of a year -/

/-- The day of a year, both counted from March, with which a month starts. -/
def startOfMonth (month : Nat) : Nat :=
  (153 * month + 2) / 5

/-- The month of a year, both counted from March, in which a day is. -/
def monthOfYear (day : Nat) : Nat :=
  (5 * day + 2) / 153

/-- A day of a year is one of the first 31 days of its month, which is one of twelve. -/
theorem monthOfYear_spec {day : Nat} (h : day ≤ 365) :
    monthOfYear day < 12 ∧ startOfMonth (monthOfYear day) ≤ day ∧
      day - startOfMonth (monthOfYear day) ≤ 30 := by
  simp only [startOfMonth, monthOfYear]
  omega

/-! ## Dates -/

/-- The day of a date, counted from the first of January 1970. -/
def Date.days (date : Date) : Int :=
  let year := if date.month ≤ 2 then date.year - 1 else date.year
  let month := if date.month ≤ 2 then date.month + 9 else date.month - 3
  year / 400 * 146097 + startOfYear (year % 400).toNat + (startOfMonth month + date.day) - 719469

/-- The date of a day, by its year and its month counted from March. -/
theorem Date.ofDays_eq (days : Int) :
    let dayOfEra := ((days + 719468) % 146097).toNat
    let dayOfYear := dayOfEra - startOfYear (yearOfEra dayOfEra)
    let month := monthOfYear dayOfYear
    let year : Int := yearOfEra dayOfEra + (days + 719468) / 146097 * 400
    Date.ofDays days =
      ⟨if (if month < 10 then month + 3 else month - 9) ≤ 2 then year + 1 else year,
        if month < 10 then month + 3 else month - 9, dayOfYear - startOfMonth month + 1⟩ :=
  rfl

/-- A month is one of twelve, and a day one of 31. -/
theorem Date.month_day_ofDays (days : Int) :
    (Date.ofDays days).month ≤ 12 ∧ (Date.ofDays days).day ≤ 31 := by
  have hday : ((days + 719468) % 146097).toNat < 146097 := by omega
  have hyear := yearOfEra_spec hday
  have hmonth := monthOfYear_spec hyear.2.2
  rw [Date.ofDays_eq]
  simp only
  constructor
  · split <;> omega
  · omega

/-- The day of the date of a day is the day. -/
theorem Date.days_ofDays (days : Int) : (Date.ofDays days).days = days := by
  have hday : ((days + 719468) % 146097).toNat < 146097 := by omega
  have hyear := yearOfEra_spec hday
  have hmonth := monthOfYear_spec hyear.2.2
  rw [Date.ofDays_eq, Date.days]
  simp only
  generalize hdayOfEra : ((days + 719468) % 146097).toNat = dayOfEra at *
  generalize yearOfEra dayOfEra = year at *
  generalize hdayOfYear : dayOfEra - startOfYear year = dayOfYear at *
  generalize monthOfYear dayOfYear = month at *
  -- The first ten months from March are those from the third on, the others are the first two.
  have hyearBack : (year + (days + 719468) / 146097 * 400 : Int) / 400 =
      (days + 719468) / 146097 := by omega
  have hyearOfEraBack : ((year + (days + 719468) / 146097 * 400 : Int) % 400).toNat = year := by
    omega
  by_cases hspring : month < 10
  · have hlate : ¬ month + 3 ≤ 2 := by omega
    have hback : month + 3 - 3 = month := by omega
    simp only [hspring, hlate, if_true, if_false, hback, hyearBack, hyearOfEraBack]
    omega
  · have hearly : month - 9 ≤ 2 := by omega
    have hback : month - 9 + 9 = month := by omega
    have hyearOne : (year + (days + 719468) / 146097 * 400 + 1 - 1 : Int) =
        year + (days + 719468) / 146097 * 400 := by omega
    simp only [hspring, hearly, if_true, if_false, hback, hyearOne, hyearBack, hyearOfEraBack]
    omega

/-- Different days have different dates. -/
theorem Date.ofDays_injective {days other : Int} (h : Date.ofDays days = Date.ofDays other) :
    days = other := by
  have hdays := congrArg Date.days h
  rwa [Date.days_ofDays, Date.days_ofDays] at hdays

end Timestamp
end BearerTokens
