/-!
# Civil days

A civil day is named by year, month and day of the month in the Gregorian calendar, extended without
a break to the years before it was introduced; year 0 is the leap year before year 1. The day number
of a civil day counts from 1 January of year 0, so that the next day always has the next number.
`CivilDay.number` computes it, and `CivilDay.ofNumber` names the day with a given number again.
-/

set_option autoImplicit false

namespace DutyRoster

/-- A year is a leap year if it is a multiple of 4 but not of 100, or a multiple of 400. -/
def isLeapYear (year : Int) : Bool :=
  year % 4 == 0 && (year % 100 != 0 || year % 400 == 0)

/-- The number of days of a month, February having one more in a leap year. -/
def daysInMonth (leap : Bool) (month : Nat) : Nat :=
  match month with
  | 2 => if leap then 29 else 28
  | 4 | 6 | 9 | 11 => 30
  | _ => 31

/-- The number of days between 1 January of year 0 and 1 January of `year`, negative for the years
before it: 365 days for each year and one more for each leap year passed. -/
def daysBeforeYear (year : Int) : Int :=
  365 * year + (year + 3) / 4 - (year + 99) / 100 + (year + 399) / 400

/-- The number of days of a year that come before the first of `month`. -/
def daysBeforeMonth (leap : Bool) : Nat → Nat
  | 0 => 0
  | 1 => 0
  | month + 1 => daysBeforeMonth leap month + daysInMonth leap month

/-- A day named by its year, month (from 1) and day of the month (from 1). -/
structure CivilDay where
  year : Int
  month : Nat
  day : Nat
deriving DecidableEq, Repr

/-- The month and the day of the month exist in the year. -/
def CivilDay.Exists (c : CivilDay) : Prop :=
  1 ≤ c.month ∧ c.month ≤ 12 ∧ 1 ≤ c.day ∧ c.day ≤ daysInMonth (isLeapYear c.year) c.month

instance (c : CivilDay) : Decidable c.Exists := by
  unfold CivilDay.Exists
  infer_instance

/-- The number of a civil day, counted from 1 January of year 0. -/
def CivilDay.number (c : CivilDay) : Int :=
  daysBeforeYear c.year + daysBeforeMonth (isLeapYear c.year) c.month + c.day - 1

/-- The year that the day with number `n` lies in. The average length of a year gives a first guess,
which is at most one year off. -/
def yearOfDay (n : Int) : Int :=
  let guess := n * 400 / 146097
  if n < daysBeforeYear guess then guess - 1
  else if daysBeforeYear (guess + 1) ≤ n then guess + 1
  else guess

/-- The month that a day of the year lies in, days of the year being counted from 0: one month for
each month whose first day has been reached. -/
def monthOfYearDay (leap : Bool) (yearDay : Nat) : Nat :=
  ((List.range' 1 12).filter fun month => daysBeforeMonth leap month ≤ yearDay).length

/-- The civil day with number `n`. -/
def CivilDay.ofNumber (n : Int) : CivilDay :=
  let year := yearOfDay n
  let leap := isLeapYear year
  let yearDay := (n - daysBeforeYear year).toNat
  let month := monthOfYearDay leap yearDay
  ⟨year, month, yearDay - daysBeforeMonth leap month + 1⟩

end DutyRoster
