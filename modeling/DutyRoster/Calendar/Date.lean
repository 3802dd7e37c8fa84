import DutyRoster.Calendar.Civil

/-!
# Dates

The calendar that the roster works with is finite: it runs from 1 January of year -262143 to
31 December of year 262142. A `Date` is a day of it, held by its day number, so that order and
distance are those of whole numbers; `Date.civil` is its name in the Gregorian calendar. Steps that
leave the calendar have no result.
-/

set_option autoImplicit false

namespace DutyRoster

/-- The number of the first day of the calendar. -/
def firstDayNumber : Int :=
  daysBeforeYear (-262143)

/-- The number of the last day of the calendar. -/
def lastDayNumber : Int :=
  daysBeforeYear 262143 - 1

/-- A day of the calendar. -/
structure Date where
  number : Int
  first_le : firstDayNumber ≤ number
  le_last : number ≤ lastDayNumber
deriving DecidableEq

namespace Date

instance : LE Date := ⟨fun a b => a.number ≤ b.number⟩

instance : LT Date := ⟨fun a b => a.number < b.number⟩

instance (a b : Date) : Decidable (a ≤ b) := inferInstanceAs (Decidable (a.number ≤ b.number))

instance (a b : Date) : Decidable (a < b) := inferInstanceAs (Decidable (a.number < b.number))

/-- The first day of the calendar. -/
def first : Date := ⟨firstDayNumber, Int.le_refl _, by decide⟩

/-- The last day of the calendar. -/
def last : Date := ⟨lastDayNumber, by decide, Int.le_refl _⟩

/-- The day with the given number, if the calendar has it. -/
def ofNumber? (n : Int) : Option Date :=
  if h : firstDayNumber ≤ n ∧ n ≤ lastDayNumber then some ⟨n, h.1, h.2⟩ else none

/-- The day with the given civil name, if there is such a day and the calendar has it. -/
def ofCivil? (c : CivilDay) : Option Date :=
  if c.Exists then ofNumber? c.number else none

/-- The civil name of a day. -/
def civil (d : Date) : CivilDay :=
  CivilDay.ofNumber d.number

/-- The day that lies `days` days later, or earlier if `days` is negative. -/
def addDays? (d : Date) (days : Int) : Option Date :=
  ofNumber? (d.number + days)

/-- The day after. -/
def next? (d : Date) : Option Date :=
  d.addDays? 1

/-- The day before. -/
def previous? (d : Date) : Option Date :=
  d.addDays? (-1)

/-- The same day of the month some calendar months later, or the last day of that month if it is
shorter. -/
def addMonths? (d : Date) (months : Nat) : Option Date :=
  let c := d.civil
  let total := c.year * 12 + (c.month : Int) - 1 + (months : Int)
  let year := total / 12
  let month := (total % 12).toNat + 1
  ofCivil? ⟨year, month, min c.day (daysInMonth (isLeapYear year) month)⟩

/-- The days of the calendar from `d` on, `count` of them unless the calendar ends before. -/
def daysFrom (d : Date) : Nat → List Date
  | 0 => []
  | count + 1 => d :: (d.next?.map fun e => daysFrom e count).getD []

end Date

end DutyRoster
