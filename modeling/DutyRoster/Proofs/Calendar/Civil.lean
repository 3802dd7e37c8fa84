import DutyRoster.Calendar.Date
import Mathlib.Tactic.ByContra

/-!
# Day numbers and civil names

`CivilDay.number` and `CivilDay.ofNumber` are inverse to each other: every day number names a civil
day that exists, and a civil day that exists is named by its number. The year comes first: the
first days of the years are in order (`daysBeforeYear_succ`), and the guess of `yearOfDay` lands in
the right one. Within a year the month is found by counting the months that have begun.

The second result is that the order of days is the order of their names: a day comes before another
if and only if its year does, or within a year its month, or within a month its day
(`CivilDay.number_lt_number_iff`). It carries over to dates, whose order is that of their numbers.
-/

set_option autoImplicit false

namespace DutyRoster

/-- The number of days of a year. -/
def daysInYear (leap : Bool) : Nat :=
  if leap then 366 else 365

/-- Each year begins as many days after the year before it as that one has. -/
theorem daysBeforeYear_succ (year : Int) :
    daysBeforeYear (year + 1) = daysBeforeYear year + daysInYear (isLeapYear year) := by
  simp only [daysBeforeYear, daysInYear, isLeapYear, Bool.and_eq_true, Bool.or_eq_true, beq_iff_eq,
    bne_iff_ne, ne_eq]
  split <;> omega

/-- A later year does not begin earlier. -/
theorem daysBeforeYear_mono {a b : Int} (h : a ≤ b) : daysBeforeYear a ≤ daysBeforeYear b := by
  simp only [daysBeforeYear]
  omega

/-- A day lies in the year that is found for it. -/
theorem yearOfDay_bounds (n : Int) :
    daysBeforeYear (yearOfDay n) ≤ n ∧ n < daysBeforeYear (yearOfDay n + 1) := by
  have guess_bounds : daysBeforeYear (n * 400 / 146097 - 1) ≤ n ∧
      n < daysBeforeYear (n * 400 / 146097 + 2) := by
    simp only [daysBeforeYear]
    omega
  unfold yearOfDay
  dsimp only
  split
  · exact ⟨guess_bounds.1, by rwa [Int.sub_add_cancel]⟩
  · split
    · exact ⟨by assumption, by rw [Int.add_assoc]; exact guess_bounds.2⟩
    · omega

/-- A day of the year lies in the month that is found for it. -/
theorem monthOfYearDay_bounds (leap : Bool) (yearDay : Nat) (h : yearDay < daysInYear leap) :
    let month := monthOfYearDay leap yearDay
    1 ≤ month ∧ month ≤ 12 ∧ daysBeforeMonth leap month ≤ yearDay ∧
      yearDay < daysBeforeMonth leap month + daysInMonth leap month := by
  have all : ∀ leap, ∀ yearDay < daysInYear leap,
      1 ≤ monthOfYearDay leap yearDay ∧ monthOfYearDay leap yearDay ≤ 12 ∧
        daysBeforeMonth leap (monthOfYearDay leap yearDay) ≤ yearDay ∧
        yearDay < daysBeforeMonth leap (monthOfYearDay leap yearDay) +
          daysInMonth leap (monthOfYearDay leap yearDay) := by
    decide +kernel
  exact all leap yearDay h

/-- Later months of a year start later, by at least the days of the earlier month. -/
theorem daysBeforeMonth_add_le (leap : Bool) {a b : Nat} (one_le : 1 ≤ a) (h : a < b)
    (hb : b ≤ 13) : daysBeforeMonth leap a + daysInMonth leap a ≤ daysBeforeMonth leap b := by
  have all : ∀ leap, ∀ b ≤ 13, ∀ a < b, 1 ≤ a →
      daysBeforeMonth leap a + daysInMonth leap a ≤ daysBeforeMonth leap b := by
    decide
  exact all leap b hb a h one_le

/-- All months of a year together have as many days as the year. -/
theorem daysBeforeMonth_thirteen (leap : Bool) : daysBeforeMonth leap 13 = daysInYear leap := by
  cases leap <;> rfl

namespace CivilDay

/-- A day that exists lies in its year. -/
theorem number_bounds {c : CivilDay} (h : c.Exists) :
    daysBeforeYear c.year ≤ c.number ∧ c.number < daysBeforeYear (c.year + 1) := by
  obtain ⟨one_le_month, month_le, one_le_day, day_le⟩ := h
  have within := daysBeforeMonth_add_le (isLeapYear c.year) one_le_month
    (Nat.lt_succ_of_le month_le) (Nat.le_refl 13)
  rw [daysBeforeMonth_thirteen] at within
  rw [daysBeforeYear_succ, number]
  omega

/-- The day that a number names exists. -/
theorem exists_ofNumber (n : Int) : (ofNumber n).Exists := by
  have year := yearOfDay_bounds n
  rw [daysBeforeYear_succ] at year
  have month := monthOfYearDay_bounds (isLeapYear (yearOfDay n))
    (n - daysBeforeYear (yearOfDay n)).toNat (by omega)
  simp only [Exists, ofNumber]
  omega

/-- The day that a number names has that number. -/
theorem number_ofNumber (n : Int) : (ofNumber n).number = n := by
  have year := yearOfDay_bounds n
  rw [daysBeforeYear_succ] at year
  have month := monthOfYearDay_bounds (isLeapYear (yearOfDay n))
    (n - daysBeforeYear (yearOfDay n)).toNat (by omega)
  simp only [number, ofNumber]
  omega

/-- A day has a smaller number than another exactly if its year is smaller, or in the same year its
month, or in the same month its day. -/
theorem number_lt_number_iff {a b : CivilDay} (ha : a.Exists) (hb : b.Exists) :
    a.number < b.number ↔ a.year < b.year ∨ a.year = b.year ∧
      (a.month < b.month ∨ a.month = b.month ∧ a.day < b.day) := by
  have bounds_a := number_bounds ha
  have bounds_b := number_bounds hb
  rcases Int.lt_trichotomy a.year b.year with lt | eq | gt
  · have := daysBeforeYear_mono (a := a.year + 1) (b := b.year) (by omega)
    omega
  · obtain ⟨one_le_a, month_le_a, one_le_day_a, day_le_a⟩ := ha
    obtain ⟨one_le_b, month_le_b, one_le_day_b, day_le_b⟩ := hb
    simp only [number, eq, Int.lt_irrefl, true_and, false_or]
    rw [eq] at day_le_a
    rcases Nat.lt_trichotomy a.month b.month with lt | same | gt
    · have := daysBeforeMonth_add_le (isLeapYear b.year) one_le_a lt (by omega)
      omega
    · rw [same]
      omega
    · have := daysBeforeMonth_add_le (isLeapYear b.year) one_le_b gt (by omega)
      omega
  · have := daysBeforeYear_mono (a := b.year + 1) (b := a.year) (by omega)
    omega

/-- Days that exist and have the same number are the same. -/
theorem number_injective {a b : CivilDay} (ha : a.Exists) (hb : b.Exists)
    (h : a.number = b.number) : a = b := by
  have not_lt := number_lt_number_iff ha hb
  have not_gt := number_lt_number_iff hb ha
  rcases a with ⟨_, _, _⟩
  rcases b with ⟨_, _, _⟩
  simp only [CivilDay.mk.injEq]
  simp only at not_lt not_gt
  omega

/-- The number of a day that exists names the day. -/
theorem ofNumber_number {c : CivilDay} (h : c.Exists) : ofNumber c.number = c :=
  number_injective (exists_ofNumber _) h (number_ofNumber _)

end CivilDay

namespace Date

/-- Dates with the same number are the same. -/
@[ext] theorem ext {a b : Date} (h : a.number = b.number) : a = b := by
  cases a
  cases b
  simpa using h

/-- Dates are in the order of their numbers. -/
theorem lt_iff {a b : Date} : a < b ↔ a.number < b.number :=
  Iff.rfl

/-- Dates are in the order of their numbers, equal ones included. -/
theorem le_iff {a b : Date} : a ≤ b ↔ a.number ≤ b.number :=
  Iff.rfl

/-- A date that does not come before another is the same or comes after it. -/
theorem not_lt {a b : Date} : ¬ a < b ↔ b ≤ a :=
  Int.not_lt

/-- A number is that of a date if one can be found for it, and that date is the one. -/
theorem ofNumber?_eq_some_iff {n : Int} {d : Date} : ofNumber? n = some d ↔ d.number = n := by
  unfold ofNumber?
  split
  case isTrue h =>
    rw [Option.some.injEq]
    exact ⟨fun eq => by rw [← eq], fun eq => Date.ext eq.symm⟩
  case isFalse h =>
    refine ⟨nofun, fun eq => absurd ?_ h⟩
    rw [← eq]
    exact ⟨d.first_le, d.le_last⟩

/-- Days are added by adding them to the number of the date. -/
theorem addDays?_eq_some_iff {d e : Date} {days : Int} :
    d.addDays? days = some e ↔ e.number = d.number + days :=
  ofNumber?_eq_some_iff

/-- Days cannot be added exactly if they lead out of the calendar, on one of its sides. -/
theorem addDays?_eq_none_iff {d : Date} {days : Int} :
    d.addDays? days = none ↔
      d.number + days < firstDayNumber ∨ lastDayNumber < d.number + days := by
  unfold addDays? ofNumber?
  split
  · simp only [reduceCtorEq, false_iff]
    omega
  · simp only [true_iff]
    omega

/-- The civil name of a date is that of a day that exists. -/
theorem exists_civil (d : Date) : d.civil.Exists :=
  CivilDay.exists_ofNumber _

/-- The civil name of a date names the number of the date. -/
theorem number_civil (d : Date) : d.civil.number = d.number :=
  CivilDay.number_ofNumber _

/-- A date is found by its civil name. -/
theorem ofCivil?_civil (d : Date) : ofCivil? d.civil = some d := by
  unfold ofCivil?
  rw [if_pos d.exists_civil, number_civil]
  exact ofNumber?_eq_some_iff.mpr rfl

/-- The date of a civil name is found exactly if the name is that of a day that exists, and it then
has this name. -/
theorem ofCivil?_eq_some_iff {c : CivilDay} {d : Date} :
    ofCivil? c = some d ↔ c.Exists ∧ d.civil = c := by
  constructor
  · unfold ofCivil?
    split
    case isTrue real =>
      intro found
      refine ⟨real, ?_⟩
      rw [civil, ofNumber?_eq_some_iff.mp found, CivilDay.ofNumber_number real]
    case isFalse => exact nofun
  · rintro ⟨-, rfl⟩
    exact ofCivil?_civil d

/-- The first and the last year that have dates. -/
theorem year_bounds (d : Date) : -262143 ≤ d.civil.year ∧ d.civil.year ≤ 262142 := by
  have bounds := CivilDay.number_bounds d.exists_civil
  rw [number_civil] at bounds
  have first_le := d.first_le
  have le_last := d.le_last
  simp only [firstDayNumber, lastDayNumber] at first_le le_last
  constructor
  · by_contra h
    have := daysBeforeYear_mono (a := d.civil.year + 1) (b := -262143) (by omega)
    omega
  · by_contra h
    have := daysBeforeYear_mono (a := 262143) (b := d.civil.year) (by omega)
    omega

/-- The calendar has every civil day of its years. -/
theorem exists_of_year {c : CivilDay} (real : c.Exists) (first_le : -262143 ≤ c.year)
    (le_last : c.year ≤ 262142) : ∃ d : Date, d.civil = c := by
  have between := CivilDay.number_bounds real
  have first := daysBeforeYear_mono first_le
  have last := daysBeforeYear_mono (show c.year + 1 ≤ 262143 by omega)
  refine ⟨⟨c.number, by unfold firstDayNumber; omega, by unfold lastDayNumber; omega⟩, ?_⟩
  exact CivilDay.ofNumber_number real

/-- A date comes before another exactly if its year does, or in the same year its month, or in the
same month its day. -/
theorem lt_iff_civil {a b : Date} : a < b ↔ a.civil.year < b.civil.year ∨
    a.civil.year = b.civil.year ∧ (a.civil.month < b.civil.month ∨
      a.civil.month = b.civil.month ∧ a.civil.day < b.civil.day) := by
  rw [lt_iff, ← a.number_civil, ← b.number_civil]
  exact CivilDay.number_lt_number_iff a.exists_civil b.exists_civil

end Date

end DutyRoster
