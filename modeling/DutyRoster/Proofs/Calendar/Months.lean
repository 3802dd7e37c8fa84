import DutyRoster.Proofs.Calendar.Civil

/-!
# Calendar months

Months are numbered from January of year 0, so that the next month always has the next number, as
days are. A date comes before another if its month does, or within a month its day
(`Date.le_iff_monthNumber`).

A date that lies some calendar months after another is in the month with the number that much
larger, on the same day of it or on its last day (`Date.IsMonthsAfter`). Different days may meet on
the last day of a short month, but they never change places (`Date.IsMonthsAfter.mono`). The only
months in which no such date is found are those after the last month of the calendar
(`Date.addMonths?_eq_none_iff`).
-/

set_option autoImplicit false

namespace DutyRoster

/-- The number of the month that a civil day lies in, counted from January of year 0. -/
def CivilDay.monthNumber (c : CivilDay) : Int :=
  12 * c.year + c.month - 1

/-- Every month has a day. -/
theorem daysInMonth_pos (leap : Bool) (month : Nat) : 0 < daysInMonth leap month := by
  unfold daysInMonth
  split <;> (try split) <;> decide

namespace Date

/-- A date comes before another if its month does, or in the same month its day. -/
theorem le_iff_monthNumber {a b : Date} : a ≤ b ↔ a.civil.monthNumber < b.civil.monthNumber ∨
    a.civil.monthNumber = b.civil.monthNumber ∧ a.civil.day ≤ b.civil.day := by
  obtain ⟨one_le_a, month_le_a, -⟩ := a.exists_civil
  obtain ⟨one_le_b, month_le_b, -⟩ := b.exists_civil
  rw [← not_lt, lt_iff_civil]
  unfold CivilDay.monthNumber
  omega

/-- Dates whose months have the same number lie in the same month of the same year. -/
theorem year_month_eq_of_monthNumber {a b : Date}
    (same : a.civil.monthNumber = b.civil.monthNumber) :
    a.civil.year = b.civil.year ∧ a.civil.month = b.civil.month := by
  obtain ⟨one_le_a, month_le_a, -⟩ := a.exists_civil
  obtain ⟨one_le_b, month_le_b, -⟩ := b.exists_civil
  unfold CivilDay.monthNumber at same
  omega

/-- A date lies some calendar months after another: in the month that follows by so many, on the
same day of the month, or on the last one if the month is shorter. -/
structure IsMonthsAfter (later earlier : Date) (months : Nat) : Prop where
  month : later.civil.monthNumber = earlier.civil.monthNumber + months
  day : later.civil.day = min earlier.civil.day
    (daysInMonth (isLeapYear later.civil.year) later.civil.month)

namespace IsMonthsAfter

variable {d d' later later' : Date} {months months' : Nat}

/-- A date that lies some months after another is not before it. -/
theorem le (h : later.IsMonthsAfter d months) : d ≤ later := by
  have month := h.month
  rw [le_iff_monthNumber]
  rcases Nat.eq_zero_or_pos months with rfl | positive
  · -- in its own month a date keeps its day
    have same : later.civil.monthNumber = d.civil.monthNumber := by omega
    obtain ⟨year, month⟩ := year_month_eq_of_monthNumber same
    obtain ⟨-, -, -, day_le⟩ := d.exists_civil
    have day := h.day
    rw [year, month, Nat.min_eq_left day_le] at day
    exact .inr ⟨same.symm, Nat.le_of_eq day.symm⟩
  · exact .inl (by omega)

/-- A later date and more months lead to a date that is no earlier. -/
theorem mono (h : later.IsMonthsAfter d months) (h' : later'.IsMonthsAfter d' months')
    (le : d ≤ d') (more : months ≤ months') : later ≤ later' := by
  have month := h.month
  have month' := h'.month
  rw [le_iff_monthNumber] at le ⊢
  rcases le with lt | ⟨same, day_le⟩
  · exact .inl (by omega)
  · rcases Nat.lt_or_eq_of_le more with lt | rfl
    · exact .inl (by omega)
    · have same_month : later.civil.monthNumber = later'.civil.monthNumber := by omega
      obtain ⟨year, month⟩ := year_month_eq_of_monthNumber same_month
      refine .inr ⟨same_month, ?_⟩
      rw [h.day, h'.day, year, month]
      omega

/-- At most one date lies so many months after another. -/
theorem unique (h : later.IsMonthsAfter d months) (h' : later'.IsMonthsAfter d months) :
    later = later' := by
  have le := h.mono h' (Int.le_refl _) (Nat.le_refl _)
  have ge := h'.mono h (Int.le_refl _) (Nat.le_refl _)
  exact Date.ext (Int.le_antisymm le ge)

end IsMonthsAfter

variable {d e : Date} {months : Nat}

/-- If the calendar reaches as far as a month, it has the date that lies so many months after. -/
theorem exists_isMonthsAfter (reached : d.civil.monthNumber + months ≤ e.civil.monthNumber) :
    ∃ later, d.addMonths? months = some later ∧ later.IsMonthsAfter d months := by
  obtain ⟨one_le_month, month_le, one_le_day, -⟩ := d.exists_civil
  obtain ⟨one_le_e, month_le_e, -⟩ := e.exists_civil
  have year_d := d.year_bounds
  have year_e := e.year_bounds
  unfold CivilDay.monthNumber at reached
  -- months are counted from zero, and the day is the last one of a shorter month
  obtain ⟨total, total_eq⟩ : ∃ total : Int,
      total = d.civil.year * 12 + (d.civil.month : Int) - 1 + months := ⟨_, rfl⟩
  let month := (total % 12).toNat + 1
  let c : CivilDay :=
    ⟨total / 12, month, min d.civil.day (daysInMonth (isLeapYear (total / 12)) month)⟩
  have real : c.Exists := by
    have positive := daysInMonth_pos (isLeapYear (total / 12)) month
    simp only [CivilDay.Exists, c, month] at positive ⊢
    omega
  have within : -262143 ≤ c.year ∧ c.year ≤ 262142 := by
    simp only [c]
    omega
  obtain ⟨later, named⟩ := exists_of_year real within.1 within.2
  refine ⟨later, ?_, ?_, ?_⟩
  · unfold addMonths?
    dsimp only
    rw [← total_eq]
    exact ofCivil?_eq_some_iff.mpr ⟨real, named⟩
  · rw [named]
    simp only [CivilDay.monthNumber, c, month]
    omega
  · rw [named]

/-- The date that adding months leads to is the one that lies so many months after. -/
theorem addMonths?_eq_some_iff : d.addMonths? months = some e ↔ e.IsMonthsAfter d months := by
  constructor
  · intro added
    unfold addMonths? at added
    obtain ⟨real, named⟩ := ofCivil?_eq_some_iff.mp added
    constructor
    · rw [named]
      simp only [CivilDay.monthNumber]
      omega
    · rw [named]
  · intro after
    obtain ⟨later, added, after'⟩ := exists_isMonthsAfter (Int.le_of_eq after.month.symm)
    rw [added, after.unique after']

/-- Months cannot be added exactly if they lead to a month in which the calendar has no date; all
earlier months of the calendar can be reached. -/
theorem addMonths?_eq_none_iff : d.addMonths? months = none ↔
    ∀ e : Date, e.civil.monthNumber < d.civil.monthNumber + months := by
  constructor
  · intro failed e
    by_contra reached
    obtain ⟨later, added, -⟩ := exists_isMonthsAfter (Int.not_lt.mp reached)
    rw [failed] at added
    cases added
  · intro beyond
    cases added : d.addMonths? months with
    | none => rfl
    | some later =>
      have month := (addMonths?_eq_some_iff.mp added).month
      have := beyond later
      omega

end Date

end DutyRoster
