import DutyRoster.Proofs.Calendar.Months
import DutyRoster.Scheduler.Request
import Mathlib.Tactic.SplitIfs

/-!
# The window of dates that can be booked

What can be booked on a day are the dates from that day to the booking limit, both included
(`checkBookingWindow_eq_ok_iff`). The limit lies some calendar months after today, where the
calendar still has that month, and is the last day of the calendar otherwise
(`bookingLimit_cases`).

Neither the passing of time nor a wider horizon brings the limit nearer (`bookingLimit_mono`),
although days of months of different lengths may share one limit. So a date that could be booked can
be booked for as long as it is not past (`bookingWindow_moves_forward`).
-/

set_option autoImplicit false

namespace DutyRoster

variable {date today later : Date} {months more : Nat}

/-- The booking limit is the date that lies so many months after today, if the calendar has the
month, and otherwise its last day. -/
theorem bookingLimit_cases (today : Date) (months : Nat) :
    (bookingLimit today months).IsMonthsAfter today months ∨
      (bookingLimit today months = Date.last ∧
        ∀ e : Date, e.civil.monthNumber < today.civil.monthNumber + months) := by
  unfold bookingLimit
  cases added : today.addMonths? months with
  | some limit => exact .inl (Date.addMonths?_eq_some_iff.mp added)
  | none => exact .inr ⟨rfl, Date.addMonths?_eq_none_iff.mp added⟩

/-- The booking limit is not before today. -/
theorem le_bookingLimit (today : Date) (months : Nat) : today ≤ bookingLimit today months := by
  rcases bookingLimit_cases today months with after | ⟨last, -⟩
  · exact after.le
  · rw [last]
    exact today.le_last

/-- The booking limit does not come nearer with time or with a wider horizon. -/
theorem bookingLimit_mono (le : today ≤ later) (wider : months ≤ more) :
    bookingLimit today months ≤ bookingLimit later more := by
  rcases bookingLimit_cases later more with after' | ⟨last, -⟩
  · rcases bookingLimit_cases today months with after | ⟨-, beyond⟩
    · exact after.mono after' le wider
    · -- the limit of the later day is in a month that the earlier one cannot have missed
      have month := after'.month
      have unreached := beyond (bookingLimit later more)
      rw [Date.le_iff_monthNumber] at le
      omega
  · rw [last]
    exact (bookingLimit today months).le_last

/-- No month of the calendar is as far away as the largest signed number of 32 bits. -/
theorem bookingLimit_of_far (far : 2147483647 < months) :
    bookingLimit today months = Date.last := by
  rcases bookingLimit_cases today months with after | ⟨last, -⟩
  · have month := after.month
    have year := today.year_bounds
    have limit_year := (bookingLimit today months).year_bounds
    obtain ⟨one_le_month, month_le, -⟩ := today.exists_civil
    obtain ⟨one_le_limit, limit_le, -⟩ := (bookingLimit today months).exists_civil
    unfold CivilDay.monthNumber at month
    omega
  · exact last

/-- A date can be booked exactly if it is not before today and not after the limit. -/
theorem checkBookingWindow_eq_ok_iff : checkBookingWindow date today months = .ok () ↔
    today ≤ date ∧ date ≤ bookingLimit today months := by
  simp only [checkBookingWindow, ← Date.not_lt]
  split_ifs with past late
  · simp [past]
  · simp [late]
  · simp [past, late]

/-- A date is refused as past exactly if it is before today. -/
theorem checkBookingWindow_eq_pastDate_iff :
    checkBookingWindow date today months = .error (.pastDate date today) ↔ date < today := by
  simp only [checkBookingWindow]
  split_ifs with past late <;> simp [past]

/-- A date after the limit is not past as well, so it is refused for being too far ahead. -/
theorem checkBookingWindow_eq_tooFarAhead_iff :
    checkBookingWindow date today months =
      .error (.tooFarAhead date (bookingLimit today months)) ↔
    bookingLimit today months < date := by
  have limit := le_bookingLimit today months
  simp only [checkBookingWindow]
  split_ifs with past late
  · rw [Date.le_iff] at limit
    rw [Date.lt_iff] at past ⊢
    simp only [Except.error.injEq, reduceCtorEq, false_iff]
    omega
  · simp [late]
  · simp [late]

/-- The window of dates that can be booked only moves forward. A date within it is within it on any
later day that the date does not lie before, and under any wider horizon. In detail, for any number
of months: the limit is never before today, and never comes nearer. It lies in the month that
follows by that number, on the same day of the month, or on its last day if the month is shorter; if
the calendar does not have the month, as is so for every number of more than 31 bits, the limit is
the last day of the calendar. A date is refused as past exactly if it lies before today, as too far
ahead exactly if it lies after the limit, and otherwise it is let through. -/
theorem bookingWindow_moves_forward :
    (∀ (date today later : Date) (months more : Nat), today ≤ later → later ≤ date →
      months ≤ more → checkBookingWindow date today months = .ok () →
        checkBookingWindow date later more = .ok ()) ∧
    (∀ (today later : Date) (months more : Nat), today ≤ bookingLimit today months ∧
      (today ≤ later → months ≤ more → bookingLimit today months ≤ bookingLimit later more)) ∧
    (∀ (today : Date) (months : Nat),
      ((∃ e : Date, e.civil.monthNumber = today.civil.monthNumber + months) →
        (bookingLimit today months).IsMonthsAfter today months) ∧
      ((¬ ∃ e : Date, e.civil.monthNumber = today.civil.monthNumber + months) →
        bookingLimit today months = Date.last) ∧
      (2147483647 < months → bookingLimit today months = Date.last)) ∧
    (∀ (date today : Date) (months : Nat),
      let limit := bookingLimit today months
      (checkBookingWindow date today months = .error (.pastDate date today) ↔ date < today) ∧
      (checkBookingWindow date today months = .error (.tooFarAhead date limit) ↔ limit < date) ∧
      (checkBookingWindow date today months = .ok () ↔ today ≤ date ∧ date ≤ limit)) := by
  refine ⟨?forward, fun today later months more =>
    ⟨le_bookingLimit today months, bookingLimit_mono⟩, ?limit, fun date today months =>
    ⟨checkBookingWindow_eq_pastDate_iff, checkBookingWindow_eq_tooFarAhead_iff,
      checkBookingWindow_eq_ok_iff⟩⟩
  case forward =>
    intro date today later months more le not_past wider passed
    obtain ⟨-, not_late⟩ := checkBookingWindow_eq_ok_iff.mp passed
    have limit := bookingLimit_mono le wider
    exact checkBookingWindow_eq_ok_iff.mpr ⟨not_past, Int.le_trans not_late limit⟩
  case limit =>
    intro today months
    refine ⟨?_, ?_, bookingLimit_of_far⟩ <;> rcases bookingLimit_cases today months with
      after | ⟨last, beyond⟩
    · exact fun _ => after
    · rintro ⟨e, month⟩
      exact absurd month (Int.ne_of_lt (beyond e))
    · exact fun missing => absurd ⟨_, after.month⟩ missing
    · exact fun _ => last

/-- On 30 November 2025 and under a horizon of three months, the last day of February can be booked,
which is the limit since February is short. It can be booked on the last day of January as well. -/
theorem bookingWindow_moves_forward_to_february :
    let november : Date := ⟨739950, by decide, by decide⟩
    let january : Date := ⟨740012, by decide, by decide⟩
    let february : Date := ⟨740040, by decide, by decide⟩
    november.civil = ⟨2025, 11, 30⟩ ∧ january.civil = ⟨2026, 1, 31⟩ ∧
      february.civil = ⟨2026, 2, 28⟩ ∧ november ≤ january ∧ january ≤ february ∧
      checkBookingWindow february november 3 = .ok () ∧
      checkBookingWindow february january 3 = .ok () ∧
      february.civil.monthNumber = november.civil.monthNumber + 3 ∧
      (bookingLimit november 3).IsMonthsAfter november 3 ∧
      bookingLimit november 3 ≤ bookingLimit january 3 ∧
      bookingLimit november 4294967295 = Date.last := by
  intro november january february
  obtain ⟨forward, mono, limit, -⟩ := bookingWindow_moves_forward
  have le : november ≤ january := by decide
  have not_past : january ≤ february := by decide
  have passed : checkBookingWindow february november 3 = .ok () :=
    checkBookingWindow_eq_ok_iff.mpr ⟨by decide, by decide +kernel⟩
  have month : february.civil.monthNumber = november.civil.monthNumber + 3 := by decide +kernel
  exact ⟨by decide +kernel, by decide +kernel, by decide +kernel, le, not_past, passed,
    forward february november january 3 3 le not_past (Nat.le_refl 3) passed, month,
    (limit november 3).1 ⟨february, month⟩, (mono november january 3 3).2 le (Nat.le_refl 3),
    (limit november 4294967295).2.2 (by decide)⟩

end DutyRoster
