import DutyRoster.Proofs.Roster.Windows
import DutyRoster.Proofs.Scheduler.Grid
import DutyRoster.Proofs.Scheduler.RequestDate
import DutyRoster.Scheduler.OnCall

/-!
# Dates of short years

The text of a request's date has ten octets, which leave room for a year of five digits at most
(`requestDate_hasShortYear`). The calendar goes on for far more days on both sides of such a date
than a grid can have (`Date.HasShortYear.room`). So neither the last day of a grid nor the window of
a slot leaves the calendar when it is reckoned from the date of a request, though nothing checks
this where it is done.
-/

set_option autoImplicit false

namespace DutyRoster

/-- The years that can be written with at most five digits, before the year 0 and after it. -/
def Date.HasShortYear (d : Date) : Prop :=
  -99999 ≤ d.civil.year ∧ d.civil.year ≤ 99999

section Requests

variable {text : String} {day date : Date}

/-- Ten octets leave room for a year of five digits at most. -/
theorem requestDate_hasShortYear (read : requestDate text = .ok day) : day.HasShortYear := by
  obtain ⟨size, spells⟩ := requestDate_eq_ok_iff.mp read
  rw [utf8ByteSize_eq_utf8Len] at size
  have length_le := length_le_utf8Len text.toList
  unfold Date.HasShortYear
  generalize day.civil = c at spells
  generalize text.toList = chars at spells size length_le
  obtain ⟨-, -, -, year_spelled, month_spelled, day_spelled⟩ := spells
  have month_nonempty := List.length_pos_of_ne_nil month_spelled.numeral.nonempty
  have day_nonempty := List.length_pos_of_ne_nil day_spelled.numeral.nonempty
  simp only [List.length_append, List.length_cons] at length_le
  generalize c.year = year at year_spelled
  have five {digits : List Char} {n : Nat} (numeral : IsNumeral digits n)
      (short : digits.length ≤ 5) : n < 10 ^ 5 :=
    Nat.lt_of_lt_of_le (numeral.lt rfl) (Nat.pow_le_pow_right (by decide) short)
  cases year_spelled with
  | plain numeral short =>
    have := five numeral (by omega)
    omega
  | positive numeral =>
    rw [List.length_cons] at length_le
    have := five numeral (by omega)
    omega
  | negative numeral =>
    rw [List.length_cons] at length_le
    have := five numeral (by omega)
    omega

/-- The calendar goes on for more days than a grid can have on both sides of a date of a short
year. -/
theorem Date.HasShortYear.room (h : date.HasShortYear) :
    firstDayNumber + maxAvailabilityDays ≤ date.number ∧
      date.number + maxAvailabilityDays ≤ lastDayNumber := by
  have bounds := CivilDay.number_bounds date.exists_civil
  rw [Date.number_civil] at bounds
  have first := daysBeforeYear_mono h.1
  have last := daysBeforeYear_mono (show date.civil.year + 1 ≤ 100000 by have := h.2; omega)
  have before : firstDayNumber + maxAvailabilityDays ≤ daysBeforeYear (-99999) := by decide
  have after : daysBeforeYear 100000 + maxAvailabilityDays ≤ lastDayNumber := by decide
  omega

/-- The range of a grid that is asked for can always be told. -/
theorem exists_lastOfRange {days : Nat} (read : requestDate text = .ok day)
    (counted : checkDayCount days = .ok ()) : ∃ last, lastOfRange day days = .ok last := by
  have room := (requestDate_hasShortYear read).room
  have count : days ≤ maxAvailabilityDays := by
    unfold checkDayCount at counted
    split at counted
    case isTrue fits => exact fits.2
    case isFalse => cases counted
  unfold lastOfRange
  cases step : day.addDays? (days - 1 : Nat) with
  | some last => exact ⟨last, rfl⟩
  | none =>
    have beyond := Date.addDays?_eq_none_iff.mp step
    omega

/-- What the store fails with is a failure of the store to a request. -/
theorem Store.eq_storage_of_asRefusal {α : Type} {answer : Except StoreError α}
    {cause : SchedulingError} (failed : asRefusal answer = .error cause) :
    ∃ fault, cause = .storage fault := by
  cases answer with
  | error fault => exact ⟨fault, (Except.error.inj failed).symm⟩
  | ok value => cases failed

/-- No request for a grid is refused because its range leaves the calendar. -/
theorem Store.availability_ne_rangeBeyondCalendar (store : Store) (options : Options)
    (text : String) (days : Nat) (start : Date) :
    store.availability options text days ≠ .error (.rangeBeyondCalendar start) := by
  intro refused
  -- one step for each of the questions that are asked before a grid is made
  rcases error_of_bind refused with miscounted | ⟨⟨⟩, counted, refused⟩
  · unfold checkDayCount at miscounted
    split at miscounted <;> cases miscounted
  rcases error_of_bind refused with unread | ⟨day, read, refused⟩
  · rcases requestDate_error unread with eq | ⟨fault, eq⟩ <;> cases eq
  obtain ⟨last, range⟩ := exists_lastOfRange read counted
  rcases error_of_bind refused with beyond | ⟨last', -, refused⟩
  · rw [range] at beyond
    cases beyond
  rcases error_of_bind refused with failed | ⟨counts, -, done⟩
  · obtain ⟨fault, eq⟩ := eq_storage_of_asRefusal failed
    cases eq
  · cases done

end Requests

section Windows

variable {date : Date} {number : SlotNumber} {start stop at_ : Instant}

/-- On a date of a short year every slot has a window. -/
theorem Date.HasShortYear.exists_window (h : date.HasShortYear) (number : SlotNumber) :
    ∃ start stop, number.window? date = some (start, stop) := by
  have after : date.number + number.nightShift ≤ lastDayNumber := by
    have room := h.room
    have two : (2 : Int) ≤ maxAvailabilityDays := by decide
    cases number <;> simp only [SlotNumber.nightShift] <;> omega
  exact SlotNumber.exists_window after

/-- An instant of the window of a slot falls into that slot, if the date is of a short year. -/
theorem Date.HasShortYear.containing_eq (h : date.HasShortYear)
    (window : number.window? date = some (start, stop)) (from_start : start ≤ at_)
    (before : at_ < stop) : SlotNumber.containing at_ = (date, number) := by
  refine (SlotNumber.containing_eq_iff window ?_).mpr ⟨from_start, before⟩
  rintro ⟨first, -⟩
  -- the first morning of the calendar is over long before the date
  obtain ⟨at_start, -⟩ := SlotNumber.window?_eq_some_iff.mp window
  refine from_start ((SlotNumber.lt_iff_of_isAtSecond at_start).mpr (.inl ?_))
  have room := h.room
  have positive : (0 : Int) < maxAvailabilityDays := by decide
  rw [first]
  change firstDayNumber < date.number
  omega

/-- The slot has a window, and who is on call can be told at every instant of it as far as the
calendar is concerned. -/
def Store.AnswersDuring (store : Store) (date : Date) (number : SlotNumber) : Prop :=
  ∃ start stop, number.window? date = some (start, stop) ∧
    ∀ at_ buffer other slot, start ≤ at_ → at_ < stop →
      store.onCall at_ buffer ≠ .error (.windowBeyondCalendar other slot)

/-- On a date of a short year, who is on call can be told during every slot. -/
theorem Date.HasShortYear.answersDuring (h : date.HasShortYear) (store : Store)
    (number : SlotNumber) : store.AnswersDuring date number := by
  obtain ⟨start, stop, window⟩ := h.exists_window number
  refine ⟨start, stop, window, ?_⟩
  intro at_ buffer other slot from_start before
  simp only [Store.onCall, Ledger.onDuty, h.containing_eq window from_start before, window]
  split
  · simp [Except.mapError]
  · cases store.ledger.slotStaff date number <;> simp [Except.mapError]

end Windows

end DutyRoster
