import DutyRoster.Proofs.Scheduler.Vetting
import DutyRoster.Proofs.Store.Bookings
import Mathlib.Data.List.Perm.Subperm

/-!
# What a request depends on

A booking says who holds which slot of which day in which role. `Ledger.booked` lists the bookings
of a ledger: the shifts without the identifiers of their rows. Two ledgers may have come about in
different ways and number their rows differently; a request to assign sees the staff and the
bookings and nothing else.

It sees the bookings through three windows. The days on duty around a date are those of the own
bookings with a text in a range (`Ledger.Consistent.covers_knownDays_iff`), a duplicate is an own
booking of the slot (`Ledger.holds_iff_booked`), and the seats taken are the bookings of the slot in
a role (`Ledger.seats_eq_countP_booked`). What a request does to the bookings is to add one at the
end or to take one away.
-/

set_option autoImplicit false

namespace DutyRoster

/-- Who holds which slot of which day, and in which role. -/
structure Booking where
  employee : EmployeeId
  date : Date
  number : SlotNumber
  role : Role
deriving DecidableEq

/-- What a shift says apart from the identifiers of its rows. -/
def Assignment.booking (shift : Assignment) : Booking :=
  ⟨shift.employee, shift.date, shift.number, shift.role⟩

namespace Ledger

/-- The bookings that a ledger holds. -/
def booked (ledger : Ledger) : List Booking :=
  ledger.shifts.map Assignment.booking

section Windows

variable {ledger : Ledger}

/-- An employee holds a slot of a day exactly if this is booked in some role. -/
theorem holds_iff_booked {employee : EmployeeId} {date : Date} {number : SlotNumber} :
    ledger.Holds employee date number ↔ ∃ role, ⟨employee, date, number, role⟩ ∈ ledger.booked := by
  unfold booked Holds
  simp only [List.mem_map]
  constructor
  · rintro ⟨shift, mem, rfl, rfl, rfl⟩
    exact ⟨shift.role, shift, mem, rfl⟩
  · rintro ⟨role, shift, mem, eq⟩
    cases eq
    exact ⟨shift, mem, rfl, rfl, rfl⟩

/-- The seats taken are the bookings of the slot in the role. -/
theorem seats_eq_countP_booked (date : Date) (number : SlotNumber) (role : Role) :
    ledger.seats date number role = ledger.booked.countP fun booking =>
      booking.date = date ∧ booking.number = number ∧ booking.role = role := by
  unfold seats booked
  rw [List.countP_map]
  rfl

namespace Consistent

/-- Nothing is booked twice. -/
theorem nodup_booked (h : ledger.Consistent) : ledger.booked.Nodup := by
  have keys : (ledger.booked.map fun booking =>
      (booking.employee, booking.date, booking.number)).Nodup := by
    unfold booked
    rw [List.map_map]
    exact h.nodup_shifts
  exact keys.of_map

/-- A booking that is made is the last one. -/
theorem booked_withBooking (h : ledger.Consistent) (employee : EmployeeId) (date : Date)
    (number : SlotNumber) (role : Role) :
    (ledger.withBooking employee date number role).booked =
      ledger.booked ++ [⟨employee, date, number, role⟩] := by
  unfold booked
  rw [h.shifts_withBooking, List.map_append]
  rfl

/-- Removing a booking takes it away, in whatever role it was made. -/
theorem booked_withoutBooking (h : ledger.Consistent) (employee : EmployeeId) (date : Date)
    (number : SlotNumber) : (ledger.withoutBooking employee date number).booked =
      ledger.booked.filter fun booking => ¬ (booking.employee = employee ∧ booking.date = date ∧
        booking.number = number) := by
  unfold booked
  rw [h.shifts_withoutBooking, List.filter_map]
  rfl

/-- With fewer bookings no more seats are taken, however the rows are arranged. -/
theorem seats_le_of_booked_subset {more : Ledger} (h : ledger.Consistent)
    (fewer : ledger.booked ⊆ more.booked) (date : Date) (number : SlotNumber) (role : Role) :
    ledger.seats date number role ≤ more.seats date number role := by
  rw [seats_eq_countP_booked, seats_eq_countP_booked]
  exact (List.subperm_of_subset h.nodup_booked fewer).countP_le _

end Consistent

end Windows

/-- The days that a store knows of are those of the own bookings whose text lies in the range. -/
theorem Consistent.covers_knownDays_iff {store : Store} (h : store.ledger.Consistent)
    (employee : EmployeeId) (day : Date) (radius : Nat) (n : Int) :
    Covers (store.knownDays employee day radius) n ↔
      ∃ booking ∈ store.ledger.booked, booking.employee = employee ∧
        dateTextBetween (surroundings day radius).1 (surroundings day radius).2 booking.date.text ∧
        booking.date.number = n := by
  rw [(h.dutyDaysAround_eq employee day radius).2]
  unfold booked
  constructor
  · rintro ⟨shift, mem, seen⟩
    exact ⟨shift.booking, List.mem_map_of_mem mem, seen⟩
  · rintro ⟨booking, mem, seen⟩
    obtain ⟨shift, held, rfl⟩ := List.mem_map.mp mem
    exact ⟨shift, held, seen⟩

end Ledger

end DutyRoster
