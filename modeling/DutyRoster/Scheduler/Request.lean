import DutyRoster.Scheduler.Error

/-!
# Reading requests

The parts of a request as they come in: a date as text, a slot as a number, and the window of dates
that can be booked.
-/

set_option autoImplicit false

namespace DutyRoster

/-- Reads the date of a request, which has ten octets. -/
def requestDate (text : String) : Except SchedulingError Date :=
  if text.utf8ByteSize = 10 then
    (Date.read false text.toList).mapError (.invalidDate text)
  else .error (.misshapenDate text)

/-- Reads the slot of a request. -/
def requestSlot (number : Nat) : Except SchedulingError SlotNumber :=
  match SlotNumber.ofNumber? number with
  | some slot => .ok slot
  | none => .error (.invalidSlot number)

/-- The last day that can be booked: today some calendar months later, or the last day of the
calendar if there is no such day. -/
def bookingLimit (today : Date) (months : Nat) : Date :=
  (today.addMonths? months).getD Date.last

/-- Days before today and days after the booking limit cannot be booked. -/
def checkBookingWindow (date today : Date) (months : Nat) : Except SchedulingError Unit :=
  if date < today then .error (.pastDate date today)
  else
    let limit := bookingLimit today months
    if limit < date then .error (.tooFarAhead date limit) else .ok ()

end DutyRoster
