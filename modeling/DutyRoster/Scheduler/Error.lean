import DutyRoster.Store.Error
import DutyRoster.Text.Quoted

/-!
# Refusals of the scheduler

Every cause for which a request is not carried out, its wording, and the family that it belongs to:
bad input, a rule of the roster, or a failure of the store.
-/

set_option autoImplicit false

namespace DutyRoster

/-- The largest number of days of an availability grid. -/
def maxAvailabilityDays : Nat := 90

/-- The causes for which the scheduler refuses a request. -/
inductive SchedulingError where
  | unknownEmployee (employee : EmployeeId)
  | noAssignment (employee : EmployeeId) (date : Date) (slot : SlotNumber)
  | misshapenDate (text : String)
  | invalidDate (text : String) (fault : DateFault)
  | invalidSlot (number : Nat)
  | invalidDayCount (days : Nat)
  | rangeBeyondCalendar (start : Date)
  | rangeReversed (first last : Date)
  | pastDate (date today : Date)
  | tooFarAhead (date limit : Date)
  | consecutiveLimit (run max : Nat)
  | alreadyAssigned (employee : EmployeeId) (date : Date) (slot : SlotNumber)
  | capacityReached (role : Role) (date : Date) (slot : SlotNumber) (capacity : UInt32)
  | storage (cause : StoreError)
  | windowBeyondCalendar (date : Date) (slot : SlotNumber)
deriving DecidableEq

/-- The families of refusals. -/
inductive ErrorClass where
  | input
  | rejection
  | storage
deriving DecidableEq, Repr

namespace SchedulingError

/-- The family of a refusal. A slot window that the calendar cannot hold is a matter of input. -/
def errorClass : SchedulingError → ErrorClass
  | .pastDate .. => .rejection
  | .tooFarAhead .. => .rejection
  | .consecutiveLimit .. => .rejection
  | .alreadyAssigned .. => .rejection
  | .capacityReached .. => .rejection
  | .storage _ => .storage
  | _ => .input

/-- The wording of a refusal. -/
def message : SchedulingError → String
  | .unknownEmployee employee => s!"not found: unknown employee {employee}"
  | .noAssignment employee date slot =>
    s!"not found: {noAssignmentMessage employee date slot}"
  | .misshapenDate text =>
    "invalid input: expected date as YYYY-MM-DD, got " ++ String.ofList (Text.quote text.toList)
  | .invalidDate text fault =>
    "invalid input: invalid date " ++ String.ofList (Text.quote text.toList) ++ ": " ++
      fault.message
  | .invalidSlot number => s!"invalid input: {unknownSlotMessage number}"
  | .invalidDayCount days =>
    s!"invalid input: day count must be between 1 and {maxAvailabilityDays} (got {days})"
  | .rangeBeyondCalendar start => s!"invalid input: range from {start} overflows"
  | .rangeReversed first last => s!"invalid input: range end {last} is before start {first}"
  | .pastDate date today => s!"date {date} is in the past (today is {today})"
  | .tooFarAhead date limit =>
    s!"date {date} is beyond the booking horizon (last bookable day {limit})"
  | .consecutiveLimit run max =>
    s!"assignment would create {run} consecutive duty days (max {max})"
  | .alreadyAssigned employee date slot =>
    s!"employee {employee} already holds slot {slot} on {date}"
  | .capacityReached role date slot capacity =>
    s!"{role} capacity reached on {date} slot {slot} (max {capacity.toNat})"
  | .storage _ => "storage failure"
  | .windowBeyondCalendar date slot =>
    s!"slot {slot} on {date} ends after the last day of the calendar"

end SchedulingError

end DutyRoster
