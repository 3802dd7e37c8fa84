import DutyRoster.Roster.Records
import DutyRoster.Calendar.DateText

/-!
# What can go wrong in the store

Each cause has a constructor, and `StoreError.message` gives its wording. Rows that cannot be read
are reported with the column, counted from 0 in the answer of the query that met them.
-/

set_option autoImplicit false

namespace DutyRoster

/-- The reasons for which a stored value cannot be read. -/
inductive UnreadableValue where
  | role (fault : UnknownRole)
  | date (fault : DateFault)
  | slotNumber (value : Int)
  | slotText
deriving DecidableEq, Repr

/-- The causes for which the store refuses an operation. -/
inductive StoreError where
  | lockTimeout
  | readOnly
  | noAssignment (employee : EmployeeId) (date : Date) (slot : SlotNumber)
  | countOutOfRange (count : Nat)
  | unknownReference
  | duplicateAssignment
  | duplicateSlot
  | unreadable (column : Nat) (value : UnreadableValue)
deriving DecidableEq

/-- The wording of a failure to read a stored value. A slot number is explained only if it fits into
an octet. -/
def UnreadableValue.message (column : Nat) : UnreadableValue → String
  | .role fault => s!"Conversion error from type Text at index: {column}, {fault.message}"
  | .date fault => s!"Conversion error from type Text at index: {column}, {fault.message}"
  | .slotNumber value =>
    let place := s!"Conversion error from type Integer at index: {column}"
    if 0 ≤ value ∧ value ≤ 255 then s!"{place}, {unknownSlotMessage value.toNat}" else place
  | .slotText => s!"Invalid column type Text at index: {column}, name: slot_number"

/-- The wording of a missing assignment. -/
def noAssignmentMessage (employee : EmployeeId) (date : Date) (slot : SlotNumber) : String :=
  s!"no assignment for employee {employee} on {date} slot {slot}"

/-- The wording of a failure of the store. -/
def StoreError.message : StoreError → String
  | .lockTimeout => "storage timed out waiting for the database lock"
  | .readOnly => "database error: attempt to write a readonly database"
  | .noAssignment employee date slot => noAssignmentMessage employee date slot
  | .countOutOfRange count => s!"invalid row: negative count {count}"
  | .unknownReference => "database error: FOREIGN KEY constraint failed"
  | .duplicateAssignment =>
    "database error: UNIQUE constraint failed: assignment.employee_id, assignment.slot_id"
  | .duplicateSlot =>
    "database error: UNIQUE constraint failed: shift_slot.shift_date, shift_slot.slot_number"
  | .unreadable column value => "database error: " ++ value.message column

end DutyRoster
