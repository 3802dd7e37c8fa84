import DutyRoster.Store.Table
import DutyRoster.Store.Error

/-!
# Reading rows

Stored texts are read by the same rules as requests: roles generously, dates in the strict form.
A row is read column by column, and the first column that cannot be read decides the error.
-/

set_option autoImplicit false

namespace DutyRoster

/-- Reads a stored role. -/
def roleAt (column : Nat) (text : String) : Except StoreError Role :=
  (Role.read text).mapError fun fault => .unreadable column (.role fault)

/-- Reads a stored date. -/
def dateAt (column : Nat) (text : String) : Except StoreError Date :=
  (Date.read false text.toList).mapError fun fault => .unreadable column (.date fault)

/-- Reads a stored slot number. -/
def slotNumberAt (column : Nat) : Cell → Except StoreError SlotNumber
  | .text _ => .error (.unreadable column .slotText)
  | .integer value =>
    match if 0 ≤ value then SlotNumber.ofNumber? value.toNat else none with
    | some number => .ok number
    | none => .error (.unreadable column (.slotNumber value))

/-- Reads a row of the table of staff. -/
def EmployeeRow.read (row : EmployeeRow) : Except StoreError Employee := do
  let role ← roleAt 2 row.role
  .ok ⟨row.id, row.name, role⟩

/-- Reads an assignment and its slot. -/
def readAssignment (booking : AssignmentRow × SlotRow) : Except StoreError Assignment := do
  let (row, slot) := booking
  let date ← dateAt 3 slot.date
  let number ← slotNumberAt 4 slot.number
  let role ← roleAt 5 row.role
  .ok ⟨row.id, row.employee, row.slot, date, number, role⟩

/-- Counts are kept in 32 bits. -/
def boundedCount (count : Nat) : Except StoreError Nat :=
  if count < 4294967296 then .ok count else .error (.countOutOfRange count)

end DutyRoster
