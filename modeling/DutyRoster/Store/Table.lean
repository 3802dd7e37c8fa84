import DutyRoster.Roster.Records
import DutyRoster.Calendar.DateText

/-!
# Tables

The store keeps three tables: staff, slots of days, and assignments. Roles and dates are kept as
text and slot numbers as plain cells, so a row that something else has written into may fail to be
read; all rows that the store itself writes can be read back. New rows are added at the end of a
table, with the next identifier that has never been set aside for any row.
-/

set_option autoImplicit false

namespace DutyRoster

/-- A stored slot number: a whole number, unless something else was written there. -/
inductive Cell where
  | integer (value : Int)
  | text (value : String)
deriving DecidableEq, Repr

/-- Whole numbers come before texts; each kind has its own order. -/
def Cell.le : Cell → Cell → Bool
  | .integer a, .integer b => a ≤ b
  | .integer _, .text _ => true
  | .text _, .integer _ => false
  | .text a, .text b => a ≤ b

/-- A row of the table of staff. -/
structure EmployeeRow where
  id : EmployeeId
  name : String
  role : String
deriving DecidableEq

/-- A row of the table of slots. -/
structure SlotRow where
  id : SlotId
  date : String
  number : Cell
deriving DecidableEq

/-- A row of the table of assignments. -/
structure AssignmentRow where
  id : AssignmentId
  employee : EmployeeId
  slot : SlotId
  role : String
deriving DecidableEq

/-- The three tables, each with the number of identifiers that have been set aside for its rows.
Where it is stored, an identifier has 64 bits, one of them for the sign. The numbers here have no
such bound: identifiers are set aside one by one, and 2^63 of them are out of reach. -/
structure Ledger where
  employees : List EmployeeRow := []
  slots : List SlotRow := []
  assignments : List AssignmentRow := []
  employeesIssued : Nat := 0
  slotsIssued : Nat := 0
  assignmentsIssued : Nat := 0
deriving DecidableEq

namespace Ledger

/-- The row of a slot of a day, if there is one. -/
def findSlot? (ledger : Ledger) (date : Date) (number : SlotNumber) : Option SlotRow :=
  ledger.slots.find? fun row => row.date = date.text ∧ row.number = .integer number.number

/-- Every assignment together with the slot that it is for. -/
def bookings (ledger : Ledger) : List (AssignmentRow × SlotRow) :=
  ledger.assignments.flatMap fun row =>
    (ledger.slots.filter fun slot => slot.id = row.slot).map fun slot => (row, slot)

end Ledger

end DutyRoster
