import DutyRoster.Store.Decode
import DutyRoster.Rules.Capacity

/-!
# Questions to the store

Every question is answered from the tables alone and changes nothing. Dates are compared as the
texts that are stored, character by character; this is the order of the calendar for the years 0 to
9999, while years with a sign come before them.
-/

set_option autoImplicit false

namespace DutyRoster

/-- A stored date lies between the texts of two dates, ends included. -/
def dateTextBetween (first last : Date) (text : String) : Bool :=
  first.text ≤ text && text ≤ last.text

/-- Numbers of people by day, slot and role. Entries made later hide earlier ones. -/
structure SlotCounts where
  entries : List ((Date × SlotNumber × Role) × Nat) := []
deriving DecidableEq

namespace SlotCounts

/-- Sets the number for a day, slot and role. -/
def insert (counts : SlotCounts) (date : Date) (slot : SlotNumber) (role : Role) (n : Nat) :
    SlotCounts :=
  ⟨((date, slot, role), n) :: counts.entries⟩

/-- The number for a day, slot and role, which is zero unless it was set. -/
def get (counts : SlotCounts) (date : Date) (slot : SlotNumber) (role : Role) : Nat :=
  ((counts.entries.find? fun entry => entry.1 = (date, slot, role)).map (·.2)).getD 0

/-- No number was set. -/
def isEmpty (counts : SlotCounts) : Bool :=
  counts.entries.isEmpty

end SlotCounts

namespace Ledger

/-- The member of staff with the given identifier, if there is one. -/
def findEmployee (ledger : Ledger) (id : EmployeeId) : Except StoreError (Option Employee) :=
  match ledger.employees.find? fun row => row.id = id with
  | some row => row.read.map some
  | none => .ok none

/-- All staff in the order of their identifiers. -/
def listEmployees (ledger : Ledger) : Except StoreError (List Employee) :=
  ledger.employees.mapM EmployeeRow.read

/-- Whether an employee holds a slot. -/
def isAssigned (ledger : Ledger) (employee : EmployeeId) (slot : SlotId) : Bool :=
  ledger.assignments.any fun row => row.employee = employee ∧ row.slot = slot

/-- The number of assignments of a slot that were made in a role, by the text of the role. -/
def roleCount (ledger : Ledger) (slot : SlotId) (role : Role) : Nat :=
  ledger.assignments.countP fun row => row.slot = slot ∧ row.role = role.name

/-- The number of assignments of a slot that were made in a role. -/
def countByRole (ledger : Ledger) (slot : SlotId) (role : Role) : Except StoreError Nat :=
  boundedCount (ledger.roleCount slot role)

/-- The order of bookings in lists: by the text of the date, then by slot number. -/
def bookingLe (a b : AssignmentRow × SlotRow) : Bool :=
  if a.2.date = b.2.date then a.2.number.le b.2.number else a.2.date ≤ b.2.date

/-- The assignments of an employee in the order of date and slot, all of them or those between two
dates. -/
def listAssignments (ledger : Ledger) (employee : EmployeeId) (range : Option (Date × Date)) :
    Except StoreError (List Assignment) :=
  let rows := ledger.bookings.filter fun (row, slot) =>
    row.employee = employee ∧ range.all fun (first, last) => dateTextBetween first last slot.date
  (rows.mergeSort bookingLe).mapM readAssignment

/-- What bookings are counted by: the stored date, slot number and role. -/
structure CountKey where
  date : String
  number : Cell
  role : String
deriving DecidableEq

/-- The order of groups of bookings: by date, slot number and role. -/
def CountKey.le (a b : CountKey) : Bool :=
  if a.date = b.date then
    if a.number = b.number then a.role ≤ b.role else a.number.le b.number
  else a.date ≤ b.date

/-- Reads the key of a group and enters the size of the group under it. -/
def enterGroup (keys : List CountKey) (counts : SlotCounts) (key : CountKey) :
    Except StoreError SlotCounts := do
  let date ← dateAt 0 key.date
  let slot ← slotNumberAt 1 key.number
  let role ← roleAt 2 key.role
  let count ← boundedCount (keys.count key)
  .ok (counts.insert date slot role count)

/-- The numbers of bookings by day, slot and role between two dates. -/
def aggregateCounts (ledger : Ledger) (first last : Date) : Except StoreError SlotCounts :=
  let rows := ledger.bookings.filter fun (_, slot) => dateTextBetween first last slot.date
  let keys := rows.map fun (row, slot) => CountKey.mk slot.date slot.number row.role
  (keys.eraseDups.mergeSort CountKey.le).foldlM (enterGroup keys) {}

/-- The staff of a slot of a day, once for each of their bookings of it, in the order of their
identifiers. -/
def slotStaff (ledger : Ledger) (date : Date) (number : SlotNumber) :
    Except StoreError (List Employee) :=
  let rows := ledger.employees.flatMap fun employee =>
    (ledger.bookings.filter fun (row, slot) =>
      row.employee = employee.id ∧ slot.date = date.text ∧
        slot.number = .integer number.number).map fun _ => employee
  rows.mapM EmployeeRow.read

end Ledger

end DutyRoster
