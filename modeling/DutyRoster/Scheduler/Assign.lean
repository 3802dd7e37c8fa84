import DutyRoster.Scheduler.Request
import DutyRoster.Store.Change
import DutyRoster.Rules.ConsecutiveDuty
import DutyRoster.Rules.Options

/-!
# Assigning, removing and listing shifts

The requests of the planner. Each names an employee by number and, where it needs one, a date as
text and a slot as a number. What is wrong with a request is found out in a fixed order, and the
first thing found decides the answer.
-/

set_option autoImplicit false

namespace DutyRoster

/-- The answer to a request that was granted. -/
structure Receipt where
  id : AssignmentId
  employee : EmployeeId
  date : Date
  slot : SlotNumber
deriving DecidableEq

namespace Store

/-- A failure of the store, seen by a request. -/
def asRefusal {α : Type} (answer : Except StoreError α) : Except SchedulingError α :=
  answer.mapError .storage

/-- The employee that a request is made for. -/
def requestEmployee (store : Store) (id : EmployeeId) : Except SchedulingError Employee := do
  match ← asRefusal (store.ledger.findEmployee id) with
  | some employee => .ok employee
  | none => .error (.unknownEmployee id)

/-- The days near `date` on which an employee is on duty, as far as the limit on consecutive days
can depend on them. -/
def dutyDaysAround (store : Store) (employee : EmployeeId) (date : Date) (radius : Nat) :
    Except SchedulingError (List Date) := do
  let assignments ←
    asRefusal (store.ledger.listAssignments employee (some (surroundings date radius)))
  .ok (assignments.map (·.date))

/-- Everything that is checked before a slot is booked, in this order: the employee exists, the date
and the slot can be read, the day can be booked today, and the days on duty in a row stay within the
limit. -/
def vetRequest (options : Options) (today : Date) (employee : EmployeeId) (date : String)
    (slot : Nat) (store : Store) : Except SchedulingError (Employee × Date × SlotNumber) := do
  let employee ← store.requestEmployee employee
  let date ← requestDate date
  let slot ← requestSlot slot
  checkBookingWindow date today options.bookingHorizonMonths.toNat
  let limit := options.maxConsecutiveDays.toNat
  let onDuty ← store.dutyDaysAround employee.id date limit
  match checkConsecutive limit onDuty date with
  | .error run => .error (.consecutiveLimit run limit)
  | .ok _ => .ok (employee, date, slot)

/-- The answer to a request, given how the booking ended. -/
def receipt (employee : Employee) (date : Date) (slot : SlotNumber) (capacity : UInt32) :
    Except StoreError CommitOutcome → Except SchedulingError Receipt
  | .ok (.committed assignment) => .ok ⟨assignment.id, employee.id, date, slot⟩
  | .ok (.alreadyAssigned _) => .error (.alreadyAssigned employee.id date slot)
  | .ok (.capacityReached ..) => .error (.capacityReached employee.role date slot capacity)
  | .error e => .error (.storage e)

/-- Assigns an employee to a slot of a day. -/
def assign (options : Options) (today : Date) (employee : EmployeeId) (date : String) (slot : Nat)
    (store : Store) : Except SchedulingError Receipt × Store :=
  match store.vetRequest options today employee date slot with
  | .error e => (.error e, store)
  | .ok (employee, date, slot) =>
    let capacity := options.capacity.capacity employee.role
    let (outcome, after) :=
      store.write (Ledger.commitAssignment employee.id date slot employee.role capacity)
    (receipt employee date slot capacity outcome, after)

/-- The answer to a request to remove a booking, given how the removal ended. -/
def removalAnswer : Except StoreError Unit → Except SchedulingError Unit
  | .ok () => .ok ()
  | .error (.noAssignment employee date slot) => .error (.noAssignment employee date slot)
  | .error e => .error (.storage e)

/-- Removes the booking of a slot of a day by an employee. -/
def remove (employee : EmployeeId) (date : String) (slot : Nat) (store : Store) :
    Except SchedulingError Unit × Store :=
  match (do return (← requestDate date, ← requestSlot slot)) with
  | .error e => (.error e, store)
  | .ok (date, slot) =>
    let (answer, after) := store.write (Ledger.removeAssignment employee date slot)
    (removalAnswer answer, after)

/-- A range of dates may not end before it starts. -/
def checkRange : Option (Date × Date) → Except SchedulingError Unit
  | none => .ok ()
  | some (first, last) => if last < first then .error (.rangeReversed first last) else .ok ()

/-- The shifts of an employee, all of them or those between two dates. -/
def listShifts (store : Store) (employee : EmployeeId) (range : Option (Date × Date)) :
    Except SchedulingError (List Assignment) := do
  checkRange range
  let employee ← store.requestEmployee employee
  asRefusal (store.ledger.listAssignments employee.id range)

end Store

end DutyRoster
