import DutyRoster.Store.Query

/-!
# Changes to the store

A change answers with a value or an error and leaves a ledger behind. The change that books a slot
takes several steps and may find out only after the first of them that it has to be refused;
`transaction` then puts the ledger back as it was.
-/

set_option autoImplicit false

namespace DutyRoster

/-- How a request to book a slot ends if nothing fails. -/
inductive CommitOutcome where
  | committed (assignment : Assignment)
  | alreadyAssigned (slot : ShiftSlot)
  | capacityReached (slot : ShiftSlot) (occupied : Nat)
deriving DecidableEq

namespace Ledger

/-- Runs a change and keeps what it wrote only if it succeeds with a value that is to be kept. -/
def transaction {α : Type} (keep : α → Bool) (change : Ledger → Except StoreError α × Ledger)
    (ledger : Ledger) : Except StoreError α × Ledger :=
  match change ledger with
  | (.ok value, after) => (.ok value, if keep value then after else ledger)
  | (.error e, _) => (.error e, ledger)

/-- Adds a member of staff. -/
def registerEmployee (name : String) (role : Role) (ledger : Ledger) :
    Except StoreError Employee × Ledger :=
  let id : EmployeeId := ⟨ledger.employeesIssued + 1⟩
  (.ok ⟨id, name, role⟩,
    { ledger with
      employees := ledger.employees ++ [⟨id, name, role.name⟩]
      employeesIssued := ledger.employeesIssued + 1 })

/-- The row of a slot of a day, which is added if there is none yet. An identifier is set aside for
the row before it is known whether it is needed, and is not given out again if it is not. -/
def ensureSlot (date : Date) (number : SlotNumber) (ledger : Ledger) : ShiftSlot × Ledger :=
  let next := ledger.slotsIssued + 1
  match ledger.findSlot? date number with
  | some row => (⟨row.id, date, number⟩, { ledger with slotsIssued := next })
  | none =>
    (⟨⟨next⟩, date, number⟩,
      { ledger with
        slots := ledger.slots ++ [⟨⟨next⟩, date.text, .integer number.number⟩]
        slotsIssued := next })

/-- The slot of a day, created if need be. -/
def getOrCreateSlot (date : Date) (number : SlotNumber) (ledger : Ledger) :
    Except StoreError ShiftSlot × Ledger :=
  let (slot, after) := ledger.ensureSlot date number
  (.ok slot, after)

/-- Adds an assignment without asking for capacity. The employee may not hold the slot yet, and
employee and slot have to exist. -/
def createAssignment (employee : EmployeeId) (slot : SlotId) (role : Role) (ledger : Ledger) :
    Except StoreError AssignmentId × Ledger :=
  if ledger.isAssigned employee slot then (.error .duplicateAssignment, ledger)
  else if (ledger.employees.any fun row => row.id = employee) ∧
      (ledger.slots.any fun row => row.id = slot) then
    let id : AssignmentId := ⟨ledger.assignmentsIssued + 1⟩
    (.ok id,
      { ledger with
        assignments := ledger.assignments ++ [⟨id, employee, slot, role.name⟩]
        assignmentsIssued := ledger.assignmentsIssued + 1 })
  else (.error .unknownReference, ledger)

/-- The steps of booking a slot, without the way back: find or create the slot, refuse a second
booking by the same employee, refuse a booking above capacity, and add the assignment. -/
def book (employee : EmployeeId) (date : Date) (number : SlotNumber) (role : Role)
    (capacity : UInt32) (ledger : Ledger) : Except StoreError CommitOutcome × Ledger :=
  let (slot, ledger) := ledger.ensureSlot date number
  if ledger.isAssigned employee slot.id then (.ok (.alreadyAssigned slot), ledger)
  else
    match ledger.countByRole slot.id role with
    | .error e => (.error e, ledger)
    | .ok occupied =>
      if capacity.toNat ≤ occupied then (.ok (.capacityReached slot occupied), ledger)
      else
        match ledger.createAssignment employee slot.id role with
        | (.ok id, ledger) => (.ok (.committed ⟨id, employee, slot.id, date, number, role⟩), ledger)
        | (.error .duplicateAssignment, ledger) => (.ok (.alreadyAssigned slot), ledger)
        | (.error e, ledger) => (.error e, ledger)

/-- Only a booking that was made is kept. -/
def CommitOutcome.isCommitted : CommitOutcome → Bool
  | .committed _ => true
  | _ => false

/-- Books a slot of a day for an employee in a role, with the given capacity for that role. -/
def commitAssignment (employee : EmployeeId) (date : Date) (number : SlotNumber) (role : Role)
    (capacity : UInt32) : Ledger → Except StoreError CommitOutcome × Ledger :=
  transaction CommitOutcome.isCommitted (book employee date number role capacity)

/-- Removes the assignment of an employee to a slot of a day. -/
def removeAssignment (employee : EmployeeId) (date : Date) (number : SlotNumber)
    (ledger : Ledger) : Except StoreError Unit × Ledger :=
  let hit (row : AssignmentRow) : Bool :=
    row.employee = employee ∧ ledger.slots.any fun slot =>
      slot.id = row.slot ∧ slot.date = date.text ∧ slot.number = .integer number.number
  if ledger.assignments.any hit then
    (.ok (), { ledger with assignments := ledger.assignments.filter fun row => !hit row })
  else (.error (.noAssignment employee date number), ledger)

end Ledger

/-- Whether a store can be changed: another user of the same file may hold the write lock, or the
file may only be read. -/
inductive WriteLock where
  | free
  | heldElsewhere
  | readOnly
deriving DecidableEq, Repr

/-- The ledger together with the write lock. -/
structure Store where
  ledger : Ledger := {}
  lock : WriteLock := .free
deriving DecidableEq

/-- Runs a change on the ledger; unless the lock is free it is refused and nothing happens. -/
def Store.write {α : Type} (change : Ledger → Except StoreError α × Ledger) (store : Store) :
    Except StoreError α × Store :=
  match store.lock with
  | .heldElsewhere => (.error .lockTimeout, store)
  | .readOnly => (.error .readOnly, store)
  | .free =>
    let (answer, ledger) := change store.ledger
    (answer, { store with ledger })

end DutyRoster
