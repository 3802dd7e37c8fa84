import DutyRoster.Scheduler.Availability
import DutyRoster.Scheduler.OnCall
import DutyRoster.Exchange.StaffFile
import DutyRoster.Exchange.ShiftFile
import DutyRoster.Exchange.RecordJson

/-!
# Sessions

A session is a store together with a clock that stands still until it is moved, and the limits in
force. `Operation` lists everything that can be asked of it, `Session.step` carries one operation
out and `Session.run` several in a row. An operation answers with a `Reply` or with a `Refusal`.

Besides the requests of planners, the operations are those of the directory of staff, those of the
store itself, exports and imports, and what may happen around a store: the clock moves, the store is
opened again, somebody else takes the write lock, or a stored value is overwritten.
-/

set_option autoImplicit false

namespace DutyRoster

/-- A stored value that can be overwritten from outside. -/
inductive StoredValue where
  | employeeRole (text : String)
  | assignmentRole (text : String)
  | slotDate (text : String)
  | slotNumber (cell : Cell)
deriving DecidableEq, Repr

/-- What can be asked of a session. Roles and slot numbers come as they were given and are read when
the operation is carried out; so is the date of a planner's request. Buffers are given in
milliseconds. -/
inductive Operation where
  | assign (employee : EmployeeId) (date : String) (slot : Nat)
  | remove (employee : EmployeeId) (date : String) (slot : Nat)
  | list (employee : EmployeeId) (range : Option (Date × Date))
  | availability (start : String) (days : Nat)
  | onCall (instant : Instant) (buffer : Int)
  | onCallNow (buffer : Int)
  | options
  | register (name role : String)
  | find (employee : EmployeeId)
  | employees
  | slot (date : Date) (number : Nat)
  | isAssigned (employee : EmployeeId) (slot : SlotId)
  | count (slot : SlotId) (role : String)
  | create (employee : EmployeeId) (slot : SlotId) (role : String)
  | commit (employee : EmployeeId) (date : Date) (number : Nat) (role : String) (capacity : UInt32)
  | storeRemove (employee : EmployeeId) (date : Date) (number : Nat)
  | storeList (employee : EmployeeId) (range : Option (Date × Date))
  | counts (first last : Date)
  | onDuty (instant : Instant) (buffer : Int)
  | importStaff (octets : List UInt8)
  | exportShifts (employee : EmployeeId) (range : Option (Date × Date))
  | exportAvailability (start : String) (days : Nat)
  | setNow (now : Instant)
  | reopen (options : Options)
  | lock
  | unlock
  | overwrite (id : Int) (value : StoredValue)

/-- What a session answers. -/
inductive Reply where
  | done
  | receipt (receipt : Receipt)
  | assignments (assignments : List Assignment)
  | grid (grid : List DayAvailability)
  | staff (employees : List Employee)
  | employee (employee : Option Employee)
  | registered (employee : Employee)
  | options (options : Options)
  | slot (slot : ShiftSlot)
  | truth (value : Bool)
  | number (n : Nat)
  | assignmentId (id : AssignmentId)
  | outcome (outcome : CommitOutcome)
  | counts (counts : SlotCounts)
  | text (text : List Char)
  | today (date : Date)
  | reopened
  | locked
  | unlocked
  | rows (n : Nat)
deriving DecidableEq

/-- Why a session does not carry an operation out. -/
inductive Refusal where
  | role (fault : UnknownRole)
  | slotNumber (number : Nat)
  | request (cause : SchedulingError)
  | store (cause : StoreError)
  | windowBeyondCalendar
  | staffFile (cause : ImportError)
deriving DecidableEq

/-- A store with a clock and limits. A store that is kept in a file is `durable`: it is the same
when it is opened again, while any other store is then empty. -/
structure Session where
  store : Store := {}
  now : Instant
  options : Options := {}
  durable : Bool := false
deriving DecidableEq

namespace Ledger

/-- Overwrites part of a row of the table of slots. Two slots may not come to have the same date and
number. -/
def overwriteSlot (ledger : Ledger) (id : Int) (change : SlotRow → SlotRow) :
    Except StoreError Nat × Ledger :=
  let clash := ledger.slots.any fun row => row.id.number = id ∧ ledger.slots.any fun other =>
    other.id.number ≠ id ∧ other.date = (change row).date ∧ other.number = (change row).number
  if clash then (.error .duplicateSlot, ledger)
  else
    (.ok (ledger.slots.countP fun row => row.id.number = id),
      { ledger with
        slots := ledger.slots.map fun row => if row.id.number = id then change row else row })

/-- Overwrites one stored value, whatever it may mean to a reader. The answer is the number of rows
overwritten. -/
def overwrite (ledger : Ledger) (id : Int) : StoredValue → Except StoreError Nat × Ledger
  | .employeeRole text =>
    (.ok (ledger.employees.countP fun row => row.id.number = id),
      { ledger with
        employees := ledger.employees.map fun row =>
          if row.id.number = id then { row with role := text } else row })
  | .assignmentRole text =>
    (.ok (ledger.assignments.countP fun row => row.id.number = id),
      { ledger with
        assignments := ledger.assignments.map fun row =>
          if row.id.number = id then { row with role := text } else row })
  | .slotDate text =>
    ledger.overwriteSlot id fun row => { row with date := text }
  | .slotNumber cell =>
    ledger.overwriteSlot id fun row => { row with number := cell }
end Ledger

namespace Store

/-- Registers several members of staff one after the other, stopping at the first failure. -/
def registerAll : List NewEmployee → Store → Except StoreError Unit × Store
  | [], store => (.ok (), store)
  | row :: rest, store =>
    match store.write (Ledger.registerEmployee row.name row.role) with
    | (.ok _, store) => registerAll rest store
    | (.error e, store) => (.error e, store)

end Store

namespace Session

/-- A session over an empty store. Of a store in a file it is asked that the time it is to wait for
the lock can be set. -/
def begin? (config : RosterConfig) (durable : Bool) (now : Instant) : Option Session :=
  if durable && !config.canWait then none
  else some { now, options := config.options, durable }

/-- The day that the clock shows. -/
def today (session : Session) : Date :=
  session.now.date

/-- An answer of the scheduler as an answer of the session. -/
def ofRequest {α : Type} (reply : α → Reply) : Except SchedulingError α → Except Refusal Reply
  | .ok value => .ok (reply value)
  | .error (.windowBeyondCalendar ..) => .error .windowBeyondCalendar
  | .error cause => .error (.request cause)

/-- An answer of the store as an answer of the session. -/
def ofStore {α : Type} (reply : α → Reply) : Except StoreError α → Except Refusal Reply
  | .ok value => .ok (reply value)
  | .error cause => .error (.store cause)

/-- Reads a role that an operation of the store was given. -/
def readRole (text : String) : Except Refusal Role :=
  (Role.read text).mapError .role

/-- Reads a slot number that an operation of the store was given. -/
def readSlot (number : Nat) : Except Refusal SlotNumber :=
  match SlotNumber.ofNumber? number with
  | some slot => .ok slot
  | none => .error (.slotNumber number)

/-- Carries out a change of the store whose arguments have been read, or reports that they could not
be read. -/
def change {α β : Type} (session : Session) (argument : Except Refusal α)
    (run : α → Ledger → Except StoreError β × Ledger) (reply : β → Reply) :
    Except Refusal Reply × Session :=
  match argument with
  | .error refusal => (.error refusal, session)
  | .ok argument =>
    let (answer, store) := session.store.write (run argument)
    (ofStore reply answer, { session with store })

/-- Imports a staff file: all of it, or nothing if it is not in order. The answer is the number of
rows. -/
def importStaff (session : Session) (octets : List UInt8) : Except Refusal Reply × Session :=
  match readStaffFile octets with
  | .error cause => (.error (.staffFile cause), session)
  | .ok rows =>
    let (answer, store) := session.store.registerAll rows
    (ofStore (fun () => .number rows.length) answer, { session with store })

/-- The shift file of an employee. -/
def exportShifts (session : Session) (employee : EmployeeId) (range : Option (Date × Date)) :
    Except Refusal Reply :=
  match session.store.listShifts employee range with
  | .error cause => .error (.request cause)
  | .ok shifts =>
    match session.store.ledger.listEmployees with
    | .error cause => .error (.store cause)
    | .ok employees => ofRequest .text (shiftFile shifts employees)

/-- Carries out one operation. -/
def step (session : Session) : Operation → Except Refusal Reply × Session
  | .assign employee date slot =>
    let (answer, store) := session.store.assign session.options session.today employee date slot
    (ofRequest .receipt answer, { session with store })
  | .remove employee date slot =>
    let (answer, store) := session.store.remove employee date slot
    (ofRequest (fun () => .done) answer, { session with store })
  | .list employee range =>
    (ofRequest .assignments (session.store.listShifts employee range), session)
  | .availability start days =>
    (ofRequest .grid (session.store.availability session.options start days), session)
  | .onCall instant buffer =>
    (ofRequest .staff (session.store.onCall instant (buffer * nanosPerMilli)), session)
  | .onCallNow buffer =>
    (ofRequest .staff (session.store.onCall session.now (buffer * nanosPerMilli)), session)
  | .options => (.ok (.options session.options), session)
  | .register name role =>
    session.change (readRole role) (Ledger.registerEmployee name) .registered
  | .find employee =>
    (ofStore .employee (session.store.ledger.findEmployee employee), session)
  | .employees => (ofStore .staff session.store.ledger.listEmployees, session)
  | .slot date number => session.change (readSlot number) (Ledger.getOrCreateSlot date) .slot
  | .isAssigned employee slot =>
    (.ok (.truth (session.store.ledger.isAssigned employee slot)), session)
  | .count slot role =>
    ((readRole role).bind fun role =>
      ofStore .number (session.store.ledger.countByRole slot role), session)
  | .create employee slot role =>
    session.change (readRole role) (Ledger.createAssignment employee slot) .assignmentId
  | .commit employee date number role capacity =>
    session.change (do return (← readRole role, ← readSlot number))
      (fun (role, number) => Ledger.commitAssignment employee date number role capacity) .outcome
  | .storeRemove employee date number =>
    session.change (readSlot number) (Ledger.removeAssignment employee date) fun () => .done
  | .storeList employee range =>
    (ofStore .assignments (session.store.ledger.listAssignments employee range), session)
  | .counts first last =>
    (ofStore .counts (session.store.ledger.aggregateCounts first last), session)
  | .onDuty instant buffer =>
    match session.store.ledger.onDuty instant (buffer * nanosPerMilli) with
    | .ok employees => (.ok (.staff employees), session)
    | .error (.windowBeyondCalendar ..) => (.error .windowBeyondCalendar, session)
    | .error (.storage cause) => (.error (.store cause), session)
  | .importStaff octets => session.importStaff octets
  | .exportShifts employee range => (session.exportShifts employee range, session)
  | .exportAvailability start days =>
    (ofRequest (fun grid => .text (availabilityFile grid))
      (session.store.availability session.options start days), session)
  | .setNow now => (.ok (.today now.date), { session with now })
  | .reopen options =>
    let store := if session.durable then session.store else {}
    (.ok .reopened, { session with store, options })
  | .lock => (.ok .locked, { session with store := { session.store with lock := .heldElsewhere } })
  | .unlock => (.ok .unlocked, { session with store := { session.store with lock := .free } })
  | .overwrite id value =>
    let (answer, ledger) := session.store.ledger.overwrite id value
    (ofStore .rows answer, { session with store := { session.store with ledger } })

/-- Carries out operations one after the other. -/
def run (session : Session) : List Operation → List (Except Refusal Reply) × Session
  | [] => ([], session)
  | operation :: rest =>
    let (answer, session) := session.step operation
    let (answers, session) := session.run rest
    (answer :: answers, session)

end Session

end DutyRoster
