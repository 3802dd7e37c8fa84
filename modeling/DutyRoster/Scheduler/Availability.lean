import DutyRoster.Scheduler.Assign

/-!
# Availability

The grid of a planner: for each day of a range and each slot, how many places each assignable role
has, how many are taken and how many are left.
-/

set_option autoImplicit false

namespace DutyRoster

/-- The places of one role in one slot. -/
structure RoleAvailability where
  role : Role
  capacity : UInt32
  assigned : Nat
  remaining : Nat
deriving DecidableEq

/-- The places of one slot, by role. -/
structure SlotAvailability where
  slot : SlotNumber
  roles : List RoleAvailability
deriving DecidableEq

/-- The places of one day, by slot. -/
structure DayAvailability where
  date : Date
  slots : List SlotAvailability
deriving DecidableEq

/-- The places of a role in a slot of a day when so many people are counted there. -/
def CapacityTable.cell (table : CapacityTable) (counts : SlotCounts) (date : Date)
    (slot : SlotNumber) (role : Role) : RoleAvailability :=
  let assigned := counts.get date slot role
  ⟨role, table.capacity role, assigned, table.remaining role assigned⟩

/-- The places of a day when so many people are counted there. -/
def CapacityTable.dayGrid (table : CapacityTable) (counts : SlotCounts) (date : Date) :
    DayAvailability :=
  ⟨date, SlotNumber.all.map fun slot =>
    ⟨slot, table.assignableRoles.map fun role => table.cell counts date slot role⟩⟩

/-- A grid has at least one day and at most `maxAvailabilityDays`. -/
def checkDayCount (days : Nat) : Except SchedulingError Unit :=
  if 1 ≤ days ∧ days ≤ maxAvailabilityDays then .ok () else .error (.invalidDayCount days)

/-- The last of `days` days from a start. -/
def lastOfRange (start : Date) (days : Nat) : Except SchedulingError Date :=
  match start.addDays? (days - 1 : Nat) with
  | some last => .ok last
  | none => .error (.rangeBeyondCalendar start)

/-- The grid of `days` days from a start given as text. -/
def Store.availability (options : Options) (start : String) (days : Nat) (store : Store) :
    Except SchedulingError (List DayAvailability) := do
  checkDayCount days
  let start ← requestDate start
  let last ← lastOfRange start days
  let counts ← asRefusal (store.ledger.aggregateCounts start last)
  .ok ((start.daysFrom days).map (options.capacity.dayGrid counts))

end DutyRoster
