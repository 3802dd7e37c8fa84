import DutyRoster.Scheduler.Assign

/-!
# Who is on call

The staff of the slot that an instant falls into, unless the slot ends too soon after it.
-/

set_option autoImplicit false

namespace DutyRoster

/-- The causes for which the staff on duty cannot be told. -/
inductive OnDutyError where
  | windowBeyondCalendar (date : Date) (slot : SlotNumber)
  | storage (cause : StoreError)
deriving DecidableEq

/-- The number of nanoseconds of a millisecond. -/
def nanosPerMilli : Int := 1000000

/-- The staff on duty at an instant; nobody if the slot ends less than `buffer` nanoseconds
later. -/
def Ledger.onDuty (ledger : Ledger) (at_ : Instant) (buffer : Int) :
    Except OnDutyError (List Employee) :=
  let (date, slot) := SlotNumber.containing at_
  match slot.window? date with
  | none => .error (.windowBeyondCalendar date slot)
  | some (_, stop) =>
    if Instant.elapsed at_ stop < buffer then .ok []
    else (ledger.slotStaff date slot).mapError .storage

/-- The staff on call at an instant, with a buffer in nanoseconds. A negative buffer counts as
none. -/
def Store.onCall (store : Store) (at_ : Instant) (buffer : Int) :
    Except SchedulingError (List Employee) :=
  (store.ledger.onDuty at_ (max buffer 0)).mapError fun
    | .windowBeyondCalendar date slot => .windowBeyondCalendar date slot
    | .storage cause => .storage cause

end DutyRoster
