import DutyRoster.Calendar.Instant

/-!
# Slots of a day

A day has three slots of eight hours, numbered 1 to 3 and beginning at 06:00, 14:00 and 22:00
universal time; the last one ends on the morning of the next day. `SlotNumber.window?` gives the
start and the end of a slot, and `SlotNumber.containing` finds the slot that an instant falls into,
without going through windows.
-/

set_option autoImplicit false

namespace DutyRoster

/-- A slot of the day. -/
inductive SlotNumber where
  | early
  | late
  | night
deriving DecidableEq, Repr

namespace SlotNumber

/-- The slots of a day in the order of their starts. -/
def all : List SlotNumber := [.early, .late, .night]

/-- The number of a slot, from 1 to 3. -/
def number : SlotNumber → Nat
  | .early => 1
  | .late => 2
  | .night => 3

/-- The slot with the given number. -/
def ofNumber? : Nat → Option SlotNumber
  | 1 => some .early
  | 2 => some .late
  | 3 => some .night
  | _ => none

instance : ToString SlotNumber := ⟨fun slot => toString slot.number⟩

/-- The length of a slot in hours. -/
def hours : Nat := 8

/-- The hour of the day at which a slot begins. -/
def startHour (slot : SlotNumber) : Nat :=
  6 + (slot.number - 1) * hours

/-- The start and the end of a slot of a day. There are none if the end lies after the last day of
the calendar. -/
def window? (slot : SlotNumber) (date : Date) : Option (Instant × Instant) := do
  let start ← Instant.atHour? date slot.startHour
  let stop ← Instant.atHour? date (slot.startHour + hours)
  some (start, stop)

/-- The slot that an instant falls into and the day that this slot belongs to, which is the day
before for the hours until 06:00. The first morning of the calendar has no day before it and counts
as part of its own day's night. -/
def containing (t : Instant) : Date × SlotNumber :=
  if t.hour < 6 then (t.date.previous?.getD t.date, .night)
  else if t.hour < 14 then (t.date, .early)
  else if t.hour < 22 then (t.date, .late)
  else (t.date, .night)

end SlotNumber

/-- The wording of the refusal of a number that no slot has. -/
def unknownSlotMessage (n : Nat) : String :=
  s!"slot number must be 1, 2 or 3 (got {n})"

end DutyRoster
