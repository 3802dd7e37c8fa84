import DutyRoster.Calendar.Date

/-!
# Instants

An instant is a point of universal time: a date, a second of that day and the nanoseconds since that
second began. A leap second is counted as part of the second before it, which then lasts two billion
nanoseconds; it can only follow the last second of a minute.
-/

set_option autoImplicit false

namespace DutyRoster

/-- The number of nanoseconds of an ordinary second. -/
def nanosPerSecond : Nat := 1000000000

/-- A point of universal time. -/
structure Instant where
  date : Date
  second : Nat
  nano : Nat
  second_lt : second < 86400
  nano_lt : nano < nanosPerSecond ∨ (second % 60 = 59 ∧ nano < 2 * nanosPerSecond)
deriving DecidableEq

namespace Instant

/-- An instant comes before another if its date does, or within a date its second, or within a
second its nanoseconds. -/
def Before (a b : Instant) : Prop :=
  a.date < b.date ∨ a.date = b.date ∧
    (a.second < b.second ∨ a.second = b.second ∧ a.nano < b.nano)

instance : LT Instant := ⟨Before⟩

instance : LE Instant := ⟨fun a b => ¬ b < a⟩

instance (a b : Instant) : Decidable (a < b) :=
  inferInstanceAs (Decidable (a.date < b.date ∨ a.date = b.date ∧
    (a.second < b.second ∨ a.second = b.second ∧ a.nano < b.nano)))

instance (a b : Instant) : Decidable (a ≤ b) := inferInstanceAs (Decidable (¬ b < a))

/-- The hour of the day, from 0 to 23. -/
def hour (t : Instant) : Nat :=
  t.second / 3600

/-- The instant `hours` hours after the start of a day, which may lie in a later day. -/
def atHour? (date : Date) (hours : Nat) : Option Instant :=
  (date.addDays? (hours / 24 : Nat)).map fun d =>
    ⟨d, hours % 24 * 3600, 0, by omega, .inl (by decide)⟩

/-- The instant with the given time of day, second 60 being the leap second after second 59. -/
def ofClock? (date : Date) (hour minute second nano : Nat) : Option Instant :=
  if h : hour < 24 ∧ minute < 60 ∧ second ≤ 60 ∧ nano < nanosPerSecond then
    if hs : second = 60 then
      some ⟨date, hour * 3600 + minute * 60 + 59, nanosPerSecond + nano, by omega,
        .inr ⟨by omega, by omega⟩⟩
    else some ⟨date, hour * 3600 + minute * 60 + second, nano, by omega, .inl h.2.2.2⟩
  else none

/-- The number of the day from whose start clocks count seconds: 1 January 1970. -/
def epochDayNumber : Int :=
  CivilDay.number ⟨1970, 1, 1⟩

/-- The instant that a clock shows which counts nanoseconds since the epoch and no leap seconds. -/
def ofClockCount? (nanoseconds : Int) : Option Instant :=
  let seconds := nanoseconds / nanosPerSecond
  (Date.ofNumber? (epochDayNumber + seconds / 86400)).map fun d =>
    ⟨d, (seconds % 86400).toNat, (nanoseconds % nanosPerSecond).toNat, by omega,
      .inl (by simp only [nanosPerSecond]; omega)⟩

/-- The same point of time shown by a clock that is `minutes` minutes ahead, a leap second staying
at the end of its minute. -/
def addMinutes? (t : Instant) (minutes : Int) : Option Instant :=
  let total := (t.second : Int) + 60 * minutes
  (t.date.addDays? (total / 86400)).map fun d =>
    ⟨d, (total % 86400).toNat, t.nano, by omega, by
      have := t.nano_lt
      omega⟩

/-- The number of nanoseconds from `earlier` to `later`. A leap second that lies between them is
counted: after the second of `earlier` if that is the one lasting longer and the time of day of
`later` is greater, and likewise the other way round. -/
def elapsed (earlier later : Instant) : Int :=
  let days := later.date.number - earlier.date.number
  let leap : Int :=
    if earlier.second < later.second ∧ nanosPerSecond ≤ earlier.nano then 1
    else if later.second < earlier.second ∧ nanosPerSecond ≤ later.nano then -1
    else 0
  (days * 86400 + later.second - earlier.second + leap) * nanosPerSecond + later.nano - earlier.nano

end Instant

end DutyRoster
