import DutyRoster.Roster.SlotNumber
import DutyRoster.Proofs.Calendar.Civil
import Mathlib.Logic.ExistsUnique
import Mathlib.Tactic.SplitIfs

/-!
# The windows of slots tile the time line

The slot that an instant falls into is found by the hour alone, without a window being computed. It
is the one whose window the instant lies in (`SlotNumber.containing_eq_iff`), on the previous day
for the hours of a night that belong to the morning. Two places at the ends of the calendar are left
out: the first morning, which no window covers, and the last evening, whose window cannot be
computed. Every other instant lies in one window, and where a window ends, the next slot starts
(`SlotNumber.windows_tile_timeline`).

Instants are compared part by part, and a leap second is a long second. Both are settled by
comparing the numbers of the days, the seconds and the nanoseconds, since windows start and end at
full hours (`SlotNumber.window?_eq_some_iff`).
-/

set_option autoImplicit false

namespace DutyRoster

/-- The instant at the start of a second of a day. -/
def Instant.IsAtSecond (t : Instant) (day : Int) (second : Nat) : Prop :=
  t.date.number = day ∧ t.second = second ∧ t.nano = 0

/-- An instant belongs to the first morning of the calendar, before the first slot starts. -/
def Instant.IsFirstMorning (t : Instant) : Prop :=
  t.date = Date.first ∧ t.hour < 6

instance (t : Instant) : Decidable t.IsFirstMorning :=
  inferInstanceAs (Decidable (_ ∧ _))

/-- An instant belongs to the last evening of the calendar, whose night has no end. -/
def Instant.IsLastEvening (t : Instant) : Prop :=
  t.date = Date.last ∧ 22 ≤ t.hour

instance (t : Instant) : Decidable t.IsLastEvening :=
  inferInstanceAs (Decidable (_ ∧ _))

namespace SlotNumber

/-- The number of days between the day of a slot and the day on which it ends. -/
def nightShift : SlotNumber → Nat
  | .night => 1
  | _ => 0

/-- The second of the day at which a slot ends. -/
def stopSecond : SlotNumber → Nat
  | .early => 50400
  | .late => 79200
  | .night => 21600

/-- A second of the day belongs to a slot; the night has seconds at both ends of the day. -/
def HasSecond (slot : SlotNumber) (second : Nat) : Prop :=
  match slot with
  | .early => 21600 ≤ second ∧ second < 50400
  | .late => 50400 ≤ second ∧ second < 79200
  | .night => second < 21600 ∨ 79200 ≤ second

variable {slot : SlotNumber} {date : Date} {t start stop : Instant}

/-- So many hours after the start of a day are some days later, at the start of a second. -/
theorem atHour?_eq_some_iff {hours : Nat} : Instant.atHour? date hours = some t ↔
    t.IsAtSecond (date.number + (hours / 24 : Nat)) (hours % 24 * 3600) := by
  unfold Instant.atHour? Instant.IsAtSecond
  rw [Option.map_eq_some_iff]
  constructor
  · rintro ⟨day, step, rfl⟩
    exact ⟨Date.addDays?_eq_some_iff.mp step, rfl, rfl⟩
  · rintro ⟨number, second, nano⟩
    refine ⟨t.date, Date.addDays?_eq_some_iff.mpr number, ?_⟩
    cases t
    simp only at second nano
    simp only [second, nano]

/-- The window of a slot starts on its day and ends eight hours later. -/
theorem window?_eq_some_iff : slot.window? date = some (start, stop) ↔
    start.IsAtSecond date.number (slot.startHour * 3600) ∧
      stop.IsAtSecond (date.number + slot.nightShift) slot.stopSecond := by
  have both : slot.window? date = some (start, stop) ↔
      Instant.atHour? date slot.startHour = some start ∧
        Instant.atHour? date (slot.startHour + hours) = some stop := by
    simp only [window?, bind, Option.bind_eq_some_iff, Option.some.injEq, Prod.mk.injEq]
    constructor
    · rintro ⟨_, at_start, _, at_stop, rfl, rfl⟩
      exact ⟨at_start, at_stop⟩
    · rintro ⟨at_start, at_stop⟩
      exact ⟨start, at_start, stop, at_stop, rfl, rfl⟩
  rw [both, atHour?_eq_some_iff, atHour?_eq_some_iff]
  cases slot <;> simp [startHour, number, hours, nightShift, stopSecond]

/-- A slot has a window if the day that it ends on is in the calendar. -/
theorem exists_window (ends_within : date.number + slot.nightShift ≤ lastDayNumber) :
    ∃ start stop, slot.window? date = some (start, stop) := by
  have first_le := date.first_le
  let final : Date := ⟨date.number + slot.nightShift, by omega, ends_within⟩
  refine ⟨⟨date, slot.startHour * 3600, 0, ?_, .inl (by decide)⟩,
    ⟨final, slot.stopSecond, 0, ?_, .inl (by decide)⟩,
    window?_eq_some_iff.mpr ⟨⟨rfl, rfl, rfl⟩, rfl, rfl, rfl⟩⟩ <;> cases slot <;> decide

/-- Against the start of a second, the nanoseconds of an instant do not matter. -/
theorem lt_iff_of_isAtSecond {day : Int} {second : Nat} (h : start.IsAtSecond day second) :
    t < start ↔ t.date.number < day ∨ t.date.number = day ∧ t.second < second := by
  obtain ⟨rfl, rfl, nano⟩ := h
  have same : t.date = start.date ↔ t.date.number = start.date.number :=
    ⟨fun eq => by rw [eq], Date.ext⟩
  change Instant.Before t start ↔ _
  simp only [Instant.Before, Date.lt_iff, same, nano, Nat.not_lt_zero, and_false, or_false]

/-- The day and the slot that an instant falls into, in numbers. Only the first morning has no day
before it. -/
theorem containing_eq_iff_number (covered : ¬ t.IsFirstMorning) : containing t = (date, slot) ↔
    date.number = t.date.number - (if t.second < 21600 then 1 else 0 : Int) ∧
      slot.HasSecond t.second := by
  have number_eq (day : Date) : day = date ↔ date.number = day.number :=
    ⟨fun eq => by rw [eq], fun eq => Date.ext eq.symm⟩
  have morning : t.hour < 6 ↔ t.second < 21600 := by
    unfold Instant.hour
    omega
  have noon : t.hour < 14 ↔ t.second < 50400 := by
    unfold Instant.hour
    omega
  have evening : t.hour < 22 ↔ t.second < 79200 := by
    unfold Instant.hour
    omega
  unfold containing
  simp only [morning, noon, evening]
  by_cases early : t.second < 21600
  · simp only [early, if_true, Prod.mk.injEq]
    cases step : t.date.previous? with
    | none =>
      -- a day with none before it is the first of the calendar
      have outside := Date.addDays?_eq_none_iff.mp step
      have first_le := t.date.first_le
      have le_last := t.date.le_last
      have first : t.date = Date.first := Date.ext (show t.date.number = firstDayNumber by omega)
      exact absurd ⟨first, morning.mpr early⟩ covered
    | some day =>
      have number := Date.addDays?_eq_some_iff.mp step
      rw [Option.getD_some, number_eq, number, Int.sub_eq_add_neg]
      cases slot <;> simp [HasSecond] <;> omega
  · simp only [early, if_false, Int.sub_zero, ← number_eq]
    by_cases before_noon : t.second < 50400
    · cases slot <;> simp [HasSecond, before_noon] <;> omega
    · by_cases before_evening : t.second < 79200 <;>
        cases slot <;> simp [HasSecond, before_noon, before_evening] <;> omega

/-- An instant falls into a slot exactly if it lies in the window of the slot, at its start or later
and before its end. -/
theorem containing_eq_iff (window : slot.window? date = some (start, stop))
    (covered : ¬ t.IsFirstMorning) : containing t = (date, slot) ↔ start ≤ t ∧ t < stop := by
  obtain ⟨at_start, at_stop⟩ := window?_eq_some_iff.mp window
  have second_lt := t.second_lt
  have from_start : start ≤ t ↔ ¬ t < start := Iff.rfl
  rw [containing_eq_iff_number covered, from_start, lt_iff_of_isAtSecond at_start,
    lt_iff_of_isAtSecond at_stop]
  cases slot <;> simp only [startHour, number, hours, nightShift, stopSecond, HasSecond] <;> omega

/-- The slot that an instant falls into has a window, unless it is the last night of the
calendar. -/
theorem exists_window_containing (covered : ¬ t.IsFirstMorning) (ends : ¬ t.IsLastEvening)
    (contains : containing t = (date, slot)) :
    ∃ start stop, slot.window? date = some (start, stop) := by
  obtain ⟨day, second⟩ := (containing_eq_iff_number covered).mp contains
  have ends_within : date.number + slot.nightShift ≤ lastDayNumber := by
    have le_last := t.date.le_last
    by_contra beyond
    have last : t.date = Date.last := by
      apply Date.ext
      change t.date.number = lastDayNumber
      cases slot <;> simp only [nightShift] at beyond <;> omega
    have evening : 22 ≤ t.hour := by
      unfold Instant.hour
      cases slot <;> simp only [nightShift, HasSecond] at beyond second <;> omega
    exact ends ⟨last, evening⟩
  exact exists_window ends_within

/-- Some time is left of a window at every instant that lies before its end, also in a leap
second. -/
theorem elapsed_nonneg (window : slot.window? date = some (start, stop)) (before : t < stop) :
    0 ≤ Instant.elapsed t stop := by
  obtain ⟨-, at_stop⟩ := window?_eq_some_iff.mp window
  rw [lt_iff_of_isAtSecond at_stop] at before
  obtain ⟨day, second, nano⟩ := at_stop
  have second_lt := t.second_lt
  have nano_lt := t.nano_lt
  have late : 21600 ≤ stop.second := by
    rw [second]
    cases slot <;> decide
  simp only [Instant.elapsed, nanosPerSecond] at nano_lt ⊢
  split_ifs <;> omega

/-- An instant lies in the window of a slot of a day, its start included and its end left out. -/
def InWindow (slot : SlotNumber) (date : Date) (t : Instant) : Prop :=
  ∃ start stop, slot.window? date = some (start, stop) ∧ start ≤ t ∧ t < stop

/-- The slot that comes after a slot of a day, on the same day or the next. -/
def following? (slot : SlotNumber) (date : Date) : Option (Date × SlotNumber) :=
  match slot with
  | .early => some (date, .late)
  | .late => some (date, .night)
  | .night => date.next?.map fun day => (day, .early)

/-- No window reaches back to the first morning, because it would start on the day before. -/
theorem not_isFirstMorning_of_inWindow (inside : slot.InWindow date t) : ¬ t.IsFirstMorning := by
  rintro ⟨first, morning⟩
  obtain ⟨start, stop, window, started, -⟩ := inside
  obtain ⟨at_start, -⟩ := window?_eq_some_iff.mp window
  apply started
  rw [lt_iff_of_isAtSecond at_start, first]
  have first_le : Date.first.number ≤ date.number := date.first_le
  have early : t.second < 21600 := by
    unfold Instant.hour at morning
    omega
  have late : 21600 ≤ slot.startHour * 3600 := by cases slot <;> decide
  omega

/-- No window reaches into the last evening, because it would end on the day after. -/
theorem not_isLastEvening_of_inWindow (inside : slot.InWindow date t) : ¬ t.IsLastEvening := by
  rintro ⟨last, evening⟩
  obtain ⟨start, stop, window, -, before⟩ := inside
  obtain ⟨-, at_stop⟩ := window?_eq_some_iff.mp window
  rw [lt_iff_of_isAtSecond at_stop, last] at before
  have le_last : stop.date.number ≤ Date.last.number := stop.date.le_last
  have late : 79200 ≤ t.second := by
    unfold Instant.hour at evening
    omega
  have stop_le : slot.stopSecond ≤ 79200 := by cases slot <;> decide
  rw [at_stop.1] at le_last
  omega

/-- An instant lies in the window of the slot that it falls into, and in no other. -/
theorem inWindow_iff : slot.InWindow date t ↔
    containing t = (date, slot) ∧ ¬ t.IsFirstMorning ∧ ¬ t.IsLastEvening := by
  constructor
  · intro inside
    have covered := not_isFirstMorning_of_inWindow inside
    refine ⟨?_, covered, not_isLastEvening_of_inWindow inside⟩
    obtain ⟨start, stop, window, within⟩ := inside
    exact (containing_eq_iff window covered).mpr within
  · rintro ⟨contains, covered, ends⟩
    obtain ⟨start, stop, window⟩ := exists_window_containing covered ends contains
    exact ⟨start, stop, window, (containing_eq_iff window covered).mp contains⟩

/-- An instant at the start of a second is determined by its day and its second. -/
theorem eq_of_isAtSecond {day : Int} {second : Nat} (h : start.IsAtSecond day second)
    (k : stop.IsAtSecond day second) : start = stop := by
  obtain ⟨start_day, start_second, start_nano⟩ := h
  obtain ⟨stop_day, stop_second, stop_nano⟩ := k
  have date := Date.ext (start_day.trans stop_day.symm)
  cases start
  cases stop
  simp_all

/-- A window ends where the next slot starts. There is a next slot, because the end of a window
lies in the calendar. -/
theorem exists_following (window : slot.window? date = some (start, stop)) :
    ∃ day next, slot.following? date = some (day, next) ∧
      Instant.atHour? day next.startHour = some stop := by
  obtain ⟨-, at_stop⟩ := window?_eq_some_iff.mp window
  cases slot with
  | early => exact ⟨date, .late, rfl, atHour?_eq_some_iff.mpr at_stop⟩
  | late => exact ⟨date, .night, rfl, atHour?_eq_some_iff.mpr at_stop⟩
  | night =>
    have next : date.next? = some stop.date := Date.addDays?_eq_some_iff.mpr at_stop.1
    refine ⟨stop.date, .early, by rw [following?, next]; rfl, atHour?_eq_some_iff.mpr ?_⟩
    exact ⟨(Int.add_zero _).symm, at_stop.2⟩

/-- The windows of the slots tile the time line. Outside the first morning, an instant falls into
the slot of a window exactly if it lies in the window. Every instant but those of the first morning
and the last evening of the calendar, which no window reaches, lies in exactly one window; no two
windows share an instant; and where a window ends, the next slot starts, of the same day or the
next. -/
theorem windows_tile_timeline :
    (∀ (t : Instant) (date : Date) (slot : SlotNumber) (start stop : Instant),
      ¬ t.IsFirstMorning → slot.window? date = some (start, stop) →
        (containing t = (date, slot) ↔ start ≤ t ∧ t < stop)) ∧
    (∀ t : Instant, (¬ t.IsFirstMorning ∧ ¬ t.IsLastEvening) ↔
      ∃! place : Date × SlotNumber, place.2.InWindow place.1 t) ∧
    (∀ (t : Instant) (date date' : Date) (slot slot' : SlotNumber), slot.InWindow date t →
      slot'.InWindow date' t → date = date' ∧ slot = slot') ∧
    (∀ (date : Date) (slot : SlotNumber) (start stop : Instant),
      slot.window? date = some (start, stop) →
        start < stop ∧ ∃ day next, slot.following? date = some (day, next) ∧
          Instant.atHour? day next.startHour = some stop ∧
          ∀ start' stop', next.window? day = some (start', stop') → start' = stop) := by
  refine ⟨fun t date slot start stop covered window => containing_eq_iff window covered, ?_, ?_, ?_⟩
  · intro t
    constructor
    · rintro ⟨covered, ends⟩
      refine ⟨containing t, inWindow_iff.mpr ⟨rfl, covered, ends⟩, ?_⟩
      rintro ⟨date, slot⟩ inside
      exact (inWindow_iff.mp inside).1.symm
    · rintro ⟨place, inside, -⟩
      exact (inWindow_iff.mp inside).2
  · intro t date date' slot slot' inside inside'
    have same := (inWindow_iff.mp inside).1.symm.trans (inWindow_iff.mp inside').1
    exact Prod.mk.inj same
  · intro date slot start stop window
    obtain ⟨at_start, at_stop⟩ := window?_eq_some_iff.mp window
    obtain ⟨day, next, follows, begins⟩ := exists_following window
    refine ⟨?_, day, next, follows, begins, ?_⟩
    · rw [lt_iff_of_isAtSecond at_stop, at_start.1, at_start.2.1]
      cases slot <;> simp only [startHour, number, hours, nightShift, stopSecond] <;> omega
    · intro start' stop' window'
      have at_begin := atHour?_eq_some_iff.mp begins
      obtain ⟨at_start', -⟩ := window?_eq_some_iff.mp window'
      apply eq_of_isAtSecond at_start'
      cases next <;> simpa [startHour, number, hours] using at_begin

/-- The leap second before six o'clock in the morning still belongs to the night of the day before,
whose window ends when the next day's first slot starts. -/
theorem windows_tile_timeline_at_leap_second :
    let day : Date := ⟨738003, by decide, by decide⟩
    let before : Date := ⟨738002, by decide, by decide⟩
    let t : Instant := ⟨day, 21599, 1500000000, by decide, .inr (by decide)⟩
    let start : Instant := ⟨before, 79200, 0, by decide, .inl (by decide)⟩
    let stop : Instant := ⟨day, 21600, 0, by decide, .inl (by decide)⟩
    let noon : Instant := ⟨day, 50400, 0, by decide, .inl (by decide)⟩
    ¬ t.IsFirstMorning ∧ ¬ t.IsLastEvening ∧ night.window? before = some (start, stop) ∧
      containing t = (before, .night) ∧ night.InWindow before t ∧
      (∃! place : Date × SlotNumber, place.2.InWindow place.1 t) ∧
      (∀ date slot, InWindow slot date t → before = date ∧ night = slot) ∧
      start < stop ∧ Instant.atHour? day early.startHour = some stop ∧
      early.window? day = some (stop, noon) := by
  intro day before t start stop noon
  obtain ⟨falls, covers, apart, meets⟩ := windows_tile_timeline
  have covered : ¬ t.IsFirstMorning := by decide +kernel
  have ends : ¬ t.IsLastEvening := by decide +kernel
  have window : night.window? before = some (start, stop) := by decide +kernel
  have within : start ≤ t ∧ t < stop := by decide
  have inside : night.InWindow before t := ⟨start, stop, window, within⟩
  obtain ⟨started, next_day, next, follows, begins, -⟩ := meets before .night start stop window
  have next_eq : following? .night before = some (day, .early) := by decide +kernel
  rw [next_eq, Option.some.injEq, Prod.mk.injEq] at follows
  obtain ⟨rfl, rfl⟩ := follows
  refine ⟨covered, ends, window, (falls t before .night start stop covered window).mpr within,
    inside, (covers t).mp ⟨covered, ends⟩, ?_, started, begins, by decide +kernel⟩
  intro date slot inside'
  exact apart t before date .night slot inside inside'

end SlotNumber

end DutyRoster
