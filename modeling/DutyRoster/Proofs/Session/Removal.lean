import DutyRoster.Proofs.Scheduler.RequestDate
import DutyRoster.Proofs.Session.Booking
import DutyRoster.Proofs.Session.OnCall

/-!
# Removing takes away what is named

A request to remove names a booking by employee, date and slot, and the store looks for it by the
text of the date: it drops all rows of the employee whose slot has that text and that number. In a
consistent ledger there is at most one such row, so one row is dropped if the employee holds the
slot, and otherwise the request is refused and nothing changes.

What has been listed can be removed as it was listed. The text of a date of a plain year is read
back as the date, whatever day it is and whatever the limits are, since neither the clock nor the
limits are asked. The list loses that shift and keeps its order, because the order of lists tells
the shifts of one employee apart.
-/

set_option autoImplicit false

namespace DutyRoster

section Lists

variable {α : Type} {l : List α}

/-- Dropping what a test finds, if it finds one element only, takes that element out of the list. -/
theorem exists_filter_not_eq {p : α → Bool} {a : α} (nodup : l.Nodup) (mem : a ∈ l)
    (only : ∀ b ∈ l, p b = true ↔ b = a) : ∃ earlier later, l = earlier ++ a :: later ∧
      (l.filter fun b => !p b) = earlier ++ later := by
  obtain ⟨earlier, later, rfl⟩ := List.append_of_mem mem
  refine ⟨earlier, later, rfl, ?_⟩
  have found : p a = true := (only a mem).mpr rfl
  obtain ⟨-, nodup_tail, apart⟩ := List.nodup_append.mp nodup
  have before : ∀ b ∈ earlier, (!p b) = true := by
    intro b hb
    rw [Bool.not_eq_true', ← Bool.not_eq_true, only b (List.mem_append_left _ hb)]
    exact apart b hb a List.mem_cons_self
  have after : ∀ b ∈ later, (!p b) = true := by
    intro b hb
    rw [Bool.not_eq_true', ← Bool.not_eq_true,
      only b (List.mem_append_right _ (List.mem_cons_of_mem _ hb))]
    rintro rfl
    exact (List.nodup_cons.mp nodup_tail).1 hb
  rw [List.filter_append, List.filter_eq_self.mpr before, List.filter_cons_of_neg (by simp [found]),
    List.filter_eq_self.mpr after]

end Lists

namespace Ledger.Consistent

variable {ledger : Ledger} {store : Store} {employee : EmployeeId} {date : Date}
  {number : SlotNumber}

/-- No row of the table of assignments is there twice. -/
theorem nodup_assignments (h : ledger.Consistent) : ledger.assignments.Nodup :=
  h.assignment_ids.nodup.of_map

/-- The rows that a booking names are one row. -/
theorem row_eq_of_isFor (h : ledger.Consistent) {row other : AssignmentRow}
    (mem : row ∈ ledger.assignments) (mem' : other ∈ ledger.assignments)
    (named : ledger.IsFor employee date number row = true)
    (named' : ledger.IsFor employee date number other = true) : other = row := by
  obtain ⟨slot, on_table, eq⟩ := h.assignment_slot row mem
  obtain ⟨slot', on_table', eq'⟩ := h.assignment_slot other mem'
  obtain ⟨shift, -, shows, -⟩ := h.read_booking (mem_bookings.mpr ⟨mem, on_table, eq⟩)
  obtain ⟨shift', -, shows', -⟩ := h.read_booking (mem_bookings.mpr ⟨mem', on_table', eq'⟩)
  obtain ⟨own, day, place⟩ := (h.isFor_iff shows _ _ _).mp named
  obtain ⟨own', day', place'⟩ := (h.isFor_iff shows' _ _ _).mp named'
  have same : shift' = shift :=
    h.shift_eq (h.mem_shifts.mpr ⟨other, mem', shows'⟩) (h.mem_shifts.mpr ⟨row, mem, shows⟩)
      (own'.trans own.symm) (day'.trans day.symm) (place'.trans place.symm)
  refine h.assignment_ids.eq_of_id_eq mem' mem ?_
  rw [← shows'.id, ← shows.id, same]

/-- Removing a booking that is held takes one row out of the table of assignments. -/
theorem exists_withoutBooking (h : ledger.Consistent) (holds : ledger.Holds employee date number) :
    ∃ earlier row later, ledger.assignments = earlier ++ row :: later ∧
      (∀ other ∈ ledger.assignments,
        ledger.IsFor employee date number other = true ↔ other = row) ∧
      ledger.withoutBooking employee date number =
        { ledger with assignments := earlier ++ later } := by
  obtain ⟨shift, held, named⟩ := holds
  obtain ⟨row, mem, shows⟩ := h.mem_shifts.mp held
  have row_named := (h.isFor_iff shows _ _ _).mpr named
  have only : ∀ other ∈ ledger.assignments,
      ledger.IsFor employee date number other = true ↔ other = row := by
    intro other mem'
    refine ⟨h.row_eq_of_isFor mem mem' row_named, ?_⟩
    rintro rfl
    exact row_named
  obtain ⟨earlier, later, split, kept⟩ := exists_filter_not_eq h.nodup_assignments mem only
  refine ⟨earlier, row, later, split, only, ?_⟩
  rw [Ledger.withoutBooking, Ledger.keepAssignments, kept]

/-- The list of an employee from whom a booking is taken loses one shift and keeps its order. -/
theorem listShifts_withoutBooking (h : store.ledger.Consistent) {shift : Assignment}
    (held : shift ∈ store.ledger.shifts) {previous : List Assignment}
    (listed : store.listShifts shift.employee none = .ok previous) :
    ∃ earlier later, previous = earlier ++ shift :: later ∧
      Store.listShifts { store with
        ledger := store.ledger.withoutBooking shift.employee shift.date shift.number }
          shift.employee none = .ok (earlier ++ later) := by
  obtain ⟨-, on_staff, rfl⟩ := h.listShifts_eq_ok_iff.mp listed
  let own (other : Assignment) : Bool :=
    other.employee = shift.employee ∧ (none : Option (Date × Date)).all fun ends =>
      dateTextBetween ends.1 ends.2 other.date.text
  let named (other : Assignment) : Bool :=
    other.employee = shift.employee ∧ other.date = shift.date ∧ other.number = shift.number
  -- no two shifts of the employee stand on a par, so sorting and filtering can be exchanged
  have apart : ∀ a ∈ store.ledger.shifts.filter own, ∀ b ∈ store.ledger.shifts.filter own,
      a.listLe b → b.listLe a → a = b := by
    intro a ha b hb
    simp only [own, List.mem_filter, Option.all_none, and_true, decide_eq_true_eq] at ha hb
    exact h.eq_of_listLe ha.1 hb.1 (ha.2.trans hb.2.symm)
  have nodup : ((store.ledger.shifts.filter own).mergeSort Assignment.listLe).Nodup :=
    (List.mergeSort_perm _ _).nodup_iff.mpr (h.nodup_shifts.of_map.filter own)
  have mem : shift ∈ (store.ledger.shifts.filter own).mergeSort Assignment.listLe := by
    simp [own, held]
  have only : ∀ other ∈ (store.ledger.shifts.filter own).mergeSort Assignment.listLe,
      named other = true ↔ other = shift := by
    intro other listed_other
    rw [List.mem_mergeSort, List.mem_filter] at listed_other
    simp only [named, decide_eq_true_eq]
    constructor
    · exact fun same => h.shift_eq listed_other.1 held same.1 same.2.1 same.2.2
    · rintro rfl
      exact ⟨rfl, rfl, rfl⟩
  obtain ⟨earlier, later, split, kept⟩ := exists_filter_not_eq nodup mem only
  refine ⟨earlier, later, split, ?_⟩
  have consistent : (store.ledger.withoutBooking shift.employee shift.date
      shift.number).Consistent := h.keepAssignments _
  have remaining : (store.ledger.withoutBooking shift.employee shift.date
      shift.number).shifts.filter own =
        (store.ledger.shifts.filter own).filter fun other => !named other := by
    rw [h.shifts_withoutBooking, List.filter_filter, List.filter_filter]
    refine List.filter_congr fun other _ => ?_
    simp [named, Bool.and_comm]
  refine consistent.listShifts_eq_ok_iff.mpr ⟨rfl, on_staff, ?_⟩
  rw [← kept, ← mergeSort_filter Assignment.listLe_trans Assignment.listLe_total apart, ← remaining]

end Ledger.Consistent

namespace Session

/-- One row is taken out of the table of assignments, the only one that an employee has for a slot
of a day; all other rows, the identifiers issued, the clock and the limits stay as they were. -/
def TakesOneRow (before after : Session) (employee : EmployeeId) (date : Date)
    (number : SlotNumber) : Prop :=
  ∃ earlier row later, before.store.ledger.assignments = earlier ++ row :: later ∧
    (∀ other ∈ before.store.ledger.assignments,
      before.store.ledger.IsFor employee date number other = true ↔ other = row) ∧
    after = before.withLedger { before.store.ledger with assignments := earlier ++ later }

/-- In every session that is reached from an empty store without stored values being overwritten,
whatever the clock shows and whatever the limits are, a request to remove that can be read succeeds
exactly if the employee holds the slot, as long as the lock is free. It then takes away the one row
that it names, and otherwise it is refused and changes nothing. Every shift in a list of the
scheduler that is in a plain year can be removed as it is listed: by its employee, the text of its
date and its slot number. The list of the employee then loses this shift and keeps its order. -/
theorem run_remove_takes_one_row {start : Session} {operations : List Operation}
    (empty : start.store.ledger = {})
    (intact : ∀ operation ∈ operations, operation.isIntact = true)
    (free : (start.run operations).2.store.lock = .free) (now : Instant) (options : Options) :
    let session := { (start.run operations).2 with now, options }
    (∀ employee date slot day number, requestDate date = .ok day →
      SlotNumber.ofNumber? slot = some number →
      ((session.step (.remove employee date slot)).1 = .ok .done ↔
        session.store.ledger.Holds employee day number) ∧
      (session.store.ledger.Holds employee day number →
        session.TakesOneRow (session.step (.remove employee date slot)).2 employee day number) ∧
      (¬ session.store.ledger.Holds employee day number →
        session.step (.remove employee date slot) =
          (.error (.request (.noAssignment employee day number)), session))) ∧
    (∀ employee range shifts, session.store.listShifts employee range = .ok shifts →
      ∀ shift ∈ shifts, shift.date.IsPlain → ∃ earlier later after,
        session.store.listShifts employee none = .ok (earlier ++ shift :: later) ∧
        session.step (.remove employee shift.date.text shift.number.number) =
          (.ok .done, after) ∧
        after.store.listShifts employee none = .ok (earlier ++ later)) := by
  intro session
  have consistent : session.store.ledger.Consistent := run_consistent_of_intact empty intact
  have unlocked : session.store.lock = .free := free
  constructor
  · intro employee date slot day number read numbered
    have answered := step_remove_eq unlocked consistent read numbered employee
    by_cases holds : session.store.ledger.Holds employee day number
    · rw [if_pos holds] at answered
      obtain ⟨earlier, row, later, split, only, dropped⟩ := consistent.exists_withoutBooking holds
      rw [answered, dropped]
      exact ⟨iff_of_true rfl holds, fun _ => ⟨earlier, row, later, split, only, rfl⟩,
        fun absent => absurd holds absent⟩
    · rw [if_neg holds] at answered
      rw [answered]
      exact ⟨iff_of_false nofun holds, fun held => absurd held holds, fun _ => rfl⟩
  · intro employee range shifts listed shift mem plain
    obtain ⟨-, on_staff, rfl⟩ := consistent.listShifts_eq_ok_iff.mp listed
    simp only [List.mem_mergeSort, List.mem_filter, decide_eq_true_eq] at mem
    obtain ⟨held, rfl, -⟩ := mem
    have holds : session.store.ledger.Holds shift.employee shift.date shift.number :=
      ⟨shift, held, rfl, rfl, rfl⟩
    have answered := step_remove_eq unlocked consistent (requestDate_text plain)
      (SlotNumber.ofNumber?_number shift.number) shift.employee
    rw [if_pos holds] at answered
    obtain ⟨previous, all⟩ :
        ∃ previous, session.store.listShifts shift.employee none = .ok previous :=
      ⟨_, consistent.listShifts_eq_ok_iff.mpr ⟨rfl, on_staff, rfl⟩⟩
    obtain ⟨earlier, later, rfl, remaining⟩ := consistent.listShifts_withoutBooking held all
    exact ⟨earlier, later, _, all, answered, remaining⟩

/-- Two medics hold the early slot of 1 August 2020, and the first of them the night slot as well. A
month later, with the limits lowered, the first gives the early slot back, as it is listed. -/
theorem run_remove_takes_one_row_of_medics :
    let operations : List Operation := [.register "Ada" "medic", .register "Bea" "medic",
      .assign ⟨1⟩ "2020-08-01" 1, .assign ⟨2⟩ "2020-08-01" 1, .assign ⟨1⟩ "2020-08-01" 3]
    let month_later : Instant :=
      ⟨⟨738031, by decide, by decide⟩, 0, 0, by decide, .inl (by decide)⟩
    let lowered : Options := { maxConsecutiveDays := 1, bookingHorizonMonths := 1 }
    let session : Session :=
      { (sample.run operations).2 with now := month_later, options := lowered }
    let early : Assignment := ⟨⟨1⟩, ⟨1⟩, ⟨1⟩, sampleDay, .early, .medic⟩
    ((∀ operation ∈ operations, operation.isIntact = true) ∧
      (sample.run operations).2.store.lock = .free ∧ sampleDay.IsPlain ∧
      requestDate "2020-08-01" = .ok sampleDay ∧ SlotNumber.ofNumber? 1 = some .early ∧
      ∃ shifts, session.store.listShifts ⟨1⟩ none = .ok shifts ∧ early ∈ shifts) ∧
    session.TakesOneRow (session.step (.remove ⟨1⟩ "2020-08-01" 1)).2 ⟨1⟩ sampleDay .early ∧
    ∃ earlier later after,
      session.store.listShifts ⟨1⟩ none = .ok (earlier ++ early :: later) ∧
      session.step (.remove ⟨1⟩ sampleDay.text 1) = (.ok .done, after) ∧
      after.store.listShifts ⟨1⟩ none = .ok (earlier ++ later) := by
  intro operations month_later lowered session early
  have empty : sample.store.ledger = {} := rfl
  have intact : ∀ operation ∈ operations, operation.isIntact = true := by decide
  have free : (sample.run operations).2.store.lock = .free := by decide +kernel
  have plain : sampleDay.IsPlain := by decide +kernel
  have read : requestDate "2020-08-01" = .ok sampleDay := by decide +kernel
  have consistent : session.store.ledger.Consistent := run_consistent_of_intact empty intact
  have on_staff : ∃ member ∈ session.store.ledger.staff, member.id = ⟨1⟩ := by decide +kernel
  have held : early ∈ session.store.ledger.shifts := by decide +kernel
  obtain ⟨shifts, listed, mem⟩ :
      ∃ shifts, session.store.listShifts ⟨1⟩ none = .ok shifts ∧ early ∈ shifts :=
    ⟨_, consistent.listShifts_eq_ok_iff.mpr ⟨rfl, on_staff, rfl⟩, by simp [held, early]⟩
  have holds : session.store.ledger.Holds ⟨1⟩ sampleDay .early := by decide +kernel
  obtain ⟨named, as_listed⟩ := run_remove_takes_one_row empty intact free month_later lowered
  obtain ⟨-, takes, -⟩ := named ⟨1⟩ "2020-08-01" 1 sampleDay .early read rfl
  exact ⟨⟨intact, free, plain, read, rfl, shifts, listed, mem⟩, takes holds,
    as_listed ⟨1⟩ none shifts listed early mem plain⟩

end Session

end DutyRoster
