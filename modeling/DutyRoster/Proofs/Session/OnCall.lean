import DutyRoster.Proofs.Roster.Windows
import DutyRoster.Proofs.Session.Directory
import DutyRoster.Proofs.Store.Staffing

/-!
# Who is on call, and the lists of shifts

The scheduler tells who is on call in one way and who holds which shifts in another. The first finds
the slot of an instant by the hour and joins three tables; the second lists rows, from whose dates
windows are computed. They agree (`Session.run_onCall_agrees_with_lists`): somebody is on call
exactly if one of the shifts in the own list has a window that covers the instant and lasts long
enough.

The store answers from the staff of the slot that the instant falls into, and the windows tile the
time line, so a shift covers the instant exactly if it is for that slot
(`Assignment.lasts_iff_containing`). What is left is that the two answers speak of the same staff
and the same shifts.
-/

set_option autoImplicit false

namespace DutyRoster

namespace Assignment

/-- The window of a shift covers an instant, the start included and the end left out. -/
def Covers (shift : Assignment) (t : Instant) : Prop :=
  ∃ start stop, shift.number.window? shift.date = some (start, stop) ∧ start ≤ t ∧ t < stop

/-- The window of a shift covers an instant and goes on for a margin in nanoseconds after it. -/
def Lasts (shift : Assignment) (t : Instant) (margin : Int) : Prop :=
  ∃ start stop, shift.number.window? shift.date = some (start, stop) ∧ start ≤ t ∧ t < stop ∧
    margin ≤ Instant.elapsed t stop

variable {shift : Assignment} {t start stop : Instant} {date : Date} {slot : SlotNumber}
  {margin : Int}

/-- Without a margin, a shift lasts as long as its window. -/
theorem lasts_zero_iff : shift.Lasts t 0 ↔ shift.Covers t := by
  constructor
  · rintro ⟨start, stop, window, started, before, -⟩
    exact ⟨start, stop, window, started, before⟩
  · rintro ⟨start, stop, window, started, before⟩
    exact ⟨start, stop, window, started, before, SlotNumber.elapsed_nonneg window before⟩

/-- A shift covers an instant exactly if it is for the slot that the instant falls into; it goes on
for as long as that slot. -/
theorem lasts_iff_containing (covered : ¬ t.IsFirstMorning)
    (contains : SlotNumber.containing t = (date, slot))
    (window : slot.window? date = some (start, stop)) : shift.Lasts t margin ↔
      (shift.date = date ∧ shift.number = slot) ∧ margin ≤ Instant.elapsed t stop := by
  constructor
  · rintro ⟨start', stop', own, started, before, long⟩
    have own_slot := (SlotNumber.containing_eq_iff own covered).mpr ⟨started, before⟩
    rw [contains, Prod.mk.injEq] at own_slot
    obtain ⟨rfl, rfl⟩ := own_slot
    rw [window, Option.some.injEq, Prod.mk.injEq] at own
    obtain ⟨rfl, rfl⟩ := own
    exact ⟨⟨rfl, rfl⟩, long⟩
  · rintro ⟨⟨rfl, rfl⟩, long⟩
    obtain ⟨started, before⟩ := (SlotNumber.containing_eq_iff window covered).mp contains
    exact ⟨start, stop, window, started, before, long⟩

end Assignment

namespace Ledger.Consistent

variable {store : Store}

/-- Those on call are the staff with a shift that lasts, in the order of registration. -/
theorem onCall_eq (h : store.ledger.Consistent) {at_ : Instant} (covered : ¬ at_.IsFirstMorning)
    (ends : ¬ at_.IsLastEvening) (buffer : Int) : ∃ list, store.onCall at_ buffer = .ok list ∧
      list.Sublist store.ledger.staff ∧
      ∀ member, member ∈ list ↔ member ∈ store.ledger.staff ∧
        ∃ shift ∈ store.ledger.shifts, shift.employee = member.id ∧
          shift.Lasts at_ (max buffer 0) := by
  obtain ⟨⟨date, slot⟩, contains⟩ : ∃ place, SlotNumber.containing at_ = place := ⟨_, rfl⟩
  obtain ⟨start, stop, window⟩ := SlotNumber.exists_window_containing covered ends contains
  have lasts (shift : Assignment) : shift.Lasts at_ (max buffer 0) ↔
      (shift.date = date ∧ shift.number = slot) ∧ max buffer 0 ≤ Instant.elapsed at_ stop :=
    Assignment.lasts_iff_containing covered contains window
  simp only [Store.onCall, Ledger.onDuty, contains, window]
  by_cases short : Instant.elapsed at_ stop < max buffer 0
  · rw [if_pos short]
    refine ⟨[], rfl, List.nil_sublist _, ?_⟩
    intro member
    constructor
    · exact fun mem => nomatch mem
    · rintro ⟨-, shift, -, -, long⟩
      exact absurd ((lasts shift).mp long).2 (Int.not_le.mpr short)
  · have long := Int.not_lt.mp short
    rw [if_neg short, h.slotStaff_eq]
    refine ⟨_, rfl, List.filter_sublist, ?_⟩
    intro member
    rw [List.mem_filter, decide_eq_true_eq]
    simp only [Ledger.Holds, lasts, long, and_true]

/-- The scheduler lists the shifts of members of staff, those in the range by the texts of their
dates, in the order of lists. -/
theorem listShifts_eq_ok_iff (h : store.ledger.Consistent) {employee : EmployeeId}
    {range : Option (Date × Date)} {shifts : List Assignment} :
    store.listShifts employee range = .ok shifts ↔ Store.checkRange range = .ok () ∧
      (∃ member ∈ store.ledger.staff, member.id = employee) ∧
      shifts = (store.ledger.shifts.filter fun shift => shift.employee = employee ∧
        range.all fun ends => dateTextBetween ends.1 ends.2 shift.date.text).mergeSort
          Assignment.listLe := by
  simp only [Store.listShifts, h.requestEmployee_eq]
  cases Store.checkRange range with
  | error cause => simp [bind, Except.bind]
  | ok checked =>
    cases found : store.ledger.staff.find? fun member => member.id = employee with
    | none =>
      have absent := List.find?_eq_none.mp found
      simp only [decide_eq_true_eq] at absent
      simp only [bind, Except.bind, reduceCtorEq, false_iff]
      rintro ⟨-, ⟨member, on_staff, own⟩, -⟩
      exact absent member on_staff own
    | some member =>
      have own := List.find?_some found
      rw [decide_eq_true_eq] at own
      subst own
      have on_staff := List.mem_of_find?_eq_some found
      simp only [bind, Except.bind, Store.asRefusal, h.listAssignments_eq, Except.mapError,
        Except.ok.injEq, true_and]
      exact ⟨fun eq => ⟨⟨member, on_staff, rfl⟩, eq.symm⟩, fun eq => eq.2.symm⟩

/-- The scheduler lists the shifts of a member of staff, all of them and no others. -/
theorem listShifts_eq (h : store.ledger.Consistent) {member : Employee}
    (mem : member ∈ store.ledger.staff) : ∃ shifts, store.listShifts member.id none = .ok shifts ∧
      ∀ shift, shift ∈ shifts ↔ shift ∈ store.ledger.shifts ∧ shift.employee = member.id :=
  ⟨_, h.listShifts_eq_ok_iff.mpr ⟨rfl, ⟨member, mem, rfl⟩, rfl⟩, by simp [List.mem_mergeSort]⟩

/-- Only members of staff have a list of shifts. -/
theorem of_listShifts (h : store.ledger.Consistent) {employee : EmployeeId}
    {shifts : List Assignment} (eq : store.listShifts employee none = .ok shifts) :
    ∃ member ∈ store.ledger.staff, member.id = employee ∧
      ∀ shift, shift ∈ shifts ↔ shift ∈ store.ledger.shifts ∧ shift.employee = employee := by
  obtain ⟨-, ⟨member, on_staff, own⟩, rfl⟩ := h.listShifts_eq_ok_iff.mp eq
  exact ⟨member, on_staff, own, by simp [List.mem_mergeSort]⟩

end Ledger.Consistent

namespace Session

variable {start : Session} {operations : List Operation} {at_ : Instant}

/-- In every session that is reached from an empty store with bookings made through the scheduler
only, it can be told who is on call, at every instant but those of the first morning and the last
evening of the calendar. They come in the order of their identifiers, each of them once and as
registered, and somebody is on call exactly if one of the shifts in the own list lasts; the roles of
such shifts are that of the member of staff. Without a buffer, it is enough that the window of a
shift covers the instant. -/
theorem run_onCall_agrees_with_lists (empty : start.store.ledger = {})
    (vetted : ∀ operation ∈ operations, operation.isVetted = true)
    (covered : ¬ at_.IsFirstMorning) (ends : ¬ at_.IsLastEvening) (buffer : Int) :
    let store := (start.run operations).2.store
    ∃ list, store.onCall at_ buffer = .ok list ∧
      list.Pairwise (fun a b => a.id.number < b.id.number) ∧
      (∀ member ∈ list, member ∈ membersOf (start.roll [] operations)) ∧
      (∀ employee, (∃ member ∈ list, member.id = employee) ↔
        ∃ shifts, store.listShifts employee none = .ok shifts ∧
          ∃ shift ∈ shifts, shift.Lasts at_ (max buffer 0)) ∧
      (∀ member ∈ list, ∀ shifts, store.listShifts member.id none = .ok shifts →
        ∀ shift ∈ shifts, shift.role = member.role) ∧
      (buffer ≤ 0 → ∀ employee, (∃ member ∈ list, member.id = employee) ↔
        ∃ shifts, store.listShifts employee none = .ok shifts ∧
          ∃ shift ∈ shifts, shift.Covers at_) := by
  intro store
  have intact : ∀ operation ∈ operations, operation.isIntact = true := fun operation mem =>
    Operation.isIntact_of_isChecked (Operation.isChecked_of_isVetted (vetted operation mem))
  have consistent : store.ledger.Consistent := run_consistent_of_intact empty intact
  have enrolled : store.ledger.Enrolled (start.roll [] operations) :=
    run_enrolled (by rw [empty]; exact ⟨rfl, rfl⟩) intact
  have roles : store.ledger.RolesMatch := run_rolesMatch empty vetted
  obtain ⟨list, answer, sublist, on_call⟩ := consistent.onCall_eq covered ends buffer
  have agree (employee : EmployeeId) : (∃ member ∈ list, member.id = employee) ↔
      ∃ shifts, store.listShifts employee none = .ok shifts ∧
        ∃ shift ∈ shifts, shift.Lasts at_ (max buffer 0) := by
    constructor
    · rintro ⟨member, mem, rfl⟩
      obtain ⟨on_staff, shift, held, own, lasts⟩ := (on_call member).mp mem
      obtain ⟨shifts, listed, all⟩ := consistent.listShifts_eq on_staff
      exact ⟨shifts, listed, shift, (all shift).mpr ⟨held, own⟩, lasts⟩
    · rintro ⟨shifts, listed, shift, mem, lasts⟩
      obtain ⟨member, on_staff, rfl, all⟩ := consistent.of_listShifts listed
      obtain ⟨held, own⟩ := (all shift).mp mem
      exact ⟨member, (on_call member).mpr ⟨on_staff, shift, held, own, lasts⟩, rfl⟩
  refine ⟨list, answer, consistent.ascending_staff.sublist sublist, ?_, agree, ?_, ?_⟩
  · intro member mem
    rw [← enrolled.staff]
    exact sublist.subset mem
  · intro member mem shifts listed shift listed_shift
    obtain ⟨-, -, -, all⟩ := consistent.of_listShifts listed
    obtain ⟨held, own⟩ := (all shift).mp listed_shift
    obtain ⟨holder, holder_on_staff, same_id, same_role⟩ := roles shift held
    -- identifiers tell members of staff apart, so the holder is the member
    have found := consistent.find?_staff holder_on_staff
    rw [same_id, own, consistent.find?_staff (sublist.subset mem), Option.some.injEq] at found
    rw [found, same_role]
  · intro none employee
    rw [agree, Int.max_eq_right none]
    simp only [Assignment.lasts_zero_iff]

/-- During the early slot of 1 August 2020, the medic who holds it is on call, also with a buffer of
an hour. -/
theorem run_onCall_agrees_with_lists_of_medic :
    let operations : List Operation := [.register "Ada" "medic", .assign ⟨1⟩ "2020-08-01" 1]
    let store := (sample.run operations).2.store
    let at_ : Instant := ⟨sampleDay, 43200, 0, by decide, .inl (by decide)⟩
    let hour : Int := 3600 * nanosPerSecond
    (∀ operation ∈ operations, operation.isVetted = true) ∧ ¬ at_.IsFirstMorning ∧
      ¬ at_.IsLastEvening ∧ store.onCall at_ hour = .ok [⟨⟨1⟩, "Ada", .medic⟩] ∧
      ∃ shifts, store.listShifts ⟨1⟩ none = .ok shifts ∧
        ∃ shift ∈ shifts, shift.Lasts at_ hour := by
  intro operations store at_ hour
  have empty : sample.store.ledger = {} := rfl
  have vetted : ∀ operation ∈ operations, operation.isVetted = true := by decide
  have covered : ¬ at_.IsFirstMorning := by decide +kernel
  have ends : ¬ at_.IsLastEvening := by decide +kernel
  have answer : store.onCall at_ hour = .ok [⟨⟨1⟩, "Ada", .medic⟩] := by decide +kernel
  obtain ⟨list, same, -, -, agree, -⟩ :=
    run_onCall_agrees_with_lists empty vetted covered ends hour
  rw [answer, Except.ok.injEq] at same
  subst same
  exact ⟨vetted, covered, ends, answer, (agree ⟨1⟩).mp ⟨_, List.mem_cons_self, rfl⟩⟩

end Session

end DutyRoster
