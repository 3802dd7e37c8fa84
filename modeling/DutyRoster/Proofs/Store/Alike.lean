import DutyRoster.Proofs.Store.Bookings
import DutyRoster.Proofs.Store.Counts
import DutyRoster.Scheduler.OnCall

/-!
# Ledgers that cannot be told apart

Two ledgers are alike if they have the same staff and their shifts agree one by one, except for the
identifiers of assignments and of slots (`Ledger.Alike`). How many slot rows there are and which
identifiers have been issued does not matter. Every question that names no slot by its identifier is
answered from the staff and the shifts, so alike ledgers answer alike; and since the same change has
the same effect on the shifts of both, they stay alike. Questions come first, changes after them.
-/

set_option autoImplicit false

namespace DutyRoster

/-- An assignment with its identifiers left out. -/
def Assignment.withoutIds (shift : Assignment) : Assignment :=
  { shift with id := ⟨0⟩, slot := ⟨0⟩ }

/-- The end of a booking with the identifiers left out. -/
def CommitOutcome.withoutIds : CommitOutcome → CommitOutcome
  | .committed assignment => .committed assignment.withoutIds
  | .alreadyAssigned slot => .alreadyAssigned { slot with id := ⟨0⟩ }
  | .capacityReached slot occupied => .capacityReached { slot with id := ⟨0⟩ } occupied

namespace Ledger

/-- The slot that is answered is the one asked for, whatever its identifier. -/
theorem ensureSlot_withoutId (ledger : Ledger) (date : Date) (number : SlotNumber) :
    ({ (ledger.ensureSlot date number).1 with id := ⟨0⟩ } : ShiftSlot) = ⟨⟨0⟩, date, number⟩ := by
  rcases ledger.ensureSlot_cases date number with ⟨_, -, -, eq⟩ | ⟨-, eq⟩ <;> rw [eq]

/-- Two ledgers say the same of the staff and the shifts, apart from the identifiers of assignments
and slots, and will number new staff in the same way. -/
structure Alike (a b : Ledger) : Prop where
  left : a.Consistent
  right : b.Consistent
  employees : a.employees = b.employees
  issued : a.employeesIssued = b.employeesIssued
  shifts : a.shifts.map Assignment.withoutIds = b.shifts.map Assignment.withoutIds

namespace Alike

variable {a b : Ledger}

section Questions

/-- Alike ledgers have the same staff. -/
theorem staff (h : a.Alike b) : a.staff = b.staff := by
  unfold Ledger.staff
  rw [h.employees]

/-- Selecting shifts by anything but identifiers selects the same ones. -/
theorem filter (h : a.Alike b) {p : Assignment → Bool}
    (blind : ∀ shift : Assignment, p shift.withoutIds = p shift) :
    (a.shifts.filter p).map Assignment.withoutIds =
      (b.shifts.filter p).map Assignment.withoutIds := by
  have same : p ∘ Assignment.withoutIds = p := funext blind
  have filtered := congrArg (List.filter p) h.shifts
  rwa [List.filter_map, List.filter_map, same] at filtered

/-- Counting shifts by anything but identifiers counts as many. -/
theorem countP (h : a.Alike b) {p : Assignment → Bool}
    (blind : ∀ shift : Assignment, p shift.withoutIds = p shift) :
    a.shifts.countP p = b.shifts.countP p := by
  have lengths := congrArg List.length (h.filter blind)
  rwa [List.length_map, List.length_map, ← List.countP_eq_length_filter,
    ← List.countP_eq_length_filter] at lengths

/-- Alike ledgers have the same seats taken. -/
theorem seats (h : a.Alike b) (date : Date) (number : SlotNumber) (role : Role) :
    a.seats date number role = b.seats date number role :=
  h.countP fun _ => rfl

/-- In alike ledgers an employee holds the same slots. -/
theorem holds_iff (h : a.Alike b) (employee : EmployeeId) (date : Date) (number : SlotNumber) :
    a.Holds employee date number ↔ b.Holds employee date number := by
  have counted := h.countP (p := fun shift =>
    shift.employee = employee ∧ shift.date = date ∧ shift.number = number) fun _ => rfl
  rw [h.left.countP_shifts_eq, h.right.countP_shifts_eq] at counted
  by_cases left : a.Holds employee date number <;>
    by_cases right : b.Holds employee date number <;> simp_all

/-- In alike ledgers the same employee is found by an identifier. -/
theorem findEmployee (h : a.Alike b) (id : EmployeeId) : a.findEmployee id = b.findEmployee id := by
  unfold Ledger.findEmployee
  rw [h.employees]

/-- Alike ledgers list the same employees. -/
theorem listEmployees (h : a.Alike b) : a.listEmployees = b.listEmployees := by
  unfold Ledger.listEmployees
  rw [h.employees]

/-- The shifts of an employee are listed in the same order. -/
theorem exists_listAssignments (h : a.Alike b) (employee : EmployeeId)
    (range : Option (Date × Date)) : ∃ list list',
      a.listAssignments employee range = .ok list ∧ b.listAssignments employee range = .ok list' ∧
      list.map Assignment.withoutIds = list'.map Assignment.withoutIds := by
  refine ⟨_, _, h.left.listAssignments_eq employee range, h.right.listAssignments_eq employee range,
    ?_⟩
  have erased (list : List Assignment) : (list.mergeSort Assignment.listLe).map
      Assignment.withoutIds = (list.map Assignment.withoutIds).mergeSort Assignment.listLe :=
    List.map_mergeSort fun _ _ _ _ => rfl
  rw [erased, erased, h.filter fun _ => rfl]

/-- Alike ledgers tell the same numbers of people over a range. -/
theorem aggregateCounts (h : a.Alike b) (first last : Date) :
    a.aggregateCounts first last = b.aggregateCounts first last := by
  have keys : a.keysBetween first last = b.keysBetween first last := by
    rw [h.left.keysBetween_eq, h.right.keysBetween_eq]
    have selected := h.filter
      (p := fun shift => dateTextBetween first last shift.date.text) fun _ => rfl
    have mapped := congrArg
      (List.map fun shift => CountKey.ofCell shift.date shift.number shift.role) selected
    rwa [List.map_map, List.map_map] at mapped
  rw [aggregateCounts_eq, aggregateCounts_eq, keys]

/-- Alike ledgers have the same people on duty. -/
theorem onDuty (h : a.Alike b) (at_ : Instant) (buffer : Int) :
    a.onDuty at_ buffer = b.onDuty at_ buffer := by
  have staffed (date : Date) (slot : SlotNumber) :
      a.slotStaff date slot = b.slotStaff date slot := by
    rw [h.left.slotStaff_eq, h.right.slotStaff_eq, h.staff]
    congr 1
    apply List.filter_congr
    intro member _
    rw [decide_eq_decide]
    exact h.holds_iff member.id date slot
  unfold Ledger.onDuty
  simp only [staffed]

end Questions

section Changes

/-- A consistent ledger is like itself. -/
theorem refl (h : a.Consistent) : a.Alike a :=
  ⟨h, h, rfl, rfl, rfl⟩

/-- A new member of staff is the same in both ledgers, which stay alike. -/
theorem registerEmployee (h : a.Alike b) (name : String) (role : Role) :
    (a.registerEmployee name role).1 = (b.registerEmployee name role).1 ∧
      (a.registerEmployee name role).2.Alike (b.registerEmployee name role).2 := by
  constructor
  · simp only [Ledger.registerEmployee, h.issued]
  · refine ⟨h.left.registerEmployee name role, h.right.registerEmployee name role, ?_, ?_, ?_⟩
    · simp only [Ledger.registerEmployee, h.issued, h.employees]
    · simp only [Ledger.registerEmployee, h.issued]
    · rw [shifts_registerEmployee, shifts_registerEmployee, h.shifts]

/-- Ledgers stay alike if the slot of a day is ensured in both. -/
theorem ensureSlot (h : a.Alike b) (date : Date) (number : SlotNumber) :
    (a.ensureSlot date number).2.Alike (b.ensureSlot date number).2 := by
  refine ⟨h.left.ensureSlot date number, h.right.ensureSlot date number, ?_, ?_, ?_⟩
  · rw [ensureSlot_employees, ensureSlot_employees, h.employees]
  · rw [ensureSlot_employeesIssued, ensureSlot_employeesIssued, h.issued]
  · rw [h.left.shifts_ensureSlot, h.right.shifts_ensureSlot, h.shifts]

/-- Ledgers stay alike if the same booking is made in both. -/
theorem withBooking (h : a.Alike b) {employee : EmployeeId} {date : Date} {number : SlotNumber}
    (role : Role) (known : ∃ row ∈ a.employees, row.id = employee)
    (fresh : ¬ a.Holds employee date number) :
    (a.withBooking employee date number role).Alike (b.withBooking employee date number role) := by
  have known' : ∃ row ∈ b.employees, row.id = employee := by rwa [← h.employees]
  have fresh' : ¬ b.Holds employee date number := by rwa [← h.holds_iff]
  refine ⟨h.left.withBooking role known fresh, h.right.withBooking role known' fresh', ?_, ?_, ?_⟩
  · exact (h.ensureSlot date number).employees
  · exact (h.ensureSlot date number).issued
  · rw [h.left.shifts_withBooking, h.right.shifts_withBooking, List.map_append, List.map_append,
      h.shifts]
    rfl

/-- Ledgers stay alike if the same booking is taken out of both. -/
theorem withoutBooking (h : a.Alike b) (employee : EmployeeId) (date : Date)
    (number : SlotNumber) :
    (a.withoutBooking employee date number).Alike (b.withoutBooking employee date number) := by
  refine ⟨h.left.keepAssignments _, h.right.keepAssignments _, h.employees, h.issued, ?_⟩
  rw [h.left.shifts_withoutBooking, h.right.shifts_withoutBooking]
  exact h.filter fun _ => rfl

/-- Removing a booking has the same answer in both ledgers, which stay alike. -/
theorem removeAssignment (h : a.Alike b) (employee : EmployeeId) (date : Date)
    (number : SlotNumber) :
    (a.removeAssignment employee date number).1 = (b.removeAssignment employee date number).1 ∧
      (a.removeAssignment employee date number).2.Alike
        (b.removeAssignment employee date number).2 := by
  rw [h.left.removeAssignment_eq, h.right.removeAssignment_eq]
  by_cases holds : a.Holds employee date number
  · rw [if_pos holds, if_pos ((h.holds_iff employee date number).mp holds)]
    exact ⟨rfl, h.withoutBooking employee date number⟩
  · rw [if_neg holds, if_neg fun other => holds ((h.holds_iff employee date number).mpr other)]
    exact ⟨rfl, h⟩

/-- A booking ends in the same way in both ledgers. -/
theorem commitAssignment (h : a.Alike b) (employee : EmployeeId) (date : Date)
    (number : SlotNumber) (role : Role) (capacity : UInt32) :
    (a.commitAssignment employee date number role capacity).1.map CommitOutcome.withoutIds =
        (b.commitAssignment employee date number role capacity).1.map CommitOutcome.withoutIds ∧
      (a.commitAssignment employee date number role capacity).2.Alike
        (b.commitAssignment employee date number role capacity).2 := by
  rw [h.left.commitAssignment_eq, h.right.commitAssignment_eq]
  simp only [← h.holds_iff, ← h.seats, ← h.employees]
  by_cases holds : a.Holds employee date number
  · simp only [holds, if_true, Except.map, CommitOutcome.withoutIds, ensureSlot_withoutId, true_and]
    exact h
  · by_cases fits : 4294967296 ≤ a.seats date number role
    · simp only [holds, fits, if_true, if_false, Except.map, true_and]
      exact h
    · by_cases full : capacity.toNat ≤ a.seats date number role
      · simp only [holds, fits, full, if_true, if_false, Except.map, CommitOutcome.withoutIds,
          ensureSlot_withoutId, true_and]
        exact h
      · by_cases known : ∃ row ∈ a.employees, row.id = employee
        · simp only [holds, fits, full, known, if_true, if_false]
          exact ⟨rfl, h.withBooking role known holds⟩
        · simp only [holds, fits, full, known, if_false, Except.map, true_and]
          exact h

/-- A booking that is removed again leaves a ledger behind that is like the one before. -/
theorem of_cancellation {ledger : Ledger} (h : ledger.Consistent) {employee : EmployeeId}
    {date : Date} {number : SlotNumber} (role : Role)
    (known : ∃ row ∈ ledger.employees, row.id = employee)
    (fresh : ¬ ledger.Holds employee date number) :
    ledger.Alike ((ledger.withBooking employee date number role).withoutBooking employee date
      number) := by
  have booked := h.withBooking role known fresh
  refine ⟨h, booked.keepAssignments _, ?_, ?_, ?_⟩
  · exact (ledger.ensureSlot_employees date number).symm
  · exact (ledger.ensureSlot_employeesIssued date number).symm
  · have others : ledger.shifts.filter (fun shift =>
        ¬ (shift.employee = employee ∧ shift.date = date ∧ shift.number = number)) =
          ledger.shifts := by
      rw [List.filter_eq_self]
      intro shift mem
      rw [decide_eq_true_eq]
      exact fun named => fresh ⟨shift, mem, named⟩
    rw [booked.shifts_withoutBooking, h.shifts_withBooking, List.filter_append, others]
    simp

end Changes

end Alike

end Ledger

end DutyRoster
