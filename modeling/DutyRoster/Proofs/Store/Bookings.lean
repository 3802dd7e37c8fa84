import DutyRoster.Proofs.Store.Shifts

/-!
# Bookings made and taken back

What the changes of the store do to the shifts and the staff of a ledger. Booking takes several
steps and a way back; `Ledger.commitAssignment_eq` is all of it in one equation, with the slot that
is ensured on the way and the count that the capacity is compared with. Of its five ends only the
one that books leaves another ledger behind.

In a consistent ledger the equations no longer mention rows. The slot that a booking is made for may
be new or old: in either case the employee is found in it exactly if a shift says so, and the count
is the number of seats taken (`Ledger.Consistent.commitAssignment_eq`). A booking that is made adds
one shift at the end, and one that is removed takes away the shift that it names.
-/

set_option autoImplicit false

namespace DutyRoster

namespace Ledger

section Rows

variable (ledger : Ledger) (employee : EmployeeId) (date : Date) (number : SlotNumber) (role : Role)

/-- Adding an assignment for references that exist is refused only if the employee is found in the
slot. -/
theorem createAssignment_eq (slot : SlotId) : ledger.createAssignment employee slot role =
    if ledger.isAssigned employee slot then (.error .duplicateAssignment, ledger)
    else if (∃ row ∈ ledger.employees, row.id = employee) ∧ ∃ row ∈ ledger.slots, row.id = slot then
      (.ok ⟨ledger.assignmentsIssued + 1⟩, ledger.addAssignment employee slot role)
    else (.error .unknownReference, ledger) := by
  simp only [createAssignment, addAssignment, List.any_eq_true, decide_eq_true_eq]

/-- The ledger after a booking: the slot of the day is there, and the assignment is the last. -/
def withBooking : Ledger :=
  (ledger.ensureSlot date number).2.addAssignment employee (ledger.ensureSlot date number).1.id role

/-- Booking a slot, all its ends: the employee is found in the slot, or the count does not fit, or
the capacity is reached, or the booking is made, or the employee does not exist. -/
theorem commitAssignment_eq (capacity : UInt32) :
    ledger.commitAssignment employee date number role capacity =
      let slot := (ledger.ensureSlot date number).1
      let ensured := (ledger.ensureSlot date number).2
      let occupied := ensured.roleCount slot.id role
      if ensured.isAssigned employee slot.id then (.ok (.alreadyAssigned slot), ledger)
      else if 4294967296 ≤ occupied then (.error (.countOutOfRange occupied), ledger)
      else if capacity.toNat ≤ occupied then (.ok (.capacityReached slot occupied), ledger)
      else if ∃ row ∈ ledger.employees, row.id = employee then
        (.ok (.committed ⟨⟨ledger.assignmentsIssued + 1⟩, employee, slot.id, date, number, role⟩),
          ledger.withBooking employee date number role)
      else (.error .unknownReference, ledger) := by
  have known_slot : ∃ row ∈ (ledger.ensureSlot date number).2.slots,
      row.id = (ledger.ensureSlot date number).1.id := by
    obtain ⟨row, mem, eq, -⟩ := ledger.exists_ensureSlot_row date number
    exact ⟨row, mem, eq⟩
  simp only [commitAssignment, transaction, book, withBooking]
  by_cases assigned : (ledger.ensureSlot date number).2.isAssigned employee
      (ledger.ensureSlot date number).1.id
  · simp only [assigned, if_true, CommitOutcome.isCommitted, Bool.false_eq_true, if_false]
  · simp only [assigned, Bool.false_eq_true, if_false, countByRole, boundedCount,
      createAssignment_eq, ensureSlot_employees, ensureSlot_assignmentsIssued, known_slot, and_true]
    by_cases fits : (ledger.ensureSlot date number).2.roleCount
        (ledger.ensureSlot date number).1.id role < 4294967296
    · rw [if_pos fits, if_neg (Nat.not_le.mpr fits)]
      dsimp only
      by_cases full : capacity.toNat ≤ (ledger.ensureSlot date number).2.roleCount
          (ledger.ensureSlot date number).1.id role
      · simp only [full, if_true, CommitOutcome.isCommitted, Bool.false_eq_true, if_false]
      · by_cases known : ∃ row ∈ ledger.employees, row.id = employee
        · simp only [full, known, if_true, if_false, CommitOutcome.isCommitted]
        · simp only [full, known, if_false]
    · rw [if_neg fits, if_pos (Nat.le_of_not_lt fits)]

/-- An assignment row is the one that an employee holds for a slot of a day. -/
def IsFor (row : AssignmentRow) : Bool :=
  row.employee = employee ∧ ledger.slots.any fun slot => slot.id = row.slot ∧ slot.Names date number

/-- The ledger after a booking has been removed. -/
def withoutBooking : Ledger :=
  ledger.keepAssignments fun row => !ledger.IsFor employee date number row

/-- Removing a booking takes away all rows that it names, if there is one. -/
theorem removeAssignment_eq : ledger.removeAssignment employee date number =
    if ledger.assignments.any (ledger.IsFor employee date number) then
      (.ok (), ledger.withoutBooking employee date number)
    else (.error (.noAssignment employee date number), ledger) := by
  rfl

/-- A new member of staff has no shifts. -/
@[simp] theorem shifts_registerEmployee (name : String) :
    (ledger.registerEmployee name role).2.shifts = ledger.shifts := by
  rfl

/-- A new member of staff is the last one, with the next identifier. -/
@[simp] theorem staff_registerEmployee (name : String) :
    (ledger.registerEmployee name role).2.staff =
      ledger.staff ++ [⟨⟨ledger.employeesIssued + 1⟩, name, role⟩] := by
  have read : (EmployeeRow.mk ⟨ledger.employeesIssued + 1⟩ name role.name).read =
      .ok ⟨⟨ledger.employeesIssued + 1⟩, name, role⟩ := EmployeeRow.read_of_role rfl
  simp only [staff, registerEmployee, List.filterMap_append, List.filterMap_cons, read,
    Except.toOption, List.filterMap_nil]

/-- Ensuring the slot of a day leaves the staff alone. -/
@[simp] theorem staff_ensureSlot : (ledger.ensureSlot date number).2.staff = ledger.staff := by
  simp only [staff, ensureSlot_employees]

/-- Booking leaves the staff alone. -/
@[simp] theorem staff_withBooking :
    (ledger.withBooking employee date number role).staff = ledger.staff :=
  ledger.staff_ensureSlot date number

end Rows

namespace Consistent

variable {ledger : Ledger}

/-- Ensuring a slot leaves the shifts alone. A slot that is added has an identifier of its own, so
that no assignment is joined with it. -/
theorem shifts_ensureSlot (h : ledger.Consistent) (date : Date) (number : SlotNumber) :
    (ledger.ensureSlot date number).2.shifts = ledger.shifts := by
  have joined : (ledger.ensureSlot date number).2.bookings = ledger.bookings := by
    rcases ledger.ensureSlot_cases date number with ⟨_, -, -, eq⟩ | ⟨-, eq⟩
    · rw [eq]
      rfl
    · rw [eq]
      apply List.flatMap_congr
      intro row mem
      obtain ⟨slot, hs, same⟩ := h.assignment_slot row mem
      have within := h.slot_ids.within _ (List.mem_map_of_mem hs)
      have other : ¬ (SlotId.mk (ledger.slotsIssued + 1 : Nat) = row.slot) := by
        intro new
        rw [← same] at new
        have := congrArg SlotId.number new
        simp only at this
        omega
      rw [List.filter_append]
      simp only [List.filter_cons, other, decide_false, Bool.false_eq_true, if_false,
        List.filter_nil, List.append_nil]
  unfold shifts
  rw [joined]

/-- An assignment that is added to an existing slot is the last shift. -/
theorem shifts_addAssignment (h : ledger.Consistent) (employee : EmployeeId) {slot : SlotRow}
    (hs : slot ∈ ledger.slots) {date : Date} {number : SlotNumber} (names : slot.Names date number)
    (role : Role) : (ledger.addAssignment employee slot.id role).shifts = ledger.shifts ++
      [⟨⟨ledger.assignmentsIssued + 1⟩, employee, slot.id, date, number, role⟩] := by
  let row : AssignmentRow := ⟨⟨ledger.assignmentsIssued + 1⟩, employee, slot.id, role.name⟩
  have read : readAssignment (row, slot) =
      .ok ⟨⟨ledger.assignmentsIssued + 1⟩, employee, slot.id, date, number, role⟩ :=
    readAssignment_of_names names rfl
  have joined : (ledger.addAssignment employee slot.id role).bookings =
      ledger.bookings ++ [(row, slot)] := by
    simp only [bookings, Ledger.addAssignment, List.flatMap_append, List.flatMap_cons,
      List.flatMap_nil, List.append_nil, h.filter_slots hs, List.map_cons, List.map_nil, row]
  rw [shifts, joined, List.filterMap_append]
  simp only [List.filterMap_cons, read, Except.toOption, List.filterMap_nil]
  rfl

/-- The shifts that are kept are those of the rows that are kept. -/
theorem shifts_keepAssignments (h : ledger.Consistent) {keep : AssignmentRow → Bool}
    {kept : Assignment → Bool}
    (agree : ∀ row ∈ ledger.assignments, ∀ shift, ledger.Shows row shift → kept shift = keep row) :
    (ledger.keepAssignments keep).shifts = ledger.shifts.filter kept := by
  have joined : (ledger.keepAssignments keep).bookings =
      ledger.bookings.filter fun booking => keep booking.1 := by
    simp only [bookings, Ledger.keepAssignments]
    induction ledger.assignments with
    | nil => rfl
    | cons row rows ih =>
      rw [List.flatMap_cons, List.filter_append, ← ih, List.filter_map]
      by_cases kept_row : keep row <;> simp [kept_row, Function.comp_def]
  rw [shifts, joined, shifts, List.filterMap_filter, List.filter_filterMap]
  apply List.filterMap_congr
  rintro ⟨row, slot⟩ mem
  obtain ⟨shift, read, shows, -⟩ := h.read_booking mem
  have same := agree row (mem_bookings.mp mem).1 shift shows
  simp only [read, Except.toOption, Option.filter_some, same]

/-- Ensuring a slot changes nobody's bookings. -/
theorem holds_ensureSlot (h : ledger.Consistent) (date : Date) (number : SlotNumber)
    (employee : EmployeeId) : (ledger.ensureSlot date number).2.isAssigned employee
      (ledger.ensureSlot date number).1.id = true ↔ ledger.Holds employee date number := by
  obtain ⟨row, mem, eq, names⟩ := ledger.exists_ensureSlot_row date number
  rw [← eq, ← (h.ensureSlot date number).holds_iff mem names, Holds, Holds,
    h.shifts_ensureSlot date number]

/-- The count in a slot that has been ensured is the number of seats taken. -/
theorem roleCount_ensureSlot (h : ledger.Consistent) (date : Date) (number : SlotNumber)
    (role : Role) : (ledger.ensureSlot date number).2.roleCount
      (ledger.ensureSlot date number).1.id role = ledger.seats date number role := by
  obtain ⟨row, mem, eq, names⟩ := ledger.exists_ensureSlot_row date number
  rw [← eq, ← (h.ensureSlot date number).seats_eq mem names, seats, seats,
    h.shifts_ensureSlot date number]

/-- Booking keeps a ledger consistent if the employee exists and does not hold the slot. -/
theorem withBooking (h : ledger.Consistent) {employee : EmployeeId} {date : Date}
    {number : SlotNumber} (role : Role) (known : ∃ row ∈ ledger.employees, row.id = employee)
    (fresh : ¬ ledger.Holds employee date number) :
    (ledger.withBooking employee date number role).Consistent := by
  obtain ⟨row, mem, eq, -⟩ := ledger.exists_ensureSlot_row date number
  apply (h.ensureSlot date number).addAssignment
  · rw [← h.holds_ensureSlot, Bool.not_eq_true] at fresh
    exact fresh
  · rwa [ensureSlot_employees]
  · exact ⟨row, mem, eq⟩

/-- A booking that is made adds one shift at the end. -/
theorem shifts_withBooking (h : ledger.Consistent) (employee : EmployeeId) (date : Date)
    (number : SlotNumber) (role : Role) :
    (ledger.withBooking employee date number role).shifts = ledger.shifts ++
      [⟨⟨ledger.assignmentsIssued + 1⟩, employee, (ledger.ensureSlot date number).1.id, date,
        number, role⟩] := by
  obtain ⟨row, mem, eq, names⟩ := ledger.exists_ensureSlot_row date number
  rw [Ledger.withBooking, ← eq, (h.ensureSlot date number).shifts_addAssignment employee mem names,
    h.shifts_ensureSlot, ensureSlot_assignmentsIssued]

/-- Whoever books a slot holds it afterwards. -/
theorem holds_withBooking (h : ledger.Consistent) (employee : EmployeeId) (date : Date)
    (number : SlotNumber) (role : Role) :
    (ledger.withBooking employee date number role).Holds employee date number := by
  unfold Holds
  rw [h.shifts_withBooking]
  exact ⟨_, List.mem_append_right _ List.mem_cons_self, rfl, rfl, rfl⟩

/-- A row is the one that is named exactly if its shift is. -/
theorem isFor_iff (h : ledger.Consistent) {row : AssignmentRow} {shift : Assignment}
    (shows : ledger.Shows row shift) (employee : EmployeeId) (date : Date) (number : SlotNumber) :
    ledger.IsFor employee date number row = true ↔
      shift.employee = employee ∧ shift.date = date ∧ shift.number = number := by
  obtain ⟨own, ho, eq, own_names⟩ := shows.named
  simp only [IsFor, decide_eq_true_eq, List.any_eq_true, shows.employee]
  constructor
  · rintro ⟨rfl, slot, hs, same, names⟩
    rw [h.slot_eq hs ho (same.trans eq.symm)] at names
    exact ⟨rfl, own_names.unique names⟩
  · rintro ⟨rfl, rfl, rfl⟩
    exact ⟨rfl, own, ho, eq, own_names⟩

/-- Removing a booking succeeds exactly if the employee holds it. -/
theorem removeAssignment_eq (h : ledger.Consistent) (employee : EmployeeId) (date : Date)
    (number : SlotNumber) : ledger.removeAssignment employee date number =
      if ledger.Holds employee date number then
        (.ok (), ledger.withoutBooking employee date number)
      else (.error (.noAssignment employee date number), ledger) := by
  rw [Ledger.removeAssignment_eq]
  have found : ledger.assignments.any (ledger.IsFor employee date number) = true ↔
      ledger.Holds employee date number := by
    rw [List.any_eq_true]
    constructor
    · rintro ⟨row, mem, named⟩
      obtain ⟨slot, hs, eq⟩ := h.assignment_slot row mem
      obtain ⟨shift, -, shows, -⟩ := h.read_booking (mem_bookings.mpr ⟨mem, hs, eq⟩)
      exact ⟨shift, h.mem_shifts.mpr ⟨row, mem, shows⟩, (h.isFor_iff shows _ _ _).mp named⟩
    · rintro ⟨shift, mem, named⟩
      obtain ⟨row, hr, shows⟩ := h.mem_shifts.mp mem
      exact ⟨row, hr, (h.isFor_iff shows _ _ _).mpr named⟩
  simp only [found]

/-- Removing a booking takes away the shift that it names. -/
theorem shifts_withoutBooking (h : ledger.Consistent) (employee : EmployeeId) (date : Date)
    (number : SlotNumber) : (ledger.withoutBooking employee date number).shifts =
      ledger.shifts.filter fun shift =>
        ¬ (shift.employee = employee ∧ shift.date = date ∧ shift.number = number) := by
  apply h.shifts_keepAssignments
  intro row _ shift shows
  rw [Bool.eq_iff_iff, Bool.not_eq_true', ← Bool.not_eq_true, h.isFor_iff shows, decide_eq_true_eq]

/-- Booking a slot, all its ends: the employee holds the slot, or the count does not fit, or the
seats of the role are taken, or the booking is made, or the employee does not exist. -/
theorem commitAssignment_eq (h : ledger.Consistent) (employee : EmployeeId) (date : Date)
    (number : SlotNumber) (role : Role) (capacity : UInt32) :
    ledger.commitAssignment employee date number role capacity =
      let slot := (ledger.ensureSlot date number).1
      let occupied := ledger.seats date number role
      if ledger.Holds employee date number then (.ok (.alreadyAssigned slot), ledger)
      else if 4294967296 ≤ occupied then (.error (.countOutOfRange occupied), ledger)
      else if capacity.toNat ≤ occupied then (.ok (.capacityReached slot occupied), ledger)
      else if ∃ row ∈ ledger.employees, row.id = employee then
        (.ok (.committed ⟨⟨ledger.assignmentsIssued + 1⟩, employee, slot.id, date, number, role⟩),
          ledger.withBooking employee date number role)
      else (.error .unknownReference, ledger) := by
  rw [Ledger.commitAssignment_eq]
  simp only [h.holds_ensureSlot, h.roleCount_ensureSlot]

end Consistent

end Ledger

end DutyRoster
