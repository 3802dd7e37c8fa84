import DutyRoster.Proofs.Store.Consistent
import DutyRoster.Proofs.Calendar.DateText
import Mathlib.Data.List.Forall2

/-!
# What a ledger says

`Ledger.shifts` and `Ledger.staff` are what the tables of a ledger say when they are read: the
assignments with their dates, slot numbers and roles, and the members of staff. Later modules speak
of these two lists and no longer of rows.

In a consistent ledger every row can be read, since dates, slot numbers and roles are read back from
what is written for them, so nothing is left out: the shifts are the assignment rows one by one
(`Ledger.Consistent.forall₂_shifts`), and the directory answers from them without error. Each change
of a table then has one equation that says what it does to the two lists.
-/

set_option autoImplicit false

namespace DutyRoster

section Reading

/-- A role is read back from its name. -/
theorem Role.read_name (role : Role) : Role.read role.name = .ok role := by
  cases role <;> rfl

/-- Roles with the same name are the same. -/
theorem Role.name_injective {a b : Role} (h : a.name = b.name) : a = b := by
  have same : Except.ok a = (Except.ok b : Except UnknownRole Role) := by
    rw [← Role.read_name a, ← Role.read_name b, h]
  injection same

/-- A slot number is found by its number. -/
theorem SlotNumber.ofNumber?_number (slot : SlotNumber) : ofNumber? slot.number = some slot := by
  cases slot <;> rfl

/-- Slot numbers with the same number are the same. -/
theorem SlotNumber.number_injective {a b : SlotNumber} (h : a.number = b.number) : a = b := by
  have same : some a = some b := by
    rw [← SlotNumber.ofNumber?_number a, ← SlotNumber.ofNumber?_number b, h]
  injection same

/-- A row names at most one slot of one day. -/
theorem SlotRow.Names.unique {row : SlotRow} {date date' : Date} {number number' : SlotNumber}
    (h : row.Names date number) (h' : row.Names date' number') :
    date = date' ∧ number = number' := by
  refine ⟨Date.text_injective (h.1.symm.trans h'.1), SlotNumber.number_injective ?_⟩
  have cells := h.2.symm.trans h'.2
  simp only [Cell.integer.injEq] at cells
  omega

/-- A row of staff with the name of a role is read as a member of staff in this role. -/
theorem EmployeeRow.read_of_role {row : EmployeeRow} {role : Role} (h : row.role = role.name) :
    row.read = .ok ⟨row.id, row.name, role⟩ := by
  simp only [EmployeeRow.read, roleAt, h, Role.read_name, Except.mapError, bind, Except.bind]

/-- An assignment is read as it was written if its slot names a day and a number and its role is the
name of one. -/
theorem readAssignment_of_names {row : AssignmentRow} {slot : SlotRow} {date : Date}
    {number : SlotNumber} {role : Role} (names : slot.Names date number)
    (hrole : row.role = role.name) :
    readAssignment (row, slot) = .ok ⟨row.id, row.employee, row.slot, date, number, role⟩ := by
  have cell : slotNumberAt 4 (.integer number.number) = .ok number := by cases number <;> rfl
  simp only [readAssignment, dateAt, roleAt, names.1, names.2, hrole, Date.read_text,
    Role.read_name, cell, Except.mapError, bind, Except.bind]

/-- Reading a list element by element succeeds if every element can be read. -/
theorem mapM_eq_ok_filterMap {α β ε : Type} {read : α → Except ε β} {l : List α}
    (h : ∀ a ∈ l, ∃ b, read a = .ok b) :
    l.mapM read = .ok (l.filterMap fun a => (read a).toOption) := by
  induction l with
  | nil => rfl
  | cons a l ih =>
    obtain ⟨b, eq⟩ := h a List.mem_cons_self
    rw [List.mapM_cons, ih fun c mem => h c (List.mem_cons_of_mem _ mem), eq]
    simp [bind, Except.bind, pure, Except.pure, Except.toOption, eq]

/-- What is read from a list is read from its elements. -/
theorem exists_of_mapM_eq_ok {α β ε : Type} {read : α → Except ε β} {l : List α} {m : List β}
    (all : l.mapM read = .ok m) : ∀ b ∈ m, ∃ a ∈ l, read a = .ok b := by
  induction l generalizing m with
  | nil =>
    cases all
    exact nofun
  | cons a l ih =>
    rw [List.mapM_cons] at all
    obtain ⟨b, first, all⟩ := exists_of_bind all
    obtain ⟨others, rest, all⟩ := exists_of_bind all
    cases all
    refine List.forall_mem_cons.mpr ⟨⟨a, List.mem_cons_self, first⟩, fun c mem => ?_⟩
    obtain ⟨d, on_list, eq⟩ := ih rest c mem
    exact ⟨d, List.mem_cons_of_mem a on_list, eq⟩

end Reading

namespace Ledger

/-- The assignments that a ledger holds, as they are read. -/
def shifts (ledger : Ledger) : List Assignment :=
  ledger.bookings.filterMap fun booking => (readAssignment booking).toOption

/-- The members of staff that a ledger holds, as they are read. -/
def staff (ledger : Ledger) : List Employee :=
  ledger.employees.filterMap fun row => row.read.toOption

/-- An employee holds a slot of a day. -/
def Holds (ledger : Ledger) (employee : EmployeeId) (date : Date) (number : SlotNumber) : Prop :=
  ∃ shift ∈ ledger.shifts, shift.employee = employee ∧ shift.date = date ∧ shift.number = number

instance (ledger : Ledger) (employee : EmployeeId) (date : Date) (number : SlotNumber) :
    Decidable (ledger.Holds employee date number) :=
  inferInstanceAs (Decidable (∃ shift ∈ ledger.shifts, _))

/-- The number of people who hold a slot of a day in a role. -/
def seats (ledger : Ledger) (date : Date) (number : SlotNumber) (role : Role) : Nat :=
  ledger.shifts.countP fun shift => shift.date = date ∧ shift.number = number ∧ shift.role = role

/-- The days on which an employee holds at least one slot, as often as slots are held. -/
def dutyDays (ledger : Ledger) (employee : EmployeeId) : List Date :=
  (ledger.shifts.filter fun shift => shift.employee = employee).map (·.date)

/-- A shift is what an assignment row says together with the row of its slot. -/
structure Shows (ledger : Ledger) (row : AssignmentRow) (shift : Assignment) : Prop where
  id : shift.id = row.id
  employee : shift.employee = row.employee
  slot : shift.slot = row.slot
  role : row.role = shift.role.name
  named : ∃ s ∈ ledger.slots, s.id = row.slot ∧ s.Names shift.date shift.number

/-- An assignment is joined with the slots that it refers to. -/
theorem mem_bookings {ledger : Ledger} {row : AssignmentRow} {slot : SlotRow} :
    (row, slot) ∈ ledger.bookings ↔
      row ∈ ledger.assignments ∧ slot ∈ ledger.slots ∧ slot.id = row.slot := by
  simp only [bookings, List.mem_flatMap, List.mem_map, List.mem_filter, decide_eq_true_eq,
    Prod.mk.injEq]
  constructor
  · rintro ⟨_, mem, _, ⟨hs, eq⟩, rfl, rfl⟩
    exact ⟨mem, hs, eq⟩
  · rintro ⟨mem, hs, eq⟩
    exact ⟨row, mem, slot, ⟨hs, eq⟩, rfl, rfl⟩

/-- A day is one on which an employee is on duty if a shift of the employee has it. -/
theorem mem_dutyDays {ledger : Ledger} {employee : EmployeeId} {day : Date} :
    day ∈ ledger.dutyDays employee ↔
      ∃ shift ∈ ledger.shifts, shift.employee = employee ∧ shift.date = day := by
  simp only [dutyDays, List.mem_map, List.mem_filter, decide_eq_true_eq, and_assoc]

namespace Consistent

variable {ledger : Ledger}

/-- Every row of staff can be read. -/
theorem read_employee (h : ledger.Consistent) {row : EmployeeRow} (mem : row ∈ ledger.employees) :
    ∃ role, row.read = .ok ⟨row.id, row.name, role⟩ := by
  obtain ⟨role, eq⟩ := h.employee_role row mem
  exact ⟨role, EmployeeRow.read_of_role eq⟩

/-- Every member of staff has a row. -/
theorem exists_row_of_mem_staff (h : ledger.Consistent) {member : Employee}
    (mem : member ∈ ledger.staff) : ∃ row ∈ ledger.employees, row.id = member.id := by
  obtain ⟨row, hr, eq⟩ := List.mem_filterMap.mp mem
  obtain ⟨role, read⟩ := h.read_employee hr
  rw [read, Except.toOption, Option.some.injEq] at eq
  exact ⟨row, hr, by rw [← eq]⟩

/-- Every booking can be read. -/
theorem read_booking (h : ledger.Consistent) {row : AssignmentRow} {slot : SlotRow}
    (mem : (row, slot) ∈ ledger.bookings) :
    ∃ shift, readAssignment (row, slot) = .ok shift ∧ ledger.Shows row shift ∧
      slot.Names shift.date shift.number := by
  obtain ⟨hr, hs, eq⟩ := mem_bookings.mp mem
  obtain ⟨date, number, names⟩ := h.slot_named slot hs
  obtain ⟨role, hrole⟩ := h.assignment_role row hr
  exact ⟨_, readAssignment_of_names names hrole, ⟨rfl, rfl, rfl, hrole, slot, hs, eq, names⟩, names⟩

/-- The slot that an assignment refers to is joined with it just once. -/
theorem bookings_of_row (h : ledger.Consistent) {row : AssignmentRow} {slot : SlotRow}
    (mem : slot ∈ ledger.slots) (eq : slot.id = row.slot) :
    ((ledger.slots.filter fun s => s.id = row.slot).map fun s => (row, s)) = [(row, slot)] := by
  rw [← eq, h.filter_slots mem, List.map_cons, List.map_nil]

/-- The shifts are the assignment rows, read one by one. -/
theorem forall₂_shifts (h : ledger.Consistent) :
    List.Forall₂ ledger.Shows ledger.assignments ledger.shifts := by
  suffices ∀ rows : List AssignmentRow, (∀ row ∈ rows, row ∈ ledger.assignments) →
      List.Forall₂ ledger.Shows rows
        ((rows.flatMap fun row => (ledger.slots.filter fun s => s.id = row.slot).map
          fun s => (row, s)).filterMap fun booking => (readAssignment booking).toOption) from
    this ledger.assignments fun _ mem => mem
  intro rows
  induction rows with
  | nil => exact fun _ => List.Forall₂.nil
  | cons row rows ih =>
    intro all
    have mem := all row List.mem_cons_self
    obtain ⟨slot, hs, eq⟩ := h.assignment_slot row mem
    obtain ⟨shift, read, shows, -⟩ := h.read_booking (mem_bookings.mpr ⟨mem, hs, eq⟩)
    have tail := ih fun r hr => all r (List.mem_cons_of_mem _ hr)
    rw [List.flatMap_cons, h.bookings_of_row hs eq, List.filterMap_append]
    simp only [List.filterMap_cons, read, Except.toOption, List.filterMap_nil, List.cons_append,
      List.nil_append]
    exact List.Forall₂.cons shows tail

/-- A shift is held exactly if some assignment row shows it. -/
theorem mem_shifts (h : ledger.Consistent) {shift : Assignment} :
    shift ∈ ledger.shifts ↔ ∃ row ∈ ledger.assignments, ledger.Shows row shift := by
  simp only [shifts, List.mem_filterMap]
  constructor
  · rintro ⟨⟨row, slot⟩, mem, eq⟩
    obtain ⟨shift', read, shows, -⟩ := h.read_booking mem
    rw [read, Except.toOption, Option.some.injEq] at eq
    exact ⟨row, (mem_bookings.mp mem).1, eq ▸ shows⟩
  · rintro ⟨row, mem, shows⟩
    obtain ⟨slot, hs, eq, names⟩ := shows.named
    refine ⟨(row, slot), mem_bookings.mpr ⟨mem, hs, eq⟩, ?_⟩
    rw [readAssignment_of_names names shows.role, ← shows.id, ← shows.employee, ← shows.slot]
    rfl

/-- The shifts have the identifiers of the assignments, in their order. -/
theorem map_id_shifts (h : ledger.Consistent) :
    ledger.shifts.map (·.id) = ledger.assignments.map (·.id) := by
  have all := h.forall₂_shifts
  generalize ledger.assignments = rows at all ⊢
  generalize ledger.shifts = shifts at all ⊢
  induction all with
  | nil => rfl
  | cons shows _ ih => rw [List.map_cons, List.map_cons, shows.id, ih]

/-- The identifier of a shift is one that was issued. -/
theorem shift_id_le (h : ledger.Consistent) {shift : Assignment} (mem : shift ∈ ledger.shifts) :
    shift.id.number ≤ ledger.assignmentsIssued := by
  have issued : shift.id ∈ ledger.assignments.map (·.id) := by
    rw [← h.map_id_shifts]
    exact List.mem_map_of_mem mem
  obtain ⟨row, hr, eq⟩ := List.mem_map.mp issued
  rw [← eq]
  exact (h.assignment_ids.within _ (List.mem_map_of_mem hr)).2

/-- Counting rows is counting shifts if the tests agree on what a row shows. -/
theorem countP_assignments (h : ledger.Consistent) {p : AssignmentRow → Bool}
    {q : Assignment → Bool} (agree : ∀ row shift, ledger.Shows row shift → p row = q shift) :
    ledger.assignments.countP p = ledger.shifts.countP q := by
  have all := h.forall₂_shifts
  generalize ledger.assignments = rows at all ⊢
  generalize ledger.shifts = shifts at all ⊢
  induction all with
  | nil => rfl
  | cons shows _ ih => rw [List.countP_cons, List.countP_cons, ih, agree _ _ shows]

/-- What is counted in a slot are the shifts in it that are in the role. -/
theorem roleCount_eq (h : ledger.Consistent) (slot : SlotId) (role : Role) :
    ledger.roleCount slot role =
      ledger.shifts.countP fun shift => shift.slot = slot ∧ shift.role = role := by
  apply h.countP_assignments
  intro row shift shows
  have same : row.role = role.name ↔ shift.role = role := by
    rw [shows.role]
    exact ⟨Role.name_injective, fun eq => by rw [eq]⟩
  simp only [same, shows.slot]

/-- An employee is found in a slot exactly if a shift says so. -/
theorem isAssigned_iff (h : ledger.Consistent) {employee : EmployeeId} {slot : SlotId} :
    ledger.isAssigned employee slot = true ↔
      ∃ shift ∈ ledger.shifts, shift.employee = employee ∧ shift.slot = slot := by
  simp only [isAssigned, List.any_eq_true, decide_eq_true_eq]
  constructor
  · rintro ⟨row, mem, rfl, rfl⟩
    obtain ⟨slot, hs, eq⟩ := h.assignment_slot row mem
    obtain ⟨shift, -, shows, -⟩ := h.read_booking (mem_bookings.mpr ⟨mem, hs, eq⟩)
    exact ⟨shift, h.mem_shifts.mpr ⟨row, mem, shows⟩, shows.employee, shows.slot⟩
  · rintro ⟨shift, mem, rfl, rfl⟩
    obtain ⟨row, hr, shows⟩ := h.mem_shifts.mp mem
    exact ⟨row, hr, shows.employee.symm, shows.slot.symm⟩

/-- A shift is for the slot row that names its day and number, and for no other. -/
theorem shift_slot_eq_iff (h : ledger.Consistent) {shift : Assignment} (mem : shift ∈ ledger.shifts)
    {slot : SlotRow} (hs : slot ∈ ledger.slots) {date : Date} {number : SlotNumber}
    (names : slot.Names date number) :
    shift.slot = slot.id ↔ shift.date = date ∧ shift.number = number := by
  obtain ⟨row, -, shows⟩ := h.mem_shifts.mp mem
  obtain ⟨own, ho, eq, own_names⟩ := shows.named
  rw [shows.slot, ← eq]
  constructor
  · intro same
    rw [h.slot_eq ho hs same] at own_names
    exact own_names.unique names
  · rintro ⟨rfl, rfl⟩
    exact h.slot_unique own ho slot hs (own_names.1.trans names.1.symm)
      (own_names.2.trans names.2.symm)

/-- An employee holds a slot of a day exactly if the store finds the employee in its row. -/
theorem holds_iff (h : ledger.Consistent) {slot : SlotRow} (hs : slot ∈ ledger.slots) {date : Date}
    {number : SlotNumber} (names : slot.Names date number) (employee : EmployeeId) :
    ledger.Holds employee date number ↔ ledger.isAssigned employee slot.id = true := by
  rw [h.isAssigned_iff]
  constructor
  · rintro ⟨shift, mem, same, at_slot⟩
    exact ⟨shift, mem, same, (h.shift_slot_eq_iff mem hs names).mpr at_slot⟩
  · rintro ⟨shift, mem, same, at_slot⟩
    exact ⟨shift, mem, same, (h.shift_slot_eq_iff mem hs names).mp at_slot⟩

/-- The seats taken in a slot of a day are those that the store counts in its row. -/
theorem seats_eq (h : ledger.Consistent) {slot : SlotRow} (hs : slot ∈ ledger.slots) {date : Date}
    {number : SlotNumber} (names : slot.Names date number) (role : Role) :
    ledger.seats date number role = ledger.roleCount slot.id role := by
  rw [h.roleCount_eq]
  apply List.countP_congr
  intro shift mem
  simp only [decide_eq_true_eq, ← and_assoc, h.shift_slot_eq_iff mem hs names]

/-- No shift is for a slot of a day that no row names. -/
theorem shift_named (h : ledger.Consistent) {shift : Assignment} (mem : shift ∈ ledger.shifts) :
    ∃ slot ∈ ledger.slots, slot.id = shift.slot ∧ slot.Names shift.date shift.number := by
  obtain ⟨row, -, shows⟩ := h.mem_shifts.mp mem
  obtain ⟨slot, hs, eq, names⟩ := shows.named
  exact ⟨slot, hs, eq.trans shows.slot.symm, names⟩

/-- Two shifts of the same employee in the same slot of the same day are one. -/
theorem shift_eq (h : ledger.Consistent) {a b : Assignment} (ha : a ∈ ledger.shifts)
    (hb : b ∈ ledger.shifts) (employee : a.employee = b.employee) (date : a.date = b.date)
    (number : a.number = b.number) : a = b := by
  obtain ⟨slot, hs, eq, names⟩ := h.shift_named hb
  have same_slot : a.slot = b.slot := by
    rw [← eq]
    exact (h.shift_slot_eq_iff ha hs names).mpr ⟨date, number⟩
  obtain ⟨row_a, mem_a, shows_a⟩ := h.mem_shifts.mp ha
  obtain ⟨row_b, mem_b, shows_b⟩ := h.mem_shifts.mp hb
  have same_id := h.assignment_unique row_a mem_a row_b mem_b
    (by rw [← shows_a.employee, ← shows_b.employee, employee])
    (by rw [← shows_a.slot, ← shows_b.slot, same_slot])
  have same_row := h.assignment_ids.eq_of_id_eq mem_a mem_b (congrArg AssignmentId.number same_id)
  have id : a.id = b.id := by rw [shows_a.id, shows_b.id, same_id]
  have role : a.role = b.role := by
    apply Role.name_injective
    rw [← shows_a.role, ← shows_b.role, same_row]
  cases a
  cases b
  simp_all

/-- No employee holds the same slot of the same day twice. -/
theorem nodup_shifts (h : ledger.Consistent) :
    (ledger.shifts.map fun shift => (shift.employee, shift.date, shift.number)).Nodup := by
  have ids : (ledger.shifts.map (·.id)).Nodup := by
    rw [h.map_id_shifts]
    have numbers : ((ledger.assignments.map (·.id)).map (·.number)).Nodup := by
      rw [List.map_map]
      exact h.assignment_ids.nodup
    exact numbers.of_map
  refine ids.of_map.map_on ?_
  intro a ha b hb eq
  simp only [Prod.mk.injEq] at eq
  exact h.shift_eq ha hb eq.1 eq.2.1 eq.2.2

/-- The staff can be listed. -/
theorem listEmployees_eq (h : ledger.Consistent) : ledger.listEmployees = .ok ledger.staff := by
  apply mapM_eq_ok_filterMap
  intro row mem
  obtain ⟨role, read⟩ := h.read_employee mem
  exact ⟨_, read⟩

/-- An employee is looked for among the staff. -/
theorem findEmployee_eq (h : ledger.Consistent) (id : EmployeeId) :
    ledger.findEmployee id = .ok (ledger.staff.find? fun member => member.id = id) := by
  have all : ∀ row ∈ ledger.employees, ∃ role, row.read = .ok ⟨row.id, row.name, role⟩ :=
    fun row mem => h.read_employee mem
  unfold findEmployee staff
  generalize ledger.employees = rows at all ⊢
  induction rows with
  | nil => rfl
  | cons row rows ih =>
    obtain ⟨role, read⟩ := all row List.mem_cons_self
    have tail := ih fun r hr => all r (List.mem_cons_of_mem _ hr)
    by_cases same : row.id = id
    · simp [read, same, Except.toOption, Except.map]
    · simpa [read, same, Except.toOption] using tail

end Consistent

end Ledger

end DutyRoster
