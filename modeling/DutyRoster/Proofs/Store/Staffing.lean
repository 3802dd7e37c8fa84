import DutyRoster.Proofs.Store.Listing

/-!
# Who is in a slot

The staff of a slot comes out of a join of three tables. Since nobody holds a slot twice, the join
finds a member of staff once or not at all, so the answer is the staff with everybody left out who
does not hold the slot (`Ledger.Consistent.slotStaff_eq`), in the order of registration.
-/

set_option autoImplicit false

namespace DutyRoster

section Lists

variable {α β : Type}

/-- Related lists have as many elements that pass a test if the tests agree on related elements. -/
theorem countP_eq_of_forall₂ {R : α → β → Prop} {p : α → Bool} {q : β → Bool} {l : List α}
    {m : List β} (all : List.Forall₂ R l m) (agree : ∀ a b, R a b → p a = q b) :
    l.countP p = m.countP q := by
  induction all with
  | nil => rfl
  | cons related _ ih => rw [List.countP_cons, List.countP_cons, ih, agree _ _ related]

/-- Repeating every element once or not at all is filtering. -/
theorem flatMap_ite_eq_filter (p : α → Bool) (l : List α) :
    (l.flatMap fun a => if p a then [a] else []) = l.filter p := by
  induction l with
  | nil => rfl
  | cons a l ih =>
    rw [List.flatMap_cons, ih, List.filter_cons]
    by_cases kept : p a <;> simp [kept]

end Lists

namespace Ledger.Consistent

variable {ledger : Ledger}

/-- The slot of a booking names a day and a number exactly if its shift has them. -/
theorem names_iff_of_tells {booking : AssignmentRow × SlotRow} {shift : Assignment}
    (tells : Tells booking shift) (date : Date) (number : SlotNumber) :
    booking.2.Names date number ↔ shift.date = date ∧ shift.number = number := by
  constructor
  · exact tells.names.unique
  · rintro ⟨rfl, rfl⟩
    exact tells.names

/-- An employee is found in a slot of a day once or not at all. -/
theorem countP_shifts_eq (h : ledger.Consistent) (employee : EmployeeId) (date : Date)
    (number : SlotNumber) :
    (ledger.shifts.countP fun shift =>
      shift.employee = employee ∧ shift.date = date ∧ shift.number = number) =
      if ledger.Holds employee date number then 1 else 0 := by
  let key (shift : Assignment) := (shift.employee, shift.date, shift.number)
  have as_count : (ledger.shifts.countP fun shift =>
      shift.employee = employee ∧ shift.date = date ∧ shift.number = number) =
      (ledger.shifts.map key).count (employee, date, number) := by
    rw [List.count_eq_countP, List.countP_map]
    apply List.countP_congr
    intro shift _
    simp [key]
  have at_most : (ledger.shifts.map key).count (employee, date, number) ≤ 1 :=
    List.nodup_iff_count_le_one.mp h.nodup_shifts _
  by_cases holds : ledger.Holds employee date number
  · have found : 0 < ledger.shifts.countP fun shift =>
        shift.employee = employee ∧ shift.date = date ∧ shift.number = number := by
      obtain ⟨shift, mem, named⟩ := holds
      exact List.countP_pos_iff.mpr ⟨shift, mem, decide_eq_true named⟩
    rw [if_pos holds]
    omega
  · rw [if_neg holds, List.countP_eq_zero]
    intro shift mem named
    exact holds ⟨shift, mem, of_decide_eq_true named⟩

/-- The staff of a slot of a day are those who hold it, each of them once and in the order of
registration. -/
theorem slotStaff_eq (h : ledger.Consistent) (date : Date) (number : SlotNumber) :
    ledger.slotStaff date number =
      .ok (ledger.staff.filter fun member => ledger.Holds member.id date number) := by
  -- the join has an employee once for each booking of the slot, and there is at most one
  have found (row : EmployeeRow) :
      ((ledger.bookings.filter fun booking => booking.1.employee = row.id ∧
        booking.2.date = date.text ∧ booking.2.number = .integer number.number).map
          fun _ => row) = if ledger.Holds row.id date number then [row] else [] := by
    have length : (ledger.bookings.countP fun booking => booking.1.employee = row.id ∧
        booking.2.date = date.text ∧ booking.2.number = .integer number.number) =
          if ledger.Holds row.id date number then 1 else 0 := by
      rw [← h.countP_shifts_eq]
      apply countP_eq_of_forall₂ h.forall₂_bookings
      intro booking shift tells
      have named := names_iff_of_tells tells date number
      simp only [SlotRow.Names] at named
      simp only [tells.employee, named]
    rw [List.map_const', ← List.countP_eq_length_filter, length]
    by_cases holds : ledger.Holds row.id date number <;> simp [holds]
  have answer : ledger.slotStaff date number =
      (ledger.employees.flatMap fun row => (ledger.bookings.filter fun booking =>
        booking.1.employee = row.id ∧ booking.2.date = date.text ∧
          booking.2.number = .integer number.number).map fun _ => row).mapM
            EmployeeRow.read := by rfl
  have readable : ∀ row ∈ ledger.employees.filter fun row => ledger.Holds row.id date number,
      ∃ member, row.read = .ok member := by
    intro row mem
    obtain ⟨role, read⟩ := h.read_employee (List.mem_of_mem_filter mem)
    exact ⟨_, read⟩
  simp only [answer, found]
  have joined := flatMap_ite_eq_filter
    (fun row : EmployeeRow => decide (ledger.Holds row.id date number)) ledger.employees
  simp only [decide_eq_true_eq] at joined
  rw [joined, mapM_eq_ok_filterMap readable, staff, List.filterMap_filter, List.filter_filterMap]
  congr 1
  apply List.filterMap_congr
  intro row mem
  obtain ⟨role, read⟩ := h.read_employee mem
  simp only [read, Except.toOption, Option.filter_some, decide_eq_true_eq]

end Ledger.Consistent

end DutyRoster
