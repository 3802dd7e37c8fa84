import DutyRoster.Store.Change
import Mathlib.Data.List.Nodup
import Mathlib.Data.List.Perm.Basic

/-!
# Consistent ledgers

A ledger is consistent if its rows are as the store writes them: identifiers ascend and were all
issued, slots and roles are written in their own words, no day has two rows for one slot, no
employee has two rows for one slot, and an assignment refers to rows that are there. Nothing in the
tables themselves keeps a ledger consistent; the changes do. Each of the four ways in which a table
changes is shown to preserve it: a member of staff is registered, the slot of a day is ensured, an
assignment is added for references that exist and do not meet yet, and assignments are dropped.

The two facts that later modules lean on are that rows with the same identifier are the same
(`Issued.eq_of_id_eq`) and that an identifier picks out exactly one slot row
(`Ledger.Consistent.filter_slots`), so that joining assignments with slots neither loses nor
multiplies rows.
-/

set_option autoImplicit false

namespace DutyRoster

/-- Identifiers that were handed out one after the other: ascending, and from 1 up to the number of
identifiers that have been issued. -/
structure Issued (ids : List Int) (issued : Nat) : Prop where
  ascending : ids.Pairwise (· < ·)
  within : ∀ id ∈ ids, 1 ≤ id ∧ id ≤ issued

namespace Issued

variable {ids : List Int} {issued : Nat}

/-- Any number of identifiers may have been issued without one being in use. -/
theorem nil (issued : Nat) : Issued [] issued :=
  ⟨List.Pairwise.nil, by simp⟩

/-- The next identifier comes after all that were issued before it. -/
theorem append_next (h : Issued ids issued) :
    Issued (ids ++ [(issued : Int) + 1]) (issued + 1) := by
  constructor
  · rw [List.pairwise_append]
    refine ⟨h.ascending, List.pairwise_singleton _ _, ?_⟩
    intro a ha b hb
    rw [List.mem_singleton] at hb
    have := h.within a ha
    omega
  · intro id hid
    rw [List.mem_append, List.mem_singleton] at hid
    rcases hid with hid | rfl
    · have := h.within id hid
      omega
    · omega

/-- Identifiers may be issued beyond those that are in use. -/
theorem mono {later : Nat} (h : Issued ids issued) (le : issued ≤ later) : Issued ids later := by
  refine ⟨h.ascending, fun id hid => ?_⟩
  have := h.within id hid
  omega

/-- Rows that are dropped leave identifiers behind that were issued one after the other. -/
theorem sublist {kept : List Int} (h : Issued ids issued) (sub : kept.Sublist ids) :
    Issued kept issued :=
  ⟨h.ascending.sublist sub, fun id hid => h.within id (sub.subset hid)⟩

/-- No identifier is in use twice. -/
theorem nodup (h : Issued ids issued) : ids.Nodup :=
  h.ascending.imp fun lt => Int.ne_of_lt lt

variable {α : Type} {id : α → Int} {rows : List α}

/-- Rows of a table that have the same identifier are the same. -/
theorem eq_of_id_eq (h : Issued (rows.map id) issued) {a b : α} (ha : a ∈ rows) (hb : b ∈ rows)
    (eq : id a = id b) : a = b :=
  List.inj_on_of_nodup_map h.nodup ha hb eq

/-- An identifier picks out one row of a table. -/
theorem filter_eq_singleton (h : Issued (rows.map id) issued) {a : α} (ha : a ∈ rows) :
    rows.filter (fun row => id row = id a) = [a] := by
  have nodup : rows.Nodup := h.nodup.of_map
  apply List.perm_singleton.mp
  rw [List.perm_ext_iff_of_nodup (nodup.filter _) (List.nodup_singleton a)]
  intro row
  rw [List.mem_filter, decide_eq_true_eq, List.mem_singleton]
  constructor
  · rintro ⟨mem, eq⟩
    exact h.eq_of_id_eq mem ha eq
  · rintro rfl
    exact ⟨ha, rfl⟩

end Issued

/-- A slot row is the one for a slot of a day, as the store writes it. -/
def SlotRow.Names (row : SlotRow) (date : Date) (number : SlotNumber) : Prop :=
  row.date = date.text ∧ row.number = .integer number.number

instance (row : SlotRow) (date : Date) (number : SlotNumber) : Decidable (row.Names date number) :=
  inferInstanceAs (Decidable (_ ∧ _))

/-- The rows of a ledger are as the store writes them, and fit together. -/
structure Ledger.Consistent (ledger : Ledger) : Prop where
  employee_ids : Issued (ledger.employees.map (·.id.number)) ledger.employeesIssued
  slot_ids : Issued (ledger.slots.map (·.id.number)) ledger.slotsIssued
  assignment_ids : Issued (ledger.assignments.map (·.id.number)) ledger.assignmentsIssued
  employee_role : ∀ row ∈ ledger.employees, ∃ role : Role, row.role = role.name
  slot_named : ∀ row ∈ ledger.slots, ∃ date number, row.Names date number
  slot_unique : ∀ a ∈ ledger.slots, ∀ b ∈ ledger.slots, a.date = b.date → a.number = b.number →
    a.id = b.id
  assignment_role : ∀ row ∈ ledger.assignments, ∃ role : Role, row.role = role.name
  assignment_employee : ∀ row ∈ ledger.assignments, ∃ e ∈ ledger.employees, e.id = row.employee
  assignment_slot : ∀ row ∈ ledger.assignments, ∃ s ∈ ledger.slots, s.id = row.slot
  assignment_unique : ∀ a ∈ ledger.assignments, ∀ b ∈ ledger.assignments,
    a.employee = b.employee → a.slot = b.slot → a.id = b.id

namespace Ledger

/-- The ledger with one more assignment, which takes the next identifier. -/
def addAssignment (ledger : Ledger) (employee : EmployeeId) (slot : SlotId) (role : Role) :
    Ledger :=
  { ledger with
    assignments :=
      ledger.assignments ++ [⟨⟨ledger.assignmentsIssued + 1⟩, employee, slot, role.name⟩]
    assignmentsIssued := ledger.assignmentsIssued + 1 }

/-- The ledger with only those assignments that pass a test. -/
def keepAssignments (ledger : Ledger) (keep : AssignmentRow → Bool) : Ledger :=
  { ledger with assignments := ledger.assignments.filter keep }

section EnsureSlot

variable (ledger : Ledger) (date : Date) (number : SlotNumber)

/-- Ensuring the slot of a day finds its row, or adds one if no row names the slot. Either way an
identifier is used up. -/
theorem ensureSlot_cases :
    (∃ row ∈ ledger.slots, row.Names date number ∧ ledger.ensureSlot date number =
      (⟨row.id, date, number⟩, { ledger with slotsIssued := ledger.slotsIssued + 1 })) ∨
    ((∀ row ∈ ledger.slots, ¬ row.Names date number) ∧ ledger.ensureSlot date number =
      (⟨⟨(ledger.slotsIssued + 1 : Nat)⟩, date, number⟩,
        { ledger with
          slots := ledger.slots ++
            [⟨⟨(ledger.slotsIssued + 1 : Nat)⟩, date.text, .integer number.number⟩]
          slotsIssued := ledger.slotsIssued + 1 })) := by
  cases found : ledger.findSlot? date number with
  | some row =>
    have mem := List.mem_of_find?_eq_some found
    have names := List.find?_some found
    rw [decide_eq_true_eq] at names
    exact .inl ⟨row, mem, names, by simp only [ensureSlot, found]⟩
  | none =>
    have absent := List.find?_eq_none.mp found
    refine .inr ⟨fun row mem names => absent row mem (decide_eq_true names), ?_⟩
    simp only [ensureSlot, found]

/-- Ensuring the slot of a day leaves the assignments alone. -/
@[simp] theorem ensureSlot_assignments :
    (ledger.ensureSlot date number).2.assignments = ledger.assignments := by
  rcases ledger.ensureSlot_cases date number with ⟨row, -, -, eq⟩ | ⟨-, eq⟩ <;> rw [eq]

/-- Ensuring the slot of a day leaves the table of staff alone. -/
@[simp] theorem ensureSlot_employees :
    (ledger.ensureSlot date number).2.employees = ledger.employees := by
  rcases ledger.ensureSlot_cases date number with ⟨row, -, -, eq⟩ | ⟨-, eq⟩ <;> rw [eq]

/-- Ensuring the slot of a day uses up no identifier of an assignment. -/
@[simp] theorem ensureSlot_assignmentsIssued :
    (ledger.ensureSlot date number).2.assignmentsIssued = ledger.assignmentsIssued := by
  rcases ledger.ensureSlot_cases date number with ⟨row, -, -, eq⟩ | ⟨-, eq⟩ <;> rw [eq]

/-- Ensuring the slot of a day uses up no identifier of an employee. -/
@[simp] theorem ensureSlot_employeesIssued :
    (ledger.ensureSlot date number).2.employeesIssued = ledger.employeesIssued := by
  rcases ledger.ensureSlot_cases date number with ⟨row, -, -, eq⟩ | ⟨-, eq⟩ <;> rw [eq]

/-- The slot that is answered is for the day that was asked for. -/
@[simp] theorem ensureSlot_date : (ledger.ensureSlot date number).1.date = date := by
  rcases ledger.ensureSlot_cases date number with ⟨row, -, -, eq⟩ | ⟨-, eq⟩ <;> rw [eq]

/-- The slot that is answered has the number that was asked for. -/
@[simp] theorem ensureSlot_number : (ledger.ensureSlot date number).1.number = number := by
  rcases ledger.ensureSlot_cases date number with ⟨row, -, -, eq⟩ | ⟨-, eq⟩ <;> rw [eq]

/-- The slot that is answered has a row in the ledger that is left behind. -/
theorem exists_ensureSlot_row : ∃ row ∈ (ledger.ensureSlot date number).2.slots,
    row.id = (ledger.ensureSlot date number).1.id ∧ row.Names date number := by
  rcases ledger.ensureSlot_cases date number with ⟨row, mem, names, eq⟩ | ⟨-, eq⟩
  · exact ⟨row, by rw [eq]; exact mem, by rw [eq], names⟩
  · rw [eq]
    exact ⟨_, List.mem_append_right _ List.mem_cons_self, rfl, rfl, rfl⟩

end EnsureSlot

namespace Consistent

variable {ledger : Ledger}

/-- An empty ledger is consistent. -/
theorem empty : Consistent {} where
  employee_ids := Issued.nil _
  slot_ids := Issued.nil _
  assignment_ids := Issued.nil _
  employee_role := by simp
  slot_named := by simp
  slot_unique := by simp
  assignment_role := by simp
  assignment_employee := by simp
  assignment_slot := by simp
  assignment_unique := by simp

/-- Slot rows with the same identifier are the same. -/
theorem slot_eq (h : ledger.Consistent) {a b : SlotRow} (ha : a ∈ ledger.slots)
    (hb : b ∈ ledger.slots) (eq : a.id = b.id) : a = b :=
  h.slot_ids.eq_of_id_eq ha hb (congrArg SlotId.number eq)

/-- The identifier of a slot row picks out that row. -/
theorem filter_slots (h : ledger.Consistent) {slot : SlotRow} (mem : slot ∈ ledger.slots) :
    (ledger.slots.filter fun row => row.id = slot.id) = [slot] := by
  rw [← h.slot_ids.filter_eq_singleton mem]
  congr 1
  funext row
  rw [decide_eq_decide]
  exact Iff.of_eq (SlotId.mk.injEq row.id.number slot.id.number)

/-- Registering a member of staff keeps a ledger consistent. -/
theorem registerEmployee (h : ledger.Consistent) (name : String) (role : Role) :
    (ledger.registerEmployee name role).2.Consistent where
  employee_ids := by
    simp only [Ledger.registerEmployee, List.map_append, List.map_cons, List.map_nil]
    exact h.employee_ids.append_next
  slot_ids := h.slot_ids
  assignment_ids := h.assignment_ids
  employee_role := by
    intro row mem
    simp only [Ledger.registerEmployee, List.mem_append, List.mem_singleton] at mem
    rcases mem with mem | rfl
    · exact h.employee_role row mem
    · exact ⟨role, rfl⟩
  slot_named := h.slot_named
  slot_unique := h.slot_unique
  assignment_role := h.assignment_role
  assignment_employee := by
    intro row mem
    obtain ⟨e, he, eq⟩ := h.assignment_employee row mem
    exact ⟨e, List.mem_append_left _ he, eq⟩
  assignment_slot := h.assignment_slot
  assignment_unique := h.assignment_unique

/-- Ensuring the slot of a day keeps a ledger consistent, whether or not a row is added. -/
theorem ensureSlot (h : ledger.Consistent) (date : Date) (number : SlotNumber) :
    (ledger.ensureSlot date number).2.Consistent := by
  rcases ledger.ensureSlot_cases date number with ⟨row, -, -, eq⟩ | ⟨absent, eq⟩ <;> rw [eq]
  · exact { h with slot_ids := h.slot_ids.mono (Nat.le_succ _) }
  · refine { h with slot_ids := ?_, slot_named := ?_, slot_unique := ?_, assignment_slot := ?_ }
    · simp only [List.map_append, List.map_cons, List.map_nil, Int.natCast_add, Int.natCast_one]
      exact h.slot_ids.append_next
    · intro row mem
      rw [List.mem_append, List.mem_singleton] at mem
      rcases mem with mem | rfl
      · exact h.slot_named row mem
      · exact ⟨date, number, rfl, rfl⟩
    · intro a ha b hb same_date same_number
      rw [List.mem_append, List.mem_singleton] at ha hb
      rcases ha with ha | rfl <;> rcases hb with hb | rfl
      · exact h.slot_unique a ha b hb same_date same_number
      · exact absurd ⟨same_date, same_number⟩ (absent a ha)
      · exact absurd ⟨same_date.symm, same_number.symm⟩ (absent b hb)
      · rfl
    · intro row mem
      obtain ⟨s, hs, same⟩ := h.assignment_slot row mem
      exact ⟨s, List.mem_append_left _ hs, same⟩

/-- Adding an assignment keeps a ledger consistent if the employee and the slot are there and the
employee does not hold the slot yet. -/
theorem addAssignment (h : ledger.Consistent) {employee : EmployeeId} {slot : SlotId} (role : Role)
    (fresh : ledger.isAssigned employee slot = false)
    (known_employee : ∃ e ∈ ledger.employees, e.id = employee)
    (known_slot : ∃ s ∈ ledger.slots, s.id = slot) :
    (ledger.addAssignment employee slot role).Consistent := by
  have apart : ∀ row ∈ ledger.assignments, row.employee = employee → row.slot ≠ slot := by
    intro row mem same_employee same_slot
    simp only [isAssigned, List.any_eq_false, decide_eq_true_eq] at fresh
    exact fresh row mem ⟨same_employee, same_slot⟩
  refine { h with
    assignment_ids := ?_, assignment_role := ?_, assignment_employee := ?_
    assignment_slot := ?_, assignment_unique := ?_ }
  · simp only [Ledger.addAssignment, List.map_append, List.map_cons, List.map_nil]
    exact h.assignment_ids.append_next
  · intro row mem
    rw [Ledger.addAssignment, List.mem_append, List.mem_singleton] at mem
    rcases mem with mem | rfl
    · exact h.assignment_role row mem
    · exact ⟨role, rfl⟩
  · intro row mem
    rw [Ledger.addAssignment, List.mem_append, List.mem_singleton] at mem
    rcases mem with mem | rfl
    · exact h.assignment_employee row mem
    · exact known_employee
  · intro row mem
    rw [Ledger.addAssignment, List.mem_append, List.mem_singleton] at mem
    rcases mem with mem | rfl
    · exact h.assignment_slot row mem
    · exact known_slot
  · intro a ha b hb same_employee same_slot
    rw [Ledger.addAssignment, List.mem_append, List.mem_singleton] at ha hb
    rcases ha with ha | rfl <;> rcases hb with hb | rfl
    · exact h.assignment_unique a ha b hb same_employee same_slot
    · exact absurd same_slot (apart a ha same_employee)
    · exact absurd same_slot.symm (apart b hb same_employee.symm)
    · rfl

/-- Dropping assignments keeps a ledger consistent. -/
theorem keepAssignments (h : ledger.Consistent) (keep : AssignmentRow → Bool) :
    (ledger.keepAssignments keep).Consistent where
  employee_ids := h.employee_ids
  slot_ids := h.slot_ids
  assignment_ids := h.assignment_ids.sublist (List.filter_sublist.map _)
  employee_role := h.employee_role
  slot_named := h.slot_named
  slot_unique := h.slot_unique
  assignment_role := fun row mem => h.assignment_role row (List.mem_of_mem_filter mem)
  assignment_employee := fun row mem => h.assignment_employee row (List.mem_of_mem_filter mem)
  assignment_slot := fun row mem => h.assignment_slot row (List.mem_of_mem_filter mem)
  assignment_unique := fun a ha b hb =>
    h.assignment_unique a (List.mem_of_mem_filter ha) b (List.mem_of_mem_filter hb)

end Consistent

end Ledger

end DutyRoster
