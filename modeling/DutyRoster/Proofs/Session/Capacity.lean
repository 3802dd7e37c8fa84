import DutyRoster.Proofs.Session.Run
import DutyRoster.Proofs.Store.Listing

/-!
# Capacities hold along every run

The store counts the people of a role in a slot before it books one more, and books only below the
capacity that it was given. Hence a step raises a count at most to the capacity that it applies
(`Session.Effect.roleCount_le`), and counts stay below any table whose capacities are the ones that
are applied. No other check is needed for this, so that it does not matter whether a booking comes
from a planner or goes to the store directly, nor what the limits were at other times.

Two operations are left out (`Operation.isChecked`): the one that adds an assignment without asking
for capacity, and the one that overwrites stored values.
-/

set_option autoImplicit false

namespace DutyRoster

namespace Ledger

variable (ledger : Ledger) (slot : SlotId) (role : Role)

/-- Ensuring the slot of a day leaves all counts as they are. -/
theorem roleCount_ensureSlot (date : Date) (number : SlotNumber) :
    (ledger.ensureSlot date number).2.roleCount slot role = ledger.roleCount slot role := by
  simp only [roleCount, ensureSlot_assignments]

/-- Registering members of staff leaves all counts as they are. -/
theorem roleCount_enrol (rows : List NewEmployee) :
    (ledger.enrol rows).roleCount slot role = ledger.roleCount slot role := by
  refine enrol_induction (P := fun after => after.roleCount slot role = ledger.roleCount slot role)
    ?_ rfl rows
  intro after name role eq
  exact eq

/-- An assignment that is added raises the count of its slot and role by one, and no other. -/
theorem roleCount_addAssignment (employee : EmployeeId) (own : SlotId) (own_role : Role) :
    (ledger.addAssignment employee own own_role).roleCount slot role =
      ledger.roleCount slot role + if own = slot ∧ own_role = role then 1 else 0 := by
  have same : own_role.name = role.name ↔ own_role = role :=
    ⟨Role.name_injective, fun eq => by rw [eq]⟩
  simp only [roleCount, addAssignment, List.countP_append, List.countP_singleton, same,
    decide_eq_true_eq]

/-- Dropping assignments raises no count. -/
theorem roleCount_keepAssignments_le (keep : AssignmentRow → Bool) :
    (ledger.keepAssignments keep).roleCount slot role ≤ ledger.roleCount slot role :=
  List.filter_sublist.countP_le

/-- A role that is counted nowhere has no assignment. -/
theorem role_ne_of_roleCount {ledger : Ledger} {role : Role}
    (none : ∀ slot, ledger.roleCount slot role = 0) :
    ∀ row ∈ ledger.assignments, row.role ≠ role.name := by
  intro row mem eq
  have zero := none row.slot
  rw [roleCount, List.countP_eq_zero] at zero
  exact zero row mem (decide_eq_true ⟨rfl, eq⟩)

/-- The seats taken stay below every bound on counts, being what is counted in a row. -/
theorem Consistent.seats_lt {ledger : Ledger} (h : ledger.Consistent) {bound : Nat}
    (fits : ∀ slot role, ledger.roleCount slot role < bound) (date : Date) (number : SlotNumber)
    (role : Role) : ledger.seats date number role < bound := by
  rw [← h.roleCount_ensureSlot, Ledger.roleCount_ensureSlot]
  exact fits _ role

/-- What the store lists for an employee is all that the employee holds, and no slot of a day is
listed twice. -/
theorem Consistent.listAssignments_nodup {ledger : Ledger} (h : ledger.Consistent)
    (employee : EmployeeId) : ∃ list, ledger.listAssignments employee none = .ok list ∧
      list.length = ledger.assignments.countP (fun row => row.employee = employee) ∧
      (list.map fun shift => (shift.date, shift.number)).Nodup := by
  obtain ⟨list, eq, perm, length⟩ := h.listAssignments_all employee
  refine ⟨list, eq, length, ?_⟩
  rw [(perm.map _).nodup_iff]
  refine (h.nodup_shifts.of_map.filter _).map_on ?_
  intro a ha b hb same
  rw [List.mem_filter, decide_eq_true_eq] at ha hb
  rw [Prod.mk.injEq] at same
  exact h.shift_eq ha.1 hb.1 (ha.2.trans hb.2.symm) same.1 same.2

end Ledger

namespace Session

/-- The capacity that a step applies to a role: that of the booking which it asks the store to make,
if it is one for the role. -/
def appliedCapacity (session : Session) (operation : Operation) (role : Role) : Nat :=
  match session.bookingRequest? operation with
  | some request => if request.role = role then request.capacity.toNat else 0
  | none => 0

/-- If a step asks the store to make a booking, it applies the capacities of a table. -/
def UsesTable (table : CapacityTable) (session : Session) (operation : Operation) : Prop :=
  ∀ request ∈ session.bookingRequest? operation, request.capacity = table.capacity request.role

instance (table : CapacityTable) (session : Session) (operation : Operation) :
    Decidable (UsesTable table session operation) :=
  inferInstanceAs (Decidable (∀ request ∈ session.bookingRequest? operation, _))

/-- Capacities that are applied fit into 32 bits. -/
theorem appliedCapacity_lt (session : Session) (operation : Operation) (role : Role) :
    session.appliedCapacity operation role < 4294967296 := by
  unfold appliedCapacity
  cases session.bookingRequest? operation with
  | none => exact Nat.zero_lt_succ _
  | some request =>
    by_cases same : request.role = role
    · simp only [same, if_true]
      exact request.capacity.toNat_lt
    · simp only [same, if_false]
      exact Nat.zero_lt_succ _

/-- A step that applies the capacities of a table applies no larger ones. -/
theorem UsesTable.appliedCapacity_le {table : CapacityTable} {session : Session}
    {operation : Operation} (h : UsesTable table session operation) (role : Role) :
    session.appliedCapacity operation role ≤ (table.capacity role).toNat := by
  unfold appliedCapacity
  cases asked : session.bookingRequest? operation with
  | none => exact Nat.zero_le _
  | some request =>
    by_cases same : request.role = role
    · simp only [same, if_true]
      rw [h request asked, same]
    · simp only [same, if_false]
      exact Nat.zero_le _

/-- No count grows beyond the capacity that is applied to it. -/
theorem Effect.roleCount_le {session : Session} {operation : Operation} {after : Ledger}
    (effect : session.Effect operation after) (checked : operation.isChecked = true) (slot : SlotId)
    (role : Role) : after.roleCount slot role ≤
      max (session.store.ledger.roleCount slot role) (session.appliedCapacity operation role) := by
  cases effect with
  | unchanged => exact Nat.le_max_left _ _
  | emptied => exact Nat.zero_le _
  | enrolled rows =>
    rw [Ledger.roleCount_enrol]
    exact Nat.le_max_left _ _
  | slotEnsured date number =>
    rw [Ledger.roleCount_ensureSlot]
    exact Nat.le_max_left _ _
  | @booked request asked granted =>
    have room := granted.room
    rw [BookingRequest.book, Ledger.withBooking, Ledger.roleCount_addAssignment]
    rw [Ledger.roleCount_ensureSlot] at room ⊢
    by_cases own : (session.store.ledger.ensureSlot request.date request.number).1.id = slot ∧
        request.role = role
    · -- the count that the store compared with the capacity is the one that grows
      have applied : session.appliedCapacity operation role = request.capacity.toNat := by
        simp only [appliedCapacity, asked, own.2, if_true]
      rw [own.1, own.2] at room
      rw [if_pos own, applied]
      exact Nat.le_trans room (Nat.le_max_right _ _)
    · rw [if_neg own]
      exact Nat.le_max_left _ _
  | removed employee date number =>
    exact Nat.le_trans (Ledger.roleCount_keepAssignments_le _ _ _ _) (Nat.le_max_left _ _)
  | created asked => simp [asked, Operation.isChecked] at checked
  | overwritten asked => simp [asked, Operation.isChecked] at checked

variable {start : Session} {operations : List Operation}

/-- Checked operations leave a consistent ledger behind. -/
theorem run_consistent (empty : start.store.ledger = {})
    (checked : ∀ operation ∈ operations, operation.isChecked = true) :
    (start.run operations).2.store.ledger.Consistent :=
  run_consistent_of_intact empty fun operation mem =>
    Operation.isIntact_of_isChecked (checked operation mem)

/-- Counts fit into 32 bits along every run of checked operations. -/
theorem run_roleCount_lt (empty : start.store.ledger = {})
    (checked : ∀ operation ∈ operations, operation.isChecked = true) (slot : SlotId) (role : Role) :
    (start.run operations).2.store.ledger.roleCount slot role < 4294967296 := by
  refine run_invariant (fun session => session.store.ledger.roleCount slot role < 4294967296) ?_ ?_
    (start.throughout_of_forall checked)
  · intro session operation fits checked
    have grown := (session.step_effect operation).roleCount_le checked slot role
    have applied := session.appliedCapacity_lt operation role
    omega
  · rw [empty]
    exact Nat.zero_lt_succ _

/-- Counts stay within a table along every run that applies its capacities. -/
theorem run_roleCount_le (empty : start.store.ledger = {})
    (checked : ∀ operation ∈ operations, operation.isChecked = true) {table : CapacityTable}
    (uses : start.Throughout (UsesTable table) operations) (slot : SlotId) (role : Role) :
    (start.run operations).2.store.ledger.roleCount slot role ≤ (table.capacity role).toNat := by
  refine run_invariant
    (fun session => session.store.ledger.roleCount slot role ≤ (table.capacity role).toNat)
    ?_ ?_ ((start.throughout_of_forall checked).and uses)
  · rintro session operation within ⟨checked, uses⟩
    have grown := (session.step_effect operation).roleCount_le checked slot role
    have applied := uses.appliedCapacity_le role
    omega
  · rw [empty]
    exact Nat.zero_le _

/-- Along every run of checked operations from an empty store, whatever the order and whatever the
limits: a step leaves the count of a slot and role at most at the larger of what it was and the
capacity that the step applies; if all capacities applied come from one table, counts stay within
it, and a role without capacity has no assignment; and nobody holds a slot of a day twice. -/
theorem run_within_capacity (empty : start.store.ledger = {})
    (checked : ∀ operation ∈ operations, operation.isChecked = true) :
    let session := (start.run operations).2
    (∀ operation, operation.isChecked = true → ∀ slot role, ∃ before after,
      session.store.ledger.countByRole slot role = .ok before ∧
      (session.step operation).2.store.ledger.countByRole slot role = .ok after ∧
      after ≤ max before (session.appliedCapacity operation role)) ∧
    (∀ table, start.Throughout (UsesTable table) operations →
      (∀ slot role, ∃ count, session.store.ledger.countByRole slot role = .ok count ∧
        count ≤ (table.capacity role).toNat) ∧
      ∀ role, table.capacity role = 0 →
        ∀ row ∈ session.store.ledger.assignments, row.role ≠ role.name) ∧
    (∀ employee, ∃ list, session.store.ledger.listAssignments employee none = .ok list ∧
      list.length = session.store.ledger.assignments.countP (fun row => row.employee = employee) ∧
      (list.map fun shift => (shift.date, shift.number)).Nodup) := by
  intro session
  have fits := run_roleCount_lt empty checked
  refine ⟨?_, ?_, ?_⟩
  · intro operation checked_step slot role
    have grown := (session.step_effect operation).roleCount_le checked_step slot role
    have applied := session.appliedCapacity_lt operation role
    have before : session.store.ledger.roleCount slot role < 4294967296 := fits slot role
    refine ⟨_, _, if_pos before, if_pos ?_, grown⟩
    omega
  · intro table uses
    have within := run_roleCount_le empty checked uses
    constructor
    · intro slot role
      exact ⟨_, if_pos (fits slot role), within slot role⟩
    · intro role zero
      apply Ledger.role_ne_of_roleCount
      intro slot
      have le := within slot role
      rw [zero] at le
      exact Nat.le_zero.mp le
  · exact (run_consistent empty checked).listAssignments_nodup

/-- Two medics ask for the same slot, one as a planner and one of the store; both bookings apply a
capacity of 2, and both are made. A third one finds the slot full. -/
theorem run_within_capacity_of_medics :
    let operations : List Operation :=
      [.register "Ada" "medic", .register "Bo" "Medic", .assign ⟨1⟩ "2020-08-01" 1,
        .commit ⟨2⟩ ⟨738003, by decide, by decide⟩ 1 "medic" 2, .register "Cy" "medic",
        .reopen ⟨⟨2, 0, 9⟩, 1, 1⟩, .assign ⟨3⟩ "2020-08-01" 1]
    let ledger := (sample.run operations).2.store.ledger
    sample.store.ledger = {} ∧ (∀ operation ∈ operations, operation.isChecked = true) ∧
      sample.Throughout (UsesTable {}) operations ∧ 0 < ledger.roleCount ⟨1⟩ .medic ∧
      ∃ count, ledger.countByRole ⟨1⟩ .medic = .ok count ∧ count ≤ 2 := by
  intro operations ledger
  have checked : ∀ operation ∈ operations, operation.isChecked = true := by decide
  have uses : sample.Throughout (UsesTable {}) operations := by decide +kernel
  have within := (run_within_capacity rfl checked).2.1 {} uses
  exact ⟨rfl, checked, uses, by decide +kernel, within.1 ⟨1⟩ .medic⟩

end Session

end DutyRoster
