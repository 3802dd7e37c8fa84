import DutyRoster.Proofs.Session.Run
import DutyRoster.Proofs.Scheduler.Vetting

/-!
# The directory along a run

Members of staff are registered and never changed, so the directory at the end of a run is known
from the operations and from which of them succeeded, without looking at a table: it is the roll of
the run, numbered from 1 (`Session.run_enrolled`). Only opening a store that is not kept in a file
starts the roll anew.

An assignment has the role of the employee at the time it was made. If bookings are made through the
scheduler only, this stays the role that the employee has in the directory
(`Ledger.RolesMatch`), because neither of the two ever changes.
-/

set_option autoImplicit false

namespace DutyRoster

/-- The members of staff that registrations lead to: numbered from 1 in the order in which they were
registered. -/
def membersOf (roll : List NewEmployee) : List Employee :=
  roll.mapIdx fun i row => ⟨⟨(i : Int) + 1⟩, row.name, row.role⟩

/-- Whoever is registered last comes last, with the next number. -/
theorem membersOf_append_singleton (roll : List NewEmployee) (row : NewEmployee) :
    membersOf (roll ++ [row]) =
      membersOf roll ++ [⟨⟨(roll.length : Int) + 1⟩, row.name, row.role⟩] := by
  simp only [membersOf, List.mapIdx_concat]

namespace Ledger

/-- The staff of a ledger are those on a roll, and no identifier was issued to anybody else. -/
structure Enrolled (ledger : Ledger) (roll : List NewEmployee) : Prop where
  staff : ledger.staff = membersOf roll
  issued : ledger.employeesIssued = roll.length

/-- Those who are registered on top of a roll come after those on it. -/
theorem Enrolled.enrol {ledger : Ledger} {roll : List NewEmployee} (h : ledger.Enrolled roll)
    (rows : List NewEmployee) : (ledger.enrol rows).Enrolled (roll ++ rows) := by
  induction rows generalizing ledger roll with
  | nil =>
    rw [List.append_nil]
    exact h
  | cons row rows ih =>
    have next : (ledger.registerEmployee row.name row.role).2.Enrolled (roll ++ [row]) := by
      constructor
      · rw [staff_registerEmployee, h.staff, h.issued, membersOf_append_singleton]
      · rw [List.length_append, List.length_singleton, ← h.issued]
        rfl
    have rest := ih next
    rwa [List.append_assoc, List.singleton_append] at rest

/-- Every shift is held by a member of staff, in the role of that member. -/
def RolesMatch (ledger : Ledger) : Prop :=
  ∀ shift ∈ ledger.shifts, ∃ member ∈ ledger.staff,
    member.id = shift.employee ∧ member.role = shift.role

namespace RolesMatch

variable {ledger after : Ledger}

/-- Roles still match if no shift is added and nobody leaves the staff. -/
theorem of_subset (h : ledger.RolesMatch)
    (shifts : ∀ shift ∈ after.shifts, shift ∈ ledger.shifts)
    (staff : ∀ member ∈ ledger.staff, member ∈ after.staff) : after.RolesMatch := by
  intro shift mem
  obtain ⟨member, on_staff, same⟩ := h shift (shifts shift mem)
  exact ⟨member, staff member on_staff, same⟩

/-- Roles still match after a booking that is made in the role of a member of staff. -/
theorem withBooking (h : ledger.RolesMatch) (consistent : ledger.Consistent) {member : Employee}
    (on_staff : member ∈ ledger.staff) (date : Date) (number : SlotNumber) :
    (ledger.withBooking member.id date number member.role).RolesMatch := by
  intro shift mem
  rw [consistent.shifts_withBooking, List.mem_append, List.mem_singleton] at mem
  rw [staff_withBooking]
  rcases mem with old | rfl
  · exact h shift old
  · exact ⟨member, on_staff, rfl, rfl⟩

end RolesMatch

/-- Whoever is on the staff stays on it when others are registered. -/
theorem staff_subset_enrol (rows : List NewEmployee) (ledger : Ledger) :
    ∀ member ∈ ledger.staff, member ∈ (ledger.enrol rows).staff := by
  refine enrol_induction (P := fun after => ∀ member ∈ ledger.staff, member ∈ after.staff)
    ?_ (fun _ mem => mem) rows
  intro after name role kept member mem
  rw [staff_registerEmployee]
  exact List.mem_append_left _ (kept member mem)

/-- Different members of staff have different identifiers, and those registered later have larger
ones. -/
theorem Consistent.ascending_staff {ledger : Ledger} (h : ledger.Consistent) :
    ledger.staff.Pairwise fun a b => a.id.number < b.id.number := by
  have numbers : ledger.staff.map (·.id.number) = ledger.employees.map (·.id.number) := by
    have readable := h.employee_role
    unfold staff
    generalize ledger.employees = rows at readable ⊢
    induction rows with
    | nil => rfl
    | cons row rows ih =>
      obtain ⟨role, written⟩ := readable row List.mem_cons_self
      have rest := ih fun other mem => readable other (List.mem_cons_of_mem _ mem)
      rw [List.filterMap_cons_some (by rw [EmployeeRow.read_of_role written]; rfl), List.map_cons,
        List.map_cons, rest]
  have ascending := h.employee_ids.ascending
  rw [← numbers, List.pairwise_map] at ascending
  exact ascending

/-- Somebody on the staff is found under the own identifier. -/
theorem Consistent.find?_staff {ledger : Ledger} (h : ledger.Consistent) {member : Employee}
    (mem : member ∈ ledger.staff) :
    (ledger.staff.find? fun other => other.id = member.id) = some member := by
  have numbers : (ledger.staff.map fun other => other.id.number).Nodup := by
    rw [List.Nodup, List.pairwise_map]
    exact h.ascending_staff.imp Int.ne_of_lt
  cases found : ledger.staff.find? fun other => other.id = member.id with
  | none =>
    have absent := List.find?_eq_none.mp found member mem
    simp at absent
  | some other =>
    have same := List.find?_some found
    rw [decide_eq_true_eq] at same
    rw [List.inj_on_of_nodup_map numbers (List.mem_of_find?_eq_some found) mem
      (congrArg EmployeeId.number same)]

end Ledger

namespace Session

/-- The roll after a step: what is asked to be registered is on it if the step succeeds. A store
that is not kept in a file is empty when it is opened again. -/
def rollAfter (session : Session) (roll : List NewEmployee) (operation : Operation) :
    List NewEmployee :=
  let kept := if operation.opensStore ∧ session.durable = false then [] else roll
  match (session.step operation).1 with
  | .ok _ => kept ++ operation.newStaff
  | .error _ => kept

/-- The members of staff that are registered when a run has been made, in the order in which they
were registered, if those on a roll are there at its start. -/
def roll : Session → List NewEmployee → List Operation → List NewEmployee
  | _, roll, [] => roll
  | session, roll, operation :: rest =>
    (session.step operation).2.roll (session.rollAfter roll operation) rest

variable {session : Session} {operation : Operation} {roll : List NewEmployee} {after : Ledger}

/-- An operation that registers nobody leaves the directory as it is. -/
theorem Effect.enrolled_of_newStaff_eq_nil (effect : session.Effect operation after)
    (intact : operation.isIntact = true) (stays : operation.opensStore = false)
    (nobody : operation.newStaff = []) (h : session.store.ledger.Enrolled roll) :
    after.Enrolled roll := by
  cases effect with
  | unchanged => exact h
  | emptied _ asked => simp [asked, Operation.opensStore] at stays
  | enrolled rows asked =>
    rw [← asked, nobody]
    exact h
  | slotEnsured date number =>
    constructor
    · rw [Ledger.staff_ensureSlot, h.staff]
    · rw [Ledger.ensureSlot_employeesIssued, h.issued]
  | @booked request asked granted =>
    constructor
    · rw [BookingRequest.book, Ledger.staff_withBooking, h.staff]
    · exact (Ledger.ensureSlot_employeesIssued _ request.date request.number).trans h.issued
  | removed employee date number => exact ⟨h.staff, h.issued⟩
  | created asked fresh known_employee known_slot => exact ⟨h.staff, h.issued⟩
  | overwritten asked => simp [asked, Operation.isIntact] at intact

/-- A step leaves a directory behind that is as the roll after it says. -/
theorem step_enrolled (h : session.store.ledger.Enrolled roll)
    (intact : operation.isIntact = true) :
    (session.step operation).2.store.ledger.Enrolled (session.rollAfter roll operation) := by
  have effect := session.step_effect operation
  -- three operations change the roll; of the others it is enough to know what their effect is
  have by_effect (stays : operation.opensStore = false) (nobody : operation.newStaff = []) :
      (session.step operation).2.store.ledger.Enrolled (session.rollAfter roll operation) := by
    have same : session.rollAfter roll operation = roll := by
      unfold rollAfter
      rw [stays, nobody]
      cases (session.step operation).1 <;> simp
    rw [same]
    exact effect.enrolled_of_newStaff_eq_nil intact stays nobody h
  cases operation with
  | register name role =>
    simp only [rollAfter, step, change, Operation.opensStore, Bool.false_eq_true, false_and,
      if_false]
    cases read : readRole role with
    | error refusal => exact h
    | ok role =>
      dsimp only
      rcases session.store.write_cases (Ledger.registerEmployee name role) with
        ⟨-, eq⟩ | ⟨-, cause, eq⟩ <;> rw [eq]
      · rw [Operation.newStaff_register read]
        exact h.enrol [⟨name, role⟩]
      · exact h
  | importStaff octets =>
    simp only [rollAfter, Operation.opensStore, Bool.false_eq_true, false_and, if_false]
    rcases session.step_importStaff_cases octets with ⟨staff, read, eq⟩ | ⟨refusal, eq⟩ <;> rw [eq]
    · simp only [Operation.newStaff, read]
      exact h.enrol staff
    · exact h
  | reopen options =>
    simp only [rollAfter, step, Operation.opensStore, Operation.newStaff, List.append_nil,
      true_and]
    cases durable : session.durable with
    | true => simpa using h
    | false => exact ⟨rfl, rfl⟩
  | _ => exact by_effect rfl rfl

/-- Roles match after a vetted step if they match before it. -/
theorem Effect.rolesMatch (effect : session.Effect operation after)
    (vetted : operation.isVetted = true) (consistent : session.store.ledger.Consistent)
    (h : session.store.ledger.RolesMatch) : after.RolesMatch := by
  cases effect with
  | unchanged => exact h
  | emptied => exact fun _ mem => nomatch mem
  | enrolled rows asked =>
    refine h.of_subset ?_ (Ledger.staff_subset_enrol rows _)
    rw [Ledger.shifts_enrol]
    exact fun _ mem => mem
  | slotEnsured date number =>
    apply h.of_subset
    · rw [consistent.shifts_ensureSlot]
      exact fun _ mem => mem
    · rw [Ledger.staff_ensureSlot]
      exact fun _ mem => mem
  | booked asked granted =>
    obtain ⟨employee, date, slot, member, day, number, rfl, passed, rfl⟩ :=
      bookingRequest?_of_isVetted asked vetted
    rw [consistent.vetRequest_eq, vetting_eq_ok_iff] at passed
    exact h.withBooking consistent (List.mem_of_find?_eq_some passed.1) day number
  | removed employee date number =>
    refine h.of_subset ?_ fun _ mem => mem
    rw [consistent.shifts_withoutBooking]
    exact fun _ mem => List.mem_of_mem_filter mem
  | created asked => simp [asked, Operation.isVetted] at vetted
  | overwritten asked => simp [asked, Operation.isVetted] at vetted

variable {start : Session} {operations : List Operation}

/-- Along a run in which no stored value is overwritten, the directory is as the roll says. -/
theorem run_enrolled (h : start.store.ledger.Enrolled roll)
    (intact : ∀ operation ∈ operations, operation.isIntact = true) :
    (start.run operations).2.store.ledger.Enrolled (start.roll roll operations) := by
  induction operations generalizing start roll with
  | nil => exact h
  | cons operation rest ih =>
    have first := step_enrolled h (intact operation List.mem_cons_self)
    exact ih first fun later mem => intact later (List.mem_cons_of_mem operation mem)

/-- Along a run in which bookings are made through the scheduler only, every assignment keeps the
role that the employee has in the directory. -/
theorem run_rolesMatch (empty : start.store.ledger = {})
    (vetted : ∀ operation ∈ operations, operation.isVetted = true) :
    (start.run operations).2.store.ledger.RolesMatch := by
  suffices (start.run operations).2.store.ledger.Consistent ∧
      (start.run operations).2.store.ledger.RolesMatch from this.2
  refine run_invariant (fun session => session.store.ledger.Consistent ∧
    session.store.ledger.RolesMatch) ?_ ?_ (start.throughout_of_forall vetted)
  · rintro session operation ⟨consistent, roles⟩ vetted
    have effect := session.step_effect operation
    have checked := Operation.isChecked_of_isVetted vetted
    exact ⟨effect.consistent (Operation.isIntact_of_isChecked checked) consistent,
      effect.rolesMatch vetted consistent roles⟩
  · rw [empty]
    exact ⟨.empty, fun _ mem => nomatch mem⟩

end Session

end DutyRoster
