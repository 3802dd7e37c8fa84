import DutyRoster.Proofs.Scheduler.Vetting
import DutyRoster.Proofs.Session.Run

/-!
# Requests that come to a booking

A request to assign that has passed its checks is decided by the shifts of the ledger alone, and so
is a request to remove that can be read. `Session.step_assign_eq` and `Session.step_remove_eq` give
the answer and the session that is left behind, with all the ends there are while nobody else holds
the write lock. Read the other way round, a request that is granted tells what was found on the way
(`Session.of_step_assign`, `Session.of_step_remove`).
-/

set_option autoImplicit false

namespace DutyRoster

section Requests

variable {store : Store} {employee : EmployeeId} {date : String} {slot : Nat}

/-- What has passed the checks is what was asked for, and the employee is on the staff. -/
theorem Ledger.Consistent.of_vetRequest (h : store.ledger.Consistent) {options : Options}
    {today : Date} {member : Employee} {day : Date} {number : SlotNumber}
    (passed : store.vetRequest options today employee date slot = .ok (member, day, number)) :
    member ∈ store.ledger.staff ∧ member.id = employee ∧ requestDate date = .ok day ∧
      SlotNumber.ofNumber? slot = some number := by
  rw [h.vetRequest_eq, vetting_eq_ok_iff] at passed
  obtain ⟨found, read, numbered, -⟩ := passed
  have own := List.find?_some found
  rw [decide_eq_true_eq] at own
  exact ⟨List.mem_of_find?_eq_some found, own, read, numbered⟩

/-- Changes that succeed are made while the lock is free. -/
theorem Store.lock_of_write {α : Type} {change : Ledger → Except StoreError α × Ledger} {value : α}
    (done : (store.write change).1 = .ok value) : store.lock = .free := by
  rcases store.write_cases change with ⟨free, -⟩ | ⟨-, cause, eq⟩
  · exact free
  · simp [eq] at done

/-- A date and a slot can be read from a request exactly if each of them can. -/
theorem readRequest_eq_ok_iff {day : Date} {number : SlotNumber} :
    (do return (← requestDate date, ← requestSlot slot)) = Except.ok (day, number) ↔
      requestDate date = .ok day ∧ SlotNumber.ofNumber? slot = some number := by
  cases requestDate date with
  | error cause => simp [bind, Except.bind]
  | ok read =>
    cases numbered : SlotNumber.ofNumber? slot with
    | none => simp [requestSlot, numbered, bind, Except.bind]
    | some found =>
      simp [requestSlot, numbered, bind, Except.bind, pure, Except.pure]

end Requests

namespace Session

variable {session : Session} {employee : EmployeeId} {date : String} {slot : Nat} {day : Date}
  {number : SlotNumber}

/-- The session with another ledger. -/
def withLedger (session : Session) (ledger : Ledger) : Session :=
  { session with store := { session.store with ledger } }

/-- The ledger is the one that is put in. -/
@[simp] theorem withLedger_ledger (session : Session) (ledger : Ledger) :
    (session.withLedger ledger).store.ledger = ledger := rfl

/-- Another ledger does not change the limits. -/
@[simp] theorem withLedger_options (session : Session) (ledger : Ledger) :
    (session.withLedger ledger).options = session.options := rfl

/-- A request to assign that does not pass its checks is refused for the first that fails, and
changes nothing. -/
theorem step_assign_of_error {cause : SchedulingError}
    (refused : session.store.vetRequest session.options session.today employee date slot =
      .error cause) :
    session.step (.assign employee date slot) = (ofRequest .receipt (.error cause), session) := by
  simp only [step, Store.assign, refused]

/-- A request to remove that cannot be read is refused for that, and changes nothing. -/
theorem step_remove_of_error {cause : SchedulingError}
    (refused : (do return (← requestDate date, ← requestSlot slot) :
      Except SchedulingError (Date × SlotNumber)) = .error cause) :
    session.step (.remove employee date slot) =
      (ofRequest (fun () => .done) (.error cause), session) := by
  simp only [step, Store.remove, refused]

/-- A request to assign that has passed its checks, all its ends: the employee holds the slot, or
the count does not fit, or the seats of the role are taken, or the booking is made. -/
theorem step_assign_eq (free : session.store.lock = .free) (h : session.store.ledger.Consistent)
    {member : Employee} (passed : session.store.vetRequest session.options session.today employee
      date slot = .ok (member, day, number)) :
    session.step (.assign employee date slot) =
      let ledger := session.store.ledger
      let capacity := session.options.capacity.capacity member.role
      let occupied := ledger.seats day number member.role
      if ledger.Holds member.id day number then
        (.error (.request (.alreadyAssigned member.id day number)), session)
      else if 4294967296 ≤ occupied then
        (.error (.request (.storage (.countOutOfRange occupied))), session)
      else if capacity.toNat ≤ occupied then
        (.error (.request (.capacityReached member.role day number capacity)), session)
      else
        (.ok (.receipt ⟨⟨ledger.assignmentsIssued + 1⟩, member.id, day, number⟩),
          session.withLedger (ledger.withBooking member.id day number member.role)) := by
  have known := h.exists_row_of_mem_staff (h.of_vetRequest passed).1
  simp only [step, Store.assign, passed]
  rcases session.store.write_cases (Ledger.commitAssignment member.id day number member.role
    (session.options.capacity.capacity member.role)) with ⟨-, eq⟩ | ⟨held, -⟩
  · rw [eq, h.commitAssignment_eq]
    dsimp only
    by_cases holds : session.store.ledger.Holds member.id day number
    · simp only [holds, if_true]
      rfl
    · by_cases fits : 4294967296 ≤ session.store.ledger.seats day number member.role
      · simp only [holds, fits, if_true, if_false]
        rfl
      · by_cases full : (session.options.capacity.capacity member.role).toNat ≤
            session.store.ledger.seats day number member.role
        · simp only [holds, fits, full, if_true, if_false]
          rfl
        · simp only [holds, fits, full, known, if_true, if_false]
          rfl
  · exact absurd free held

/-- A request to remove that can be read succeeds exactly if the employee holds the slot. -/
theorem step_remove_eq (free : session.store.lock = .free) (h : session.store.ledger.Consistent)
    (read : requestDate date = .ok day) (numbered : SlotNumber.ofNumber? slot = some number)
    (employee : EmployeeId) : session.step (.remove employee date slot) =
      if session.store.ledger.Holds employee day number then
        (.ok .done, session.withLedger (session.store.ledger.withoutBooking employee day number))
      else (.error (.request (.noAssignment employee day number)), session) := by
  have request := readRequest_eq_ok_iff.mpr ⟨read, numbered⟩
  simp only [step, Store.remove, request]
  rcases session.store.write_cases (Ledger.removeAssignment employee day number) with
    ⟨-, eq⟩ | ⟨held, -⟩
  · rw [eq, h.removeAssignment_eq]
    by_cases holds : session.store.ledger.Holds employee day number
    · simp only [holds, if_true]
      rfl
    · simp only [holds, if_false]
      rfl
  · exact absurd free held

/-- What a request to assign has found if it is granted. -/
theorem of_step_assign (h : session.store.ledger.Consistent) {reply : Reply}
    (granted : (session.step (.assign employee date slot)).1 = .ok reply) :
    session.store.lock = .free ∧ ∃ member ∈ session.store.ledger.staff, ∃ day number,
      member.id = employee ∧ requestDate date = .ok day ∧
      SlotNumber.ofNumber? slot = some number ∧
      ¬ session.store.ledger.Holds employee day number ∧
      reply = .receipt ⟨⟨session.store.ledger.assignmentsIssued + 1⟩, employee, day, number⟩ ∧
      (session.step (.assign employee date slot)).2 =
        session.withLedger (session.store.ledger.withBooking employee day number member.role) := by
  cases vetted : session.store.vetRequest session.options session.today employee date slot with
  | error cause =>
    simp only [step, Store.assign, vetted, ofRequest] at granted
    split at granted <;> simp_all
  | ok request =>
    obtain ⟨member, day, number⟩ := request
    obtain ⟨on_staff, rfl, read, numbered⟩ := h.of_vetRequest vetted
    have free : session.store.lock = .free := by
      cases written : (session.store.write (Ledger.commitAssignment member.id day number
        member.role (session.options.capacity.capacity member.role))).1 with
      | ok outcome => exact Store.lock_of_write written
      | error cause =>
        simp [step, Store.assign, vetted, written, Store.receipt, ofRequest] at granted
    have answered := step_assign_eq free h vetted
    refine ⟨free, member, on_staff, day, number, rfl, read, numbered, ?_⟩
    dsimp only at answered
    split_ifs at answered with holds fits full <;> rw [answered] at granted ⊢
    · cases granted
    · cases granted
    · cases granted
    · simp only [Except.ok.injEq] at granted
      exact ⟨holds, granted.symm, rfl⟩

/-- What a request to remove has found if it is granted. -/
theorem of_step_remove (h : session.store.ledger.Consistent) {reply : Reply}
    (granted : (session.step (.remove employee date slot)).1 = .ok reply) :
    ∃ day number, requestDate date = .ok day ∧ SlotNumber.ofNumber? slot = some number ∧
      session.store.ledger.Holds employee day number ∧
      (session.step (.remove employee date slot)).2 =
        session.withLedger (session.store.ledger.withoutBooking employee day number) := by
  cases request : (do return (← requestDate date, ← requestSlot slot) :
      Except SchedulingError (Date × SlotNumber)) with
  | error cause =>
    simp only [step, Store.remove, request, ofRequest] at granted
    split at granted <;> simp_all
  | ok place =>
    obtain ⟨day, number⟩ := place
    obtain ⟨read, numbered⟩ := readRequest_eq_ok_iff.mp request
    have free : session.store.lock = .free := by
      cases written : (session.store.write (Ledger.removeAssignment employee day number)).1 with
      | ok outcome => exact Store.lock_of_write written
      | error cause =>
        simp only [step, Store.remove, request, written] at granted
        cases cause <;> simp [Store.removalAnswer, ofRequest] at granted
    have answered := step_remove_eq free h read numbered employee
    refine ⟨day, number, read, numbered, ?_⟩
    split_ifs at answered with holds <;> rw [answered] at granted ⊢
    · exact ⟨holds, rfl⟩
    · cases granted

end Session

end DutyRoster
