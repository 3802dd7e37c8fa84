import DutyRoster.Proofs.Session.Booking
import DutyRoster.Proofs.Session.Failures

/-!
# Booking in one transaction and in separate calls

Besides the booking in one transaction the store offers its parts one by one: a slot is found or
created, an employee is looked for in it, its assignments in a role are counted, and an assignment
is added. `Session.bookByCalls` is a caller who books a slot by these four, and decides in between
whether to go on.

While nobody else writes, the transaction answers as the caller would be answered in the end
(`Session.step_commit_eq_bookByCalls`). The two differ in what a request that is turned down leaves
behind. The caller has created the slot by then, or has used up an identifier for one that was there
already; the transaction has put the tables and the counts of identifiers back.
-/

set_option autoImplicit false

namespace DutyRoster.Session

variable (employee : EmployeeId) (date : Date) (number : SlotNumber) (slot : ShiftSlot)
  (role : Role) (capacity : UInt32) (session : Session)

/-- Books a slot that is there in separate calls: gives up if the employee is found in it, gives up
if the count of the role has reached the capacity, and adds the assignment. A call that fails is the
last, and its failure is the answer. -/
def bookSlotByCalls : Except Refusal Reply × Session :=
  match session.step (.isAssigned employee slot.id) with
  | (.ok (.truth true), session) => (.ok (.outcome (.alreadyAssigned slot)), session)
  | (.ok (.truth false), session) =>
    match session.step (.count slot.id role.name) with
    | (.ok (.number occupied), session) =>
      if capacity.toNat ≤ occupied then
        (.ok (.outcome (.capacityReached slot occupied)), session)
      else
        match session.step (.create employee slot.id role.name) with
        | (.ok (.assignmentId id), session) =>
          (.ok (.outcome (.committed ⟨id, employee, slot.id, slot.date, slot.number, role⟩)),
            session)
        | failed => failed
    | failed => failed
  | failed => failed

/-- Books a slot of a day in separate calls, the first of which finds or creates it. -/
def bookByCalls : Except Refusal Reply × Session :=
  match session.step (.slot date number.number) with
  | (.ok (.slot slot), session) => session.bookSlotByCalls employee slot role capacity
  | failed => failed

section Calls

/-- The name of a role is read as the role. -/
theorem readRole_name : readRole role.name = .ok role := by
  rw [readRole, Role.read_name]
  rfl

/-- The number of a slot is read as the slot. -/
theorem readSlot_number : readSlot number.number = .ok number :=
  readSlot_eq_ok_iff.mpr (SlotNumber.ofNumber?_number number)

/-- While the lock is free, a change of the store is the change of its ledger. -/
theorem change_of_free {α β : Type} (free : session.store.lock = .free) (argument : α)
    (run : α → Ledger → Except StoreError β × Ledger) (reply : β → Reply) :
    session.change (.ok argument) run reply =
      (ofStore reply (run argument session.store.ledger).1,
        session.withLedger (run argument session.store.ledger).2) := by
  simp only [change, Store.write, free, withLedger]

/-- While nothing can be written, every change is refused for the same reason. -/
theorem change_of_not_free (held : session.store.lock ≠ .free) :
    ∃ cause, cause ≠ .duplicateAssignment ∧ ∀ (α β : Type) (argument : α)
      (run : α → Ledger → Except StoreError β × Ledger) (reply : β → Reply),
        session.change (.ok argument) run reply = (.error (.store cause), session) := by
  cases lock : session.store.lock with
  | free => exact absurd lock held
  | heldElsewhere =>
    refine ⟨.lockTimeout, by simp, fun α β argument run reply => ?_⟩
    simp only [change, Store.write, lock, ofStore]
  | readOnly =>
    refine ⟨.readOnly, by simp, fun α β argument run reply => ?_⟩
    simp only [change, Store.write, lock, ofStore]

/-- The call for a slot is a change of the store that ensures the slot. -/
theorem step_slot_eq : session.step (.slot date number.number) =
    session.change (.ok number) (Ledger.getOrCreateSlot date) .slot := by
  rw [step, readSlot_number]

/-- The call for a count asks the store for it, and changes nothing. -/
theorem step_count_eq (slot : SlotId) : session.step (.count slot role.name) =
    (ofStore .number (session.store.ledger.countByRole slot role), session) := by
  rw [step, readRole_name]
  rfl

/-- The call for an assignment is a change of the store that adds it. -/
theorem step_create_eq (slot : SlotId) : session.step (.create employee slot role.name) =
    session.change (.ok role) (Ledger.createAssignment employee slot) .assignmentId := by
  rw [step, readRole_name]

/-- The call for a booking is a change of the store that makes it in one transaction. -/
theorem step_commit_eq :
    session.step (.commit employee date number.number role.name capacity) =
      session.change (.ok (role, number)) (fun (role, number) =>
        Ledger.commitAssignment employee date number role capacity) .outcome := by
  rw [step, readRole_name, readSlot_number]
  rfl

end Calls

/-- Booking a slot that is there in separate calls, all its ends. Only the last call changes
anything. It is not made for an employee who is in the slot already, so it fails only if there is no
such employee. -/
theorem bookSlotByCalls_eq (free : session.store.lock = .free)
    (known : ∃ row ∈ session.store.ledger.slots, row.id = slot.id) :
    session.bookSlotByCalls employee slot role capacity =
      let ledger := session.store.ledger
      let occupied := ledger.roleCount slot.id role
      if ledger.isAssigned employee slot.id then
        (.ok (.outcome (.alreadyAssigned slot)), session)
      else if 4294967296 ≤ occupied then (.error (.store (.countOutOfRange occupied)), session)
      else if capacity.toNat ≤ occupied then
        (.ok (.outcome (.capacityReached slot occupied)), session)
      else if ∃ row ∈ ledger.employees, row.id = employee then
        (.ok (.outcome (.committed ⟨⟨ledger.assignmentsIssued + 1⟩, employee, slot.id, slot.date,
            slot.number, role⟩)),
          session.withLedger (ledger.addAssignment employee slot.id role))
      else (.error (.store .unknownReference), session) := by
  have found : session.step (.isAssigned employee slot.id) =
      (.ok (.truth (session.store.ledger.isAssigned employee slot.id)), session) := rfl
  simp only [bookSlotByCalls, found, step_count_eq, Ledger.countByRole, boundedCount]
  by_cases assigned : session.store.ledger.isAssigned employee slot.id
  · simp only [assigned, if_true]
  · simp only [assigned, Bool.false_eq_true, if_false]
    by_cases fits : session.store.ledger.roleCount slot.id role < 4294967296
    · rw [if_pos fits, if_neg (Nat.not_le.mpr fits)]
      simp only [ofStore, step_create_eq, change_of_free session free, Ledger.createAssignment_eq,
        assigned, Bool.false_eq_true, if_false, known, and_true]
      by_cases full : capacity.toNat ≤ session.store.ledger.roleCount slot.id role
      · simp only [full, if_true]
      · by_cases there : ∃ row ∈ session.store.ledger.employees, row.id = employee
        · simp only [full, there, if_true, if_false]
        · simp only [full, there, if_false]
          rfl
    · rw [if_neg fits, if_pos (Nat.le_of_not_lt fits)]
      rfl

/-- Booking in one transaction answers as the separate calls do in the end, and leaves behind what
they leave if the booking is made. Otherwise it leaves everything as it was. The addition at the end
of the calls never finds that the employee is in the slot already. -/
theorem step_commit_eq_bookByCalls :
    let transaction := session.step (.commit employee date number.number role.name capacity)
    let calls := session.bookByCalls employee date number role capacity
    transaction.1 = calls.1 ∧
      transaction.2 = (if isFailure transaction.1 then session else calls.2) ∧
      calls.1 ≠ .error (.store .duplicateAssignment) := by
  intro transaction calls
  by_cases free : session.store.lock = .free
  · let slot := (session.store.ledger.ensureSlot date number).1
    let ensured := (session.store.ledger.ensureSlot date number).2
    have known : ∃ row ∈ ensured.slots, row.id = slot.id := by
      obtain ⟨row, mem, eq, -⟩ := session.store.ledger.exists_ensureSlot_row date number
      exact ⟨row, mem, eq⟩
    have ends := bookSlotByCalls_eq employee slot role capacity (session.withLedger ensured) free
      known
    simp only [transaction, calls, bookByCalls, step_commit_eq, step_slot_eq,
      change_of_free session free, Ledger.commitAssignment_eq, Ledger.getOrCreateSlot, ofStore,
      ends, withLedger_ledger, Ledger.ensureSlot_employees, Ledger.ensureSlot_assignmentsIssued,
      Ledger.ensureSlot_date, Ledger.ensureSlot_number, slot, ensured]
    -- both sides go through the same five ends, and only one of them is not a failure
    by_cases assigned : ensured.isAssigned employee slot.id
    · rw [if_pos assigned, if_pos assigned]
      exact ⟨rfl, rfl, by simp⟩
    by_cases beyond : 4294967296 ≤ ensured.roleCount slot.id role
    · rw [if_neg assigned, if_pos beyond, if_neg assigned, if_pos beyond]
      exact ⟨rfl, rfl, by simp⟩
    by_cases full : capacity.toNat ≤ ensured.roleCount slot.id role
    · rw [if_neg assigned, if_neg beyond, if_pos full, if_neg assigned, if_neg beyond, if_pos full]
      exact ⟨rfl, rfl, by simp⟩
    by_cases there : ∃ row ∈ session.store.ledger.employees, row.id = employee
    · simp only [assigned, beyond, full, there, slot, ensured, if_true, if_false]
      exact ⟨rfl, rfl, by simp⟩
    · simp only [assigned, beyond, full, there, slot, ensured, if_false]
      exact ⟨rfl, rfl, by simp⟩
  · obtain ⟨cause, other, refused⟩ := change_of_not_free session free
    simp only [transaction, calls, bookByCalls, step_commit_eq, step_slot_eq, refused]
    exact ⟨trivial, rfl, by simpa using other⟩

/-- No seat at all: the transaction leaves no trace, the caller a slot. -/
example : (sample.step (.commit ⟨1⟩ sampleDay 1 "medic" 0)).2 = sample ∧
    (sample.bookByCalls ⟨1⟩ sampleDay .early .medic 0).2.store.ledger.slots =
      [⟨⟨1⟩, "2020-08-01", .integer 1⟩] := by
  decide +kernel

end DutyRoster.Session
