import DutyRoster.Proofs.Session.Run

/-!
# Failures leave no trace

A change of the store that fails leaves the ledger as it was, with all rows and all counts of issued
identifiers, even if it has written to it on the way (`Ledger.Traceless`). A step that is answered
with a failure therefore leaves the whole session as it was (`Session.step_of_isFailure`), in any
session, with or without the write lock and whatever the tables hold. It follows that steps which
failed can be struck from a run without any other answer being different.
-/

set_option autoImplicit false

namespace DutyRoster

namespace Ledger

/-- A change leaves the ledger as it was wherever its answer is a failure. -/
def Traceless {α : Type} (failed : Except StoreError α → Bool)
    (change : Ledger → Except StoreError α × Ledger) : Prop :=
  ∀ ledger, failed (change ledger).1 = true → (change ledger).2 = ledger

/-- A transaction leaves the ledger as it was unless it succeeds with a value that is kept. -/
theorem traceless_transaction {α : Type} {failed : Except StoreError α → Bool} {keep : α → Bool}
    (kept : ∀ value, failed (.ok value) = true → keep value = false)
    (change : Ledger → Except StoreError α × Ledger) :
    Traceless failed (transaction keep change) := by
  intro ledger
  unfold transaction
  rcases change ledger with ⟨answer, after⟩
  cases answer with
  | error cause => exact fun _ => rfl
  | ok value =>
    intro failure
    simp only [kept value failure, Bool.false_eq_true, if_false]

/-- Booking leaves no trace unless the booking is made. -/
theorem traceless_commitAssignment {failed : Except StoreError CommitOutcome → Bool}
    (success : ∀ assignment, failed (.ok (.committed assignment)) = false) (employee : EmployeeId)
    (date : Date) (number : SlotNumber) (role : Role) (capacity : UInt32) :
    Traceless failed (commitAssignment employee date number role capacity) := by
  apply traceless_transaction
  intro outcome failure
  cases outcome with
  | committed assignment => exact absurd failure (by rw [success]; exact Bool.false_ne_true)
  | alreadyAssigned slot => rfl
  | capacityReached slot occupied => rfl

/-- Adding an assignment leaves no trace unless it is added. -/
theorem traceless_createAssignment {failed : Except StoreError AssignmentId → Bool}
    (success : ∀ id, failed (.ok id) = false) (employee : EmployeeId) (slot : SlotId)
    (role : Role) : Traceless failed (createAssignment employee slot role) := by
  intro ledger
  rw [createAssignment_eq]
  split_ifs
  · exact fun _ => rfl
  · intro failure
    exact absurd failure (by rw [success]; exact Bool.false_ne_true)
  · exact fun _ => rfl

/-- Removing a booking leaves no trace unless it is removed. -/
theorem traceless_removeAssignment {failed : Except StoreError Unit → Bool}
    (success : failed (.ok ()) = false) (employee : EmployeeId) (date : Date)
    (number : SlotNumber) : Traceless failed (removeAssignment employee date number) := by
  intro ledger
  rw [removeAssignment_eq]
  split_ifs
  · intro failure
    exact absurd failure (by rw [success]; exact Bool.false_ne_true)
  · exact fun _ => rfl

/-- Overwriting fails only if two slots would come to be the same, and then nothing is
overwritten. -/
theorem overwrite_of_error {ledger : Ledger} {id : Int} {value : StoredValue} {cause : StoreError}
    (failed : (ledger.overwrite id value).1 = .error cause) :
    (ledger.overwrite id value).2 = ledger := by
  cases value with
  | employeeRole text => cases failed
  | assignmentRole text => cases failed
  | slotDate text =>
    simp only [overwrite, overwriteSlot] at failed ⊢
    split_ifs at failed ⊢
    rfl
  | slotNumber cell =>
    simp only [overwrite, overwriteSlot] at failed ⊢
    split_ifs at failed ⊢
    rfl

end Ledger

/-- A traceless change of a store leaves the store as it was wherever it fails. -/
theorem Store.write_of_failed {α : Type} (failed : Except StoreError α → Bool)
    {change : Ledger → Except StoreError α × Ledger} (traceless : Ledger.Traceless failed change)
    {store : Store} (failure : failed (store.write change).1 = true) :
    (store.write change).2 = store := by
  rcases store.write_cases change with ⟨-, eq⟩ | ⟨-, cause, eq⟩
  · rw [eq] at failure ⊢
    simp only [traceless store.ledger failure]
  · rw [eq]

namespace Session

/-- An answer is a failure if it is a refusal, or if the store was asked for a booking and did not
make it. -/
def isFailure : Except Refusal Reply → Bool
  | .error _ => true
  | .ok (.outcome outcome) => !Ledger.CommitOutcome.isCommitted outcome
  | .ok _ => false

/-- A change of the store that is answered with a failure leaves the session as it was. -/
theorem change_of_isFailure {session : Session} {α β : Type} {argument : Except Refusal α}
    {run : α → Ledger → Except StoreError β × Ledger} {reply : β → Reply}
    (traceless : ∀ a, Ledger.Traceless (fun answer => isFailure (ofStore reply answer)) (run a))
    (failure : isFailure (session.change argument run reply).1 = true) :
    (session.change argument run reply).2 = session := by
  cases argument with
  | error refusal => rfl
  | ok a =>
    have same : (session.store.write (run a)).2 = session.store :=
      Store.write_of_failed _ (traceless a) failure
    simp only [change, same]

/-- A request to assign that is answered with a failure leaves the session as it was. -/
theorem step_assign_of_isFailure {session : Session} {employee : EmployeeId} {date : String}
    {slot : Nat} (failure : isFailure (session.step (.assign employee date slot)).1 = true) :
    (session.step (.assign employee date slot)).2 = session := by
  simp only [step, Store.assign] at failure ⊢
  cases vetted : session.store.vetRequest session.options session.today employee date slot with
  | error cause => rfl
  | ok request =>
    obtain ⟨member, day, number⟩ := request
    simp only [vetted] at failure
    have same := Store.write_of_failed
      (fun outcome => isFailure (ofRequest .receipt (Store.receipt member day number
        (session.options.capacity.capacity member.role) outcome)))
      (Ledger.traceless_commitAssignment (fun _ => rfl) member.id day number member.role
        (session.options.capacity.capacity member.role)) failure
    simp only [same]

/-- A request to remove that is answered with a failure leaves the session as it was. -/
theorem step_remove_of_isFailure {session : Session} {employee : EmployeeId} {date : String}
    {slot : Nat} (failure : isFailure (session.step (.remove employee date slot)).1 = true) :
    (session.step (.remove employee date slot)).2 = session := by
  simp only [step, Store.remove] at failure ⊢
  split at failure
  · rfl
  · rename_i day number _
    have same := Store.write_of_failed
      (fun answer => isFailure (ofRequest (fun () => .done) (Store.removalAnswer answer)))
      (Ledger.traceless_removeAssignment rfl employee day number) failure
    simp only [same]

/-- A step that is answered with a failure leaves the session as it was. -/
theorem step_of_isFailure {session : Session} {operation : Operation}
    (failure : isFailure (session.step operation).1 = true) :
    (session.step operation).2 = session := by
  cases operation with
  | assign employee date slot => exact step_assign_of_isFailure failure
  | remove employee date slot => exact step_remove_of_isFailure failure
  -- once it reaches the ledger, a registration does not fail, and neither does a slot
  | register name role =>
    simp only [step] at failure ⊢
    apply change_of_isFailure _ failure
    intro role ledger failed
    cases failed
  | slot date number =>
    simp only [step] at failure ⊢
    apply change_of_isFailure _ failure
    intro number ledger failed
    cases failed
  | create employee slot role =>
    simp only [step] at failure ⊢
    apply change_of_isFailure _ failure
    intro role
    exact Ledger.traceless_createAssignment (fun _ => rfl) employee slot role
  | commit employee date number role capacity =>
    simp only [step] at failure ⊢
    apply change_of_isFailure _ failure
    rintro ⟨role, number⟩
    exact Ledger.traceless_commitAssignment (fun _ => rfl) employee date number role capacity
  | storeRemove employee date number =>
    simp only [step] at failure ⊢
    apply change_of_isFailure _ failure
    intro number
    exact Ledger.traceless_removeAssignment rfl employee date number
  | onDuty instant buffer => exact session.step_onDuty instant buffer
  | importStaff octets =>
    rcases session.step_importStaff_cases octets with ⟨staff, -, eq⟩ | ⟨refusal, eq⟩
    · rw [eq] at failure
      cases failure
    · rw [eq]
  | setNow now => cases failure
  | reopen options => cases failure
  | lock => cases failure
  | unlock => cases failure
  | overwrite id value =>
    simp only [step] at failure ⊢
    cases answer : (session.store.ledger.overwrite id value).1 with
    | ok rows =>
      rw [answer] at failure
      cases failure
    | error cause => rw [Ledger.overwrite_of_error answer]
  | _ => rfl

end Session

/-- The elements of a list that a mask keeps. What lies beyond the mask is kept. -/
def retain {α : Type} : List Bool → List α → List α
  | true :: mask, a :: rest => a :: retain mask rest
  | false :: mask, _ :: rest => retain mask rest
  | [], rest => rest
  | _ :: _, [] => []

namespace Session

/-- Steps that failed can be struck from a run: the other steps are answered as before, and the
session is left as before. -/
theorem run_retain {session : Session} {operations : List Operation} {mask : List Bool}
    (failed : ∀ step ∈ mask.zip (session.run operations).1, step.1 = false →
      isFailure step.2 = true) :
    session.run (retain mask operations) =
      (retain mask (session.run operations).1, (session.run operations).2) := by
  induction operations generalizing session mask with
  | nil =>
    cases mask with
    | nil => rfl
    | cons kept mask => cases kept <;> rfl
  | cons operation rest ih =>
    rw [run_cons] at failed ⊢
    cases mask with
    | nil => rfl
    | cons kept mask =>
      rw [List.zip_cons_cons, List.forall_mem_cons] at failed
      obtain ⟨first, later⟩ := failed
      cases kept with
      | true =>
        simp only [retain]
        rw [run_cons, ih later]
      | false =>
        have same := step_of_isFailure (first rfl)
        simp only [retain]
        rw [same] at later ⊢
        exact ih later

/-- In any session, whatever its tables hold and whoever holds the write lock: an operation that is
answered with a failure leaves the session as it was, with all tables and counters; and any steps of
a run that failed can be struck from it without any other answer or the session at the end being
different. -/
theorem failures_leave_no_trace (session : Session) :
    (∀ operation, isFailure (session.step operation).1 = true →
      (session.step operation).2 = session) ∧
    ∀ operations mask, (∀ step ∈ mask.zip (session.run operations).1, step.1 = false →
      isFailure step.2 = true) →
      session.run (retain mask operations) =
        (retain mask (session.run operations).1, (session.run operations).2) :=
  ⟨fun _ => step_of_isFailure, fun _ _ => run_retain⟩

/-- Two bookings that find no capacity, of the store and of a planner, can be struck: the slot that
is created after them has the same identifier without them. -/
theorem failures_leave_no_trace_of_capacity :
    let day : Date := ⟨738003, by decide, by decide⟩
    let operations : List Operation := [.register "Ada" "administrator",
      .commit ⟨1⟩ day 1 "administrator" 0, .assign ⟨1⟩ "2020-08-01" 1, .slot day 1]
    let mask := [true, false, false, true]
    let result := sample.run operations
    (∀ step ∈ mask.zip result.1, step.1 = false → isFailure step.2 = true) ∧
      isFailure (sample.step (.create ⟨1⟩ ⟨1⟩ "medic")).1 = true ∧
      (sample.step (.create ⟨1⟩ ⟨1⟩ "medic")).2 = sample ∧
      sample.run [.register "Ada" "administrator", .slot day 1] =
        (retain mask result.1, result.2) := by
  intro day operations mask result
  have failed : ∀ step ∈ mask.zip result.1, step.1 = false → isFailure step.2 = true := by
    decide +kernel
  have refused : isFailure (sample.step (.create ⟨1⟩ ⟨1⟩ "medic")).1 = true := by decide +kernel
  have traceless := failures_leave_no_trace sample
  exact ⟨failed, refused, traceless.1 _ refused, traceless.2 operations mask failed⟩

end Session

end DutyRoster
