import DutyRoster.Proofs.Session.Grid
import DutyRoster.Proofs.Session.Origin

/-!
# The store does not fail by itself

The store can fail in many ways: the write lock is not to be had, a row cannot be read, a count does
not fit, two rows clash, a reference leads nowhere. As long as assignments are made through the
scheduler or booked with a capacity, and stored values are left alone, none of the causes that lie
in the tables ever comes up (`Session.run_dependable`). What is left, with the lock free, are the
two failures that are due to what the store is asked for (`Session.DueToRequest`); no request of a
planner is among them.

All of this follows from two facts about a ledger (`Ledger.Sound`): its rows fit together, and its
counts fit into 32 bits. The questions and changes are gone through one by one. A request of the
scheduler asks several things in a row; that it does not fail in the store is put together from the
parts (`NotStorage.bind`).
-/

set_option autoImplicit false

namespace DutyRoster

/-- The answer of the scheduler does not report a failure of the store. -/
def NotStorage {α : Type} : Except SchedulingError α → Prop
  | .error (.storage _) => False
  | _ => True

namespace NotStorage

variable {α β : Type}

/-- An answer that is no failure is none of the store. -/
theorem ok (value : α) : NotStorage (.ok value) :=
  trivial

/-- A cause that is no failure of the store is none for answers of another kind either. -/
theorem error {cause : SchedulingError}
    (sound : NotStorage (.error cause : Except SchedulingError α)) (β : Type) :
    NotStorage (.error cause : Except SchedulingError β) := by
  cases cause <;> exact sound

/-- Two steps do not fail in the store if neither of them does. -/
theorem bind {answer : Except SchedulingError α} {next : α → Except SchedulingError β}
    (first : NotStorage answer) (then_ : ∀ value, NotStorage (next value)) :
    NotStorage (answer >>= next) := by
  cases answer with
  | ok value => exact then_ value
  | error cause => exact first.error β

/-- The text of a date is not looked up in the store. -/
theorem requestDate (text : String) : NotStorage (requestDate text) := by
  unfold DutyRoster.requestDate
  split
  · cases Date.read false text.toList <;> trivial
  · trivial

/-- The number of a slot is not looked up in the store. -/
theorem requestSlot (number : Nat) : NotStorage (requestSlot number) := by
  unfold DutyRoster.requestSlot
  split <;> trivial

/-- Writing a shift file does not ask the store for anything. -/
theorem shiftFile (assignments : List Assignment) (employees : List Employee) :
    NotStorage (shiftFile assignments employees) := by
  have rows : NotStorage (shiftRows employees assignments) := by
    induction assignments with
    | nil => exact ok _
    | cons shift rest ih =>
      apply NotStorage.bind
      · unfold shiftFields
        split <;> trivial
      · exact fun _ => ih.bind fun _ => ok _
  exact rows.bind fun _ => ok _

end NotStorage

/-- The rows of a ledger fit together, and its counts fit into 32 bits. -/
structure Ledger.Sound (ledger : Ledger) : Prop where
  consistent : ledger.Consistent
  fits : ∀ slot role, ledger.roleCount slot role < 4294967296

namespace Ledger.Sound

variable {ledger : Ledger} {store : Store}

/-- Whoever counts the assignments of a slot in a role gets the number. -/
theorem countByRole_eq (h : ledger.Sound) (slot : SlotId) (role : Role) :
    ledger.countByRole slot role = .ok (ledger.roleCount slot role) :=
  if_pos (h.fits slot role)

/-- The seats taken can be counted in 32 bits. -/
theorem seats_lt (h : ledger.Sound) (date : Date) (number : SlotNumber) (role : Role) :
    ledger.seats date number role < 4294967296 :=
  h.consistent.seats_lt h.fits date number role

/-- Looking for an employee does not fail in the store. -/
theorem requestEmployee (h : store.ledger.Sound) (employee : EmployeeId) :
    NotStorage (store.requestEmployee employee) := by
  rw [h.consistent.requestEmployee_eq]
  split <;> trivial

/-- The assignments of an employee can be listed. -/
theorem listAssignments (h : store.ledger.Sound) (employee : EmployeeId)
    (range : Option (Date × Date)) :
    NotStorage (Store.asRefusal (store.ledger.listAssignments employee range)) := by
  rw [h.consistent.listAssignments_eq]
  exact NotStorage.ok _

/-- Checking a request to assign does not fail in the store. -/
theorem vetRequest (h : store.ledger.Sound) (options : Options) (today : Date)
    (employee : EmployeeId) (date : String) (slot : Nat) :
    NotStorage (store.vetRequest options today employee date slot) := by
  -- one step for each of the questions and checks, in the order in which they are made
  apply (h.requestEmployee employee).bind
  intro member
  apply (NotStorage.requestDate date).bind
  intro day
  apply (NotStorage.requestSlot slot).bind
  intro number
  refine NotStorage.bind ?_ fun _ => NotStorage.bind ?_ fun onDuty => ?_
  · unfold checkBookingWindow
    dsimp only
    split_ifs <;> trivial
  · exact (h.listAssignments member.id _).bind fun _ => NotStorage.ok _
  · split <;> trivial

/-- Listing the shifts of an employee does not fail in the store. -/
theorem listShifts (h : store.ledger.Sound) (employee : EmployeeId)
    (range : Option (Date × Date)) : NotStorage (store.listShifts employee range) := by
  refine NotStorage.bind ?_ fun _ => (h.requestEmployee employee).bind fun member =>
    h.listAssignments member.id range
  unfold Store.checkRange
  split
  · trivial
  · split_ifs <;> trivial

/-- Showing a grid does not fail in the store. -/
theorem availability (h : store.ledger.Sound) (options : Options) (start : String) (days : Nat) :
    NotStorage (store.availability options start days) := by
  refine NotStorage.bind ?_ fun _ => (NotStorage.requestDate start).bind fun first =>
    NotStorage.bind ?_ fun last => NotStorage.bind ?_ fun counts => NotStorage.ok _
  · unfold checkDayCount
    split_ifs <;> trivial
  · unfold lastOfRange
    split <;> trivial
  · obtain ⟨counts, eq⟩ := h.consistent.exists_aggregateCounts h.seats_lt first last
    rw [eq]
    exact NotStorage.ok counts

/-- Who is on duty can be told, unless the slot ends after the last day of the calendar. -/
theorem onDuty (h : ledger.Sound) (at_ : Instant) (buffer : Int) (cause : StoreError) :
    ledger.onDuty at_ buffer ≠ .error (.storage cause) := by
  intro eq
  simp only [Ledger.onDuty, h.consistent.slotStaff_eq] at eq
  split at eq
  · cases eq
  · split_ifs at eq
    cases eq

/-- Telling who is on call does not fail in the store. -/
theorem onCall (h : store.ledger.Sound) (at_ : Instant) (buffer : Int) :
    NotStorage (store.onCall at_ buffer) := by
  unfold Store.onCall
  cases answer : store.ledger.onDuty at_ (max buffer 0) with
  | ok staff => trivial
  | error cause =>
    cases cause with
    | windowBeyondCalendar => trivial
    | storage cause => exact h.onDuty at_ (max buffer 0) cause answer

/-- The assignment of somebody who has passed the checks can be added: the references lead to rows,
and no other row is met if the employee was not found in the slot. -/
theorem createAssignment_of_vetRequest (h : store.ledger.Sound) {options : Options} {today : Date}
    {employee : EmployeeId} {date : String} {slot : Nat} {member : Employee} {day : Date}
    {number : SlotNumber}
    (passed : store.vetRequest options today employee date slot = .ok (member, day, number)) :
    let ensured := store.ledger.ensureSlot day number
    ensured.2.isAssigned member.id ensured.1.id = false →
    ∃ id, (ensured.2.createAssignment member.id ensured.1.id member.role).1 = .ok id := by
  intro ensured fresh
  have on_staff := (h.consistent.of_vetRequest passed).1
  have known_employee : ∃ row ∈ ensured.2.employees, row.id = member.id := by
    rw [ensureSlot_employees]
    exact h.consistent.exists_row_of_mem_staff on_staff
  have known_slot : ∃ row ∈ ensured.2.slots, row.id = ensured.1.id := by
    obtain ⟨row, mem, eq, -⟩ := store.ledger.exists_ensureSlot_row day number
    exact ⟨row, mem, eq⟩
  rw [createAssignment_eq, fresh, if_neg Bool.false_ne_true, if_pos ⟨known_employee, known_slot⟩]
  exact ⟨_, rfl⟩

end Ledger.Sound

namespace Session

/-- The failure of the store that an answer reports, if it reports one. -/
def storeFailure? : Except Refusal Reply → Option StoreError
  | .error (.store cause) => some cause
  | .error (.request (.storage cause)) => some cause
  | _ => none

/-- A failure of the store is due to what it was asked for: a booking is to be removed that is not
there, or to be made for somebody who is not registered. -/
inductive DueToRequest (session : Session) : Operation → StoreError → Prop where
  | missing {employee : EmployeeId} {date : Date} {n : Nat} {number : SlotNumber}
      (numbered : readSlot n = .ok number)
      (absent : ¬ session.store.ledger.Holds employee date number) :
      DueToRequest session (.storeRemove employee date n) (.noAssignment employee date number)
  | stranger {employee : EmployeeId} {date : Date} {n : Nat} {role : String} {capacity : UInt32}
      (unknown : ¬ ∃ row ∈ session.store.ledger.employees, row.id = employee) :
      DueToRequest session (.commit employee date n role capacity) .unknownReference

/-- What does not fail in the store is not reported as a failure of the store. -/
theorem storeFailure?_ofRequest {α : Type} {reply : α → Reply} {answer : Except SchedulingError α}
    (sound : NotStorage answer) : storeFailure? (ofRequest reply answer) = none := by
  cases answer with
  | ok value => rfl
  | error cause =>
    cases cause with
    | storage cause => exact sound.elim
    | _ => rfl

section Step

variable {session : Session} {operation : Operation} {cause : StoreError}

/-- A request to assign never fails in the store while the lock is free. -/
theorem storeFailure?_assign (h : session.store.ledger.Sound) (free : session.store.lock = .free)
    (employee : EmployeeId) (date : String) (slot : Nat) :
    storeFailure? (session.step (.assign employee date slot)).1 = none := by
  cases vetted : session.store.vetRequest session.options session.today employee date slot with
  | error cause =>
    have sound := h.vetRequest session.options session.today employee date slot
    rw [vetted] at sound
    rw [step_assign_of_error vetted]
    exact storeFailure?_ofRequest (sound.error _)
  | ok request =>
    obtain ⟨member, day, number⟩ := request
    have fits := Nat.not_le.mpr (h.seats_lt day number member.role)
    rw [step_assign_eq free h.consistent vetted]
    dsimp only
    rw [if_neg fits]
    split_ifs <;> rfl

/-- A request to remove never fails in the store while the lock is free. If there is nothing to
remove, that is reported as a refusal of the request. -/
theorem storeFailure?_remove (h : session.store.ledger.Sound) (free : session.store.lock = .free)
    (employee : EmployeeId) (date : String) (slot : Nat) :
    storeFailure? (session.step (.remove employee date slot)).1 = none := by
  cases request : (do return (← requestDate date, ← requestSlot slot) :
      Except SchedulingError (Date × SlotNumber)) with
  | error cause =>
    have sound : NotStorage (do return (← requestDate date, ← requestSlot slot) :
        Except SchedulingError (Date × SlotNumber)) :=
      (NotStorage.requestDate date).bind fun _ =>
        (NotStorage.requestSlot slot).bind fun _ => NotStorage.ok _
    rw [request] at sound
    rw [step_remove_of_error request]
    exact storeFailure?_ofRequest (sound.error _)
  | ok place =>
    obtain ⟨day, number⟩ := place
    obtain ⟨read, numbered⟩ := readRequest_eq_ok_iff.mp request
    rw [step_remove_eq free h.consistent read numbered employee]
    split_ifs <;> rfl

/-- Exporting the shifts of an employee never fails in the store. -/
theorem storeFailure?_exportShifts (h : session.store.ledger.Sound) (employee : EmployeeId)
    (range : Option (Date × Date)) :
    storeFailure? (session.step (.exportShifts employee range)).1 = none := by
  have sound := h.listShifts employee range
  simp only [step, exportShifts, h.consistent.listEmployees_eq]
  cases listed : session.store.listShifts employee range with
  | ok shifts => exact storeFailure?_ofRequest (NotStorage.shiftFile shifts _)
  | error cause =>
    rw [listed] at sound
    cases cause with
    | storage cause => exact sound.elim
    | _ => rfl

/-- A change whose arguments are read fails in the store as the change of the ledger does. -/
theorem storeFailure?_change (free : session.store.lock = .free) {α β : Type}
    {argument : Except Refusal α} {run : α → Ledger → Except StoreError β × Ledger}
    {reply : β → Reply} (spared : ∀ refusal, argument = .error refusal →
      storeFailure? (.error refusal) = none)
    (failed : storeFailure? (session.change argument run reply).1 = some cause) :
    ∃ a, argument = .ok a ∧ (run a session.store.ledger).1 = .error cause := by
  cases argument with
  | error refusal =>
    simp only [change, spared refusal rfl] at failed
    cases failed
  | ok a =>
    refine ⟨a, rfl, ?_⟩
    simp only [change, Store.write, free] at failed
    cases answer : (run a session.store.ledger).1 with
    | ok value =>
      rw [answer] at failed
      cases failed
    | error failure =>
      rw [answer] at failed
      rw [Option.some.inj failed]

/-- A role that cannot be read is no failure of the store. -/
theorem storeFailure?_readRole {text : String} {refusal : Refusal}
    (failed : readRole text = .error refusal) : storeFailure? (.error refusal) = none := by
  unfold readRole at failed
  cases read : Role.read text with
  | ok role => simp [read, Except.mapError] at failed
  | error fault =>
    rw [read] at failed
    cases failed
    rfl

/-- The number of a slot that cannot be read is no failure of the store. -/
theorem storeFailure?_readSlot {n : Nat} {refusal : Refusal}
    (failed : readSlot n = .error refusal) : storeFailure? (.error refusal) = none := by
  unfold readSlot at failed
  split at failed
  · cases failed
  · cases failed
    rfl

/-- The arguments of a booking that cannot be read are no failure of the store. -/
theorem storeFailure?_readBooking {text : String} {n : Nat} {refusal : Refusal}
    (failed : (do return (← readRole text, ← readSlot n) : Except Refusal (Role × SlotNumber)) =
      .error refusal) : storeFailure? (.error refusal) = none := by
  cases role : readRole text with
  | error fault =>
    rw [role] at failed
    cases failed
    exact storeFailure?_readRole role
  | ok role' =>
    cases slot : readSlot n with
    | error fault =>
      rw [role, slot] at failed
      cases failed
      exact storeFailure?_readSlot slot
    | ok number =>
      rw [role, slot] at failed
      cases failed

/-- A booking that the store is asked for fails only if the employee is not registered. -/
theorem dueToRequest_commit (h : session.store.ledger.Sound) (free : session.store.lock = .free)
    {employee : EmployeeId} {date : Date} {n : Nat} {text : String} {capacity : UInt32}
    (failed : storeFailure? (session.step (.commit employee date n text capacity)).1 =
      some cause) : session.DueToRequest (.commit employee date n text capacity) cause := by
  rw [step] at failed
  obtain ⟨⟨role, number⟩, -, answer⟩ :=
    storeFailure?_change free (fun _ unread => storeFailure?_readBooking unread) failed
  -- of the ends that a booking has, one fails because the count does not fit
  have fits := Nat.not_le.mpr (h.seats_lt date number role)
  dsimp only at answer
  rw [h.consistent.commitAssignment_eq] at answer
  dsimp only at answer
  rw [if_neg fits] at answer
  split_ifs at answer with holds full known
  cases answer
  exact .stranger known

/-- With the lock free, whatever the store is asked for short of what is not checked: it fails only
for what it was asked for. -/
theorem dueToRequest_of_storeFailure? (h : session.store.ledger.Sound)
    (free : session.store.lock = .free) (checked : operation.isChecked = true)
    (failed : storeFailure? (session.step operation).1 = some cause) :
    session.DueToRequest operation cause := by
  have of_none (none : storeFailure? (session.step operation).1 = none) :
      session.DueToRequest operation cause := by
    rw [none] at failed
    cases failed
  -- most operations do not fail in the store at all; the others are asked about what is not there
  cases operation with
  | assign employee date slot => exact of_none (storeFailure?_assign h free employee date slot)
  | remove employee date slot => exact of_none (storeFailure?_remove h free employee date slot)
  | list employee range => exact of_none (storeFailure?_ofRequest (h.listShifts employee range))
  | availability start days =>
    exact of_none (storeFailure?_ofRequest (h.availability session.options start days))
  | onCall instant buffer => exact of_none (storeFailure?_ofRequest (h.onCall instant _))
  | onCallNow buffer => exact of_none (storeFailure?_ofRequest (h.onCall session.now _))
  | register name role =>
    rw [step] at failed
    obtain ⟨role, -, answer⟩ :=
      storeFailure?_change free (fun _ unread => storeFailure?_readRole unread) failed
    cases answer
  | «find» employee =>
    rw [step, h.consistent.findEmployee_eq] at failed
    cases failed
  | employees =>
    rw [step, h.consistent.listEmployees_eq] at failed
    cases failed
  | slot date n =>
    rw [step] at failed
    obtain ⟨number, -, answer⟩ :=
      storeFailure?_change free (fun _ unread => storeFailure?_readSlot unread) failed
    cases answer
  | count slot text =>
    rw [step] at failed
    cases role : readRole text with
    | error refusal =>
      rw [role, Except.bind, storeFailure?_readRole role] at failed
      cases failed
    | ok role' =>
      rw [role, Except.bind, h.countByRole_eq] at failed
      cases failed
  | commit employee date n role capacity => exact dueToRequest_commit h free failed
  | storeRemove employee date n =>
    rw [step] at failed
    obtain ⟨number, numbered, answer⟩ :=
      storeFailure?_change free (fun _ unread => storeFailure?_readSlot unread) failed
    rw [h.consistent.removeAssignment_eq] at answer
    split_ifs at answer with holds
    cases answer
    exact .missing numbered holds
  | storeList employee range =>
    rw [step, h.consistent.listAssignments_eq] at failed
    cases failed
  | counts first last =>
    obtain ⟨counts, eq⟩ := h.consistent.exists_aggregateCounts h.seats_lt first last
    rw [step, eq] at failed
    cases failed
  | onDuty instant buffer =>
    rw [step] at failed
    cases answer : session.store.ledger.onDuty instant (buffer * nanosPerMilli) with
    | ok staff =>
      rw [answer] at failed
      cases failed
    | error fault =>
      cases fault with
      | windowBeyondCalendar date slot =>
        rw [answer] at failed
        cases failed
      | storage storage => exact absurd answer (h.onDuty instant _ storage)
  | importStaff octets =>
    simp only [step, importStaff] at failed
    split at failed
    · cases failed
    · rename_i rows _
      rcases session.store.registerAll_cases rows with eq | ⟨held, -⟩
      · rw [eq] at failed
        cases failed
      · exact absurd free held
  | exportShifts employee range => exact of_none (storeFailure?_exportShifts h employee range)
  | exportAvailability start days =>
    exact of_none (storeFailure?_ofRequest (h.availability session.options start days))
  | create | overwrite => simp [Operation.isChecked] at checked
  | _ => cases failed

end Step

/-- The store can be relied on, with the lock free: no request of a planner fails in it, whatever it
is asked for it fails for no other reason than that, the row of a booking that has passed the checks
can be added unless the employee is found in the slot, and whoever counts gets a number. -/
structure Dependable (session : Session) : Prop where
  planning : ∀ operation, operation.isPlanning = true →
    storeFailure? (session.step operation).1 = none
  checked : ∀ operation, operation.isChecked = true → ∀ cause,
    storeFailure? (session.step operation).1 = some cause → session.DueToRequest operation cause
  inserts : ∀ employee date slot member day number,
    session.store.vetRequest session.options session.today employee date slot =
      .ok (member, day, number) →
    let ensured := session.store.ledger.ensureSlot day number
    ensured.2.isAssigned member.id ensured.1.id = false →
    ∃ id, (ensured.2.createAssignment member.id ensured.1.id member.role).1 = .ok id
  counts : ∀ slot role, ∃ count, session.store.ledger.countByRole slot role = .ok count

/-- A sound ledger that can be written to can be relied on. -/
theorem dependable_of_sound {session : Session} (h : session.store.ledger.Sound)
    (free : session.store.lock = .free) : session.Dependable where
  planning := by
    intro operation planning
    cases failed : storeFailure? (session.step operation).1 with
    | none => rfl
    | some cause =>
      have checked : operation.isChecked = true := by
        cases operation <;> first | rfl | exact absurd planning Bool.false_ne_true
      -- what is due to a request is not due to one of a planner
      have due := dueToRequest_of_storeFailure? h free checked failed
      cases due <;> exact absurd planning Bool.false_ne_true
  checked _ checked _ failed := dueToRequest_of_storeFailure? h free checked failed
  inserts _ _ _ _ _ _ passed fresh := h.createAssignment_of_vetRequest passed fresh
  counts slot role := ⟨_, h.countByRole_eq slot role⟩

section Runs

variable {start : Session} {operations : List Operation}

/-- Along every run of checked operations the rows fit together and counts fit into 32 bits. -/
theorem run_sound (empty : start.store.ledger = {})
    (checked : ∀ operation ∈ operations, operation.isChecked = true) :
    (start.run operations).2.store.ledger.Sound :=
  ⟨run_consistent empty checked, run_roleCount_lt empty checked⟩

/-- Along every run of checked operations from an empty store, whatever the dates of the calendar
that are written: what is stored can be read back, and wherever the lock is free the store can be
relied on. -/
theorem run_dependable (empty : start.store.ledger = {})
    (checked : ∀ operation ∈ operations, operation.isChecked = true) :
    start.ReadsBack operations ∧
      ((start.run operations).2.store.lock = .free → (start.run operations).2.Dependable) :=
  ⟨run_readsBack empty checked, dependable_of_sound (run_sound empty checked)⟩

end Runs

/-- Dates at both ends of the calendar are stored by the side of an ordinary one, in texts of other
lengths. They are read back, and the planner's requests find nothing wrong with them. -/
theorem run_dependable_of_far_dates :
    let operations : List Operation := [.register "Ada" "medic", .slot Date.last 3,
      .commit ⟨1⟩ Date.first 2 "Medic" 1, .assign ⟨1⟩ "2020-08-01" 1]
    let session := (sample.run operations).2
    (∀ operation ∈ operations, operation.isChecked = true) ∧ session.store.lock = .free ∧
      session.store.ledger.slots.map (·.date) = ["+262142-12-31", "-262143-01-01", "2020-08-01"] ∧
      sample.ReadsBack operations ∧ session.Dependable := by
  intro operations session
  have checked : ∀ operation ∈ operations, operation.isChecked = true := by decide
  have free : (sample.run operations).2.store.lock = .free := by decide +kernel
  have empty : sample.store.ledger = {} := rfl
  have dependable := run_dependable empty checked
  exact ⟨checked, free, by decide +kernel, dependable.1, dependable.2 free⟩

end Session

end DutyRoster
