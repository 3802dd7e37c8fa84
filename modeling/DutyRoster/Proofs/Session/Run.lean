import DutyRoster.Session
import DutyRoster.Proofs.Store.Bookings

/-!
# Steps and runs of a session

What one step may do to the ledger is said once, by `Session.Effect`: nothing, or one of seven
changes, each with what was checked before it was made. `Session.step_effect` shows that every
operation is covered. Later modules show what they need of a step by going through the effects, and
need not know which operations there are. Where it matters which checks an operation goes through,
they speak of operations that are checked, by the store, or vetted, by the scheduler as well.

A property of a session that each step preserves holds after a run (`Session.run_invariant`). What
is asked of the steps of a run may depend on the sessions in which they are taken;
`Session.Throughout` says that it is so all along, and `Session.Sometime` that it is so once.
-/

set_option autoImplicit false

namespace DutyRoster

namespace Ledger

/-- The ledger after several members of staff have been registered. -/
def enrol (rows : List NewEmployee) (ledger : Ledger) : Ledger :=
  rows.foldl (fun ledger row => (ledger.registerEmployee row.name row.role).2) ledger

/-- A property that registering preserves is preserved by registering several members of staff. -/
theorem enrol_induction {P : Ledger → Prop}
    (preserved : ∀ ledger name role, P ledger → P (ledger.registerEmployee name role).2)
    {ledger : Ledger} (start : P ledger) (rows : List NewEmployee) : P (ledger.enrol rows) := by
  induction rows generalizing ledger with
  | nil => exact start
  | cons row rows ih => exact ih (preserved ledger row.name row.role start)

/-- Registering members of staff leaves the shifts alone. -/
theorem shifts_enrol (rows : List NewEmployee) (ledger : Ledger) :
    (ledger.enrol rows).shifts = ledger.shifts := by
  refine enrol_induction (P := fun after => after.shifts = ledger.shifts) ?_ rfl rows
  intro after name role eq
  rw [shifts_registerEmployee, eq]

/-- Registering members of staff leaves the slots alone. -/
theorem slots_enrol (rows : List NewEmployee) (ledger : Ledger) :
    (ledger.enrol rows).slots = ledger.slots :=
  enrol_induction (P := fun after => after.slots = ledger.slots) (fun _ _ _ eq => eq) rfl rows

/-- The ledger with more rows in the table of staff, for which identifiers are set aside. -/
def withStaff (ledger : Ledger) (rows : List EmployeeRow) : Ledger :=
  { ledger with
    employees := ledger.employees ++ rows
    employeesIssued := ledger.employeesIssued + rows.length }

/-- The rows of new members of staff, with the next identifiers in turn. -/
def newRows (ledger : Ledger) (staff : List NewEmployee) : List EmployeeRow :=
  staff.zipIdx.map fun (member, i) =>
    ⟨⟨ledger.employeesIssued + 1 + i⟩, member.name, member.role.name⟩

/-- Rows can be added to the table of staff in two goes or in one. -/
theorem withStaff_append (ledger : Ledger) (rows more : List EmployeeRow) :
    (ledger.withStaff rows).withStaff more = ledger.withStaff (rows ++ more) := by
  simp [withStaff, Nat.add_assoc]

/-- Members of staff who are registered together come after the others, in their order and with
consecutive identifiers. -/
theorem enrol_eq_withStaff (staff : List NewEmployee) (ledger : Ledger) :
    ledger.enrol staff = ledger.withStaff (ledger.newRows staff) := by
  induction staff generalizing ledger with
  | nil => simp [enrol, withStaff, newRows]
  | cons member rest ih =>
    have first : (ledger.registerEmployee member.name member.role).2 =
        ledger.withStaff (ledger.newRows [member]) := by
      simp [registerEmployee, withStaff, newRows]
    have others : (ledger.withStaff (ledger.newRows [member])).newRows rest =
        (rest.zipIdx 1).map fun entry =>
          ⟨⟨ledger.employeesIssued + 1 + entry.2⟩, entry.1.name, entry.1.role.name⟩ := by
      rw [newRows, List.zipIdx_succ, List.map_map]
      refine List.map_congr_left fun entry _ => ?_
      simp [withStaff, newRows]
      omega
    change ((ledger.registerEmployee member.name member.role).2).enrol rest = _
    rw [first, ih, withStaff_append, others]
    rfl

end Ledger

namespace Store

/-- A change reaches the ledger only if the lock is free; otherwise it is refused. -/
theorem write_cases {α : Type} (change : Ledger → Except StoreError α × Ledger) (store : Store) :
    (store.lock = .free ∧ store.write change =
      ((change store.ledger).1, { store with ledger := (change store.ledger).2 })) ∨
    (store.lock ≠ .free ∧ ∃ cause, store.write change = (.error cause, store)) := by
  unfold write
  cases store.lock with
  | free => exact .inl ⟨rfl, rfl⟩
  | heldElsewhere => exact .inr ⟨nofun, _, rfl⟩
  | readOnly => exact .inr ⟨nofun, _, rfl⟩

/-- Several members of staff are registered all, or none of them if the lock is not free. -/
theorem registerAll_cases (rows : List NewEmployee) (store : Store) :
    (store.registerAll rows = (.ok (), { store with ledger := store.ledger.enrol rows })) ∨
    (store.lock ≠ .free ∧ ∃ cause, store.registerAll rows = (.error cause, store)) := by
  induction rows generalizing store with
  | nil => exact .inl rfl
  | cons row rows ih =>
    unfold registerAll
    rcases store.write_cases (Ledger.registerEmployee row.name row.role) with
      ⟨free, eq⟩ | ⟨held, cause, eq⟩
    · rw [eq]
      -- the lock is as free for the rest as it was for the first
      rcases ih { store with
          ledger := (Ledger.registerEmployee row.name row.role store.ledger).2 } with
        done | ⟨held, -⟩
      · exact .inl done
      · exact absurd free held
    · rw [eq]
      exact .inr ⟨held, cause, rfl⟩

end Store

namespace Session

/-- Telling who is on duty leaves the session as it was. -/
theorem step_onDuty (session : Session) (instant : Instant) (buffer : Int) :
    (session.step (.onDuty instant buffer)).2 = session := by
  rw [step]
  cases session.store.ledger.onDuty instant (buffer * nanosPerMilli) with
  | ok employees => rfl
  | error cause => cases cause <;> rfl

/-- A staff file that is imported registers all of its staff, or it is refused and changes
nothing. -/
theorem step_importStaff_cases (session : Session) (octets : List UInt8) :
    (∃ staff, readStaffFile octets = .ok staff ∧ session.step (.importStaff octets) =
      (.ok (.number staff.length), { session with
        store := { session.store with ledger := session.store.ledger.enrol staff } })) ∨
    ∃ refusal, session.step (.importStaff octets) = (.error refusal, session) := by
  have step_eq : session.step (.importStaff octets) = session.importStaff octets := rfl
  rw [step_eq, importStaff]
  cases readStaffFile octets with
  | error fault => exact .inr ⟨.staffFile fault, rfl⟩
  | ok staff =>
    dsimp only
    rcases session.store.registerAll_cases staff with eq | ⟨-, cause, eq⟩ <;> rw [eq]
    · exact .inl ⟨staff, rfl, rfl⟩
    · exact .inr ⟨.store cause, rfl⟩

end Session

namespace Operation

/-- The operation is a planner's request to assign. -/
def isAssign : Operation → Bool
  | .assign .. => true
  | _ => false

/-- The operation is neither the one that adds an assignment without asking for capacity nor the one
that overwrites stored values. -/
def isChecked : Operation → Bool
  | .create .. => false
  | .overwrite .. => false
  | _ => true

/-- The operation is checked, and it does not ask the store for a booking past the scheduler. -/
def isVetted : Operation → Bool
  | .create .. => false
  | .commit .. => false
  | .overwrite .. => false
  | _ => true

/-- The operation does not overwrite stored values. -/
def isIntact : Operation → Bool
  | .overwrite .. => false
  | _ => true

/-- The operation opens the store again. -/
def opensStore : Operation → Bool
  | .reopen .. => true
  | _ => false

/-- The operation does not open the store with other limits. -/
def keepsOptions (options : Options) : Operation → Bool
  | .reopen changed => changed = options
  | _ => true

/-- The members of staff that the operation asks to register, as they are read. -/
def newStaff : Operation → List NewEmployee
  | .register name role =>
    match Role.read role with
    | .ok role => [⟨name, role⟩]
    | .error _ => []
  | .importStaff octets =>
    match readStaffFile octets with
    | .ok rows => rows
    | .error _ => []
  | _ => []

/-- Vetted operations are checked. -/
theorem isChecked_of_isVetted {operation : Operation} (vetted : operation.isVetted = true) :
    operation.isChecked = true := by
  cases operation <;> first | rfl | exact absurd vetted Bool.false_ne_true

/-- A registration whose role can be read asks for one new member of staff. -/
theorem newStaff_register {name text : String} {role : Role}
    (read : Session.readRole text = .ok role) :
    (Operation.register name text).newStaff = [⟨name, role⟩] := by
  unfold Session.readRole at read
  cases read_role : Role.read text with
  | error fault => simp [read_role, Except.mapError] at read
  | ok role' =>
    simp only [read_role, Except.mapError, Except.ok.injEq] at read
    simp only [newStaff, read_role, read]

/-- Checked operations do not overwrite stored values. -/
theorem isIntact_of_isChecked {operation : Operation} (checked : operation.isChecked = true) :
    operation.isIntact = true := by
  cases operation <;> first | rfl | exact absurd checked Bool.false_ne_true

end Operation

/-- A booking that the store is asked to make. -/
structure BookingRequest where
  employee : EmployeeId
  date : Date
  number : SlotNumber
  role : Role
  capacity : UInt32
deriving DecidableEq

namespace BookingRequest

variable (request : BookingRequest) (ledger : Ledger)

/-- The ledger after the booking. -/
def book : Ledger :=
  ledger.withBooking request.employee request.date request.number request.role

/-- What the store finds before it makes a booking, in the ledger in which the slot is ensured. -/
structure Granted : Prop where
  fresh : (ledger.ensureSlot request.date request.number).2.isAssigned request.employee
    (ledger.ensureSlot request.date request.number).1.id = false
  room : (ledger.ensureSlot request.date request.number).2.roleCount
    (ledger.ensureSlot request.date request.number).1.id request.role < request.capacity.toNat
  known : ∃ row ∈ ledger.employees, row.id = request.employee

/-- A booking is made if it is granted, and otherwise the ledger stays as it was. -/
theorem commitAssignment_cases :
    (request.Granted ledger ∧ (ledger.commitAssignment request.employee request.date request.number
      request.role request.capacity).2 = request.book ledger) ∨
    (ledger.commitAssignment request.employee request.date request.number
      request.role request.capacity).2 = ledger := by
  rw [Ledger.commitAssignment_eq]
  dsimp only
  by_cases assigned : (ledger.ensureSlot request.date request.number).2.isAssigned request.employee
      (ledger.ensureSlot request.date request.number).1.id
  · rw [if_pos assigned]
    exact .inr rfl
  · rw [if_neg assigned]
    by_cases fits : 4294967296 ≤ (ledger.ensureSlot request.date request.number).2.roleCount
        (ledger.ensureSlot request.date request.number).1.id request.role
    · rw [if_pos fits]
      exact .inr rfl
    · rw [if_neg fits]
      by_cases full : request.capacity.toNat ≤
          (ledger.ensureSlot request.date request.number).2.roleCount
            (ledger.ensureSlot request.date request.number).1.id request.role
      · rw [if_pos full]
        exact .inr rfl
      · rw [if_neg full]
        by_cases known : ∃ row ∈ ledger.employees, row.id = request.employee
        · rw [if_pos known]
          exact .inl ⟨⟨eq_false_of_ne_true assigned, Nat.lt_of_not_le full, known⟩, rfl⟩
        · rw [if_neg known]
          exact .inr rfl

end BookingRequest

namespace Session

/-- A session over an empty store in a file, at the start of 29 July 2020 and under the usual
limits. -/
def sample : Session where
  now := ⟨⟨738000, by decide, by decide⟩, 0, 0, by decide, .inl (by decide)⟩
  durable := true

/-- The first day of August 2020, three days after the sample session starts. -/
def sampleDay : Date := ⟨738003, by decide, by decide⟩

/-- The booking that an operation asks the store to make, if it comes to that: a planner's request
has to be vetted before, and what the store is given has to be readable. -/
def bookingRequest? (session : Session) : Operation → Option BookingRequest
  | .assign employee date slot =>
    match session.store.vetRequest session.options session.today employee date slot with
    | .ok (member, date, number) =>
      some ⟨member.id, date, number, member.role, session.options.capacity.capacity member.role⟩
    | .error _ => none
  | .commit employee date number role capacity =>
    match Role.read role, SlotNumber.ofNumber? number with
    | .ok role, some number => some ⟨employee, date, number, role, capacity⟩
    | _, _ => none
  | _ => none

/-- The number of a slot is read from a request as it is anywhere. -/
theorem readSlot_eq_ok_iff {n : Nat} {number : SlotNumber} :
    readSlot n = .ok number ↔ SlotNumber.ofNumber? n = some number := by
  unfold readSlot
  cases SlotNumber.ofNumber? n <;> simp

/-- The booking that a commit asks for is made of what has been read. -/
theorem bookingRequest?_commit {session : Session} {employee : EmployeeId} {date : Date}
    {number : Nat} {text : String} {capacity : UInt32} {role : Role} {slot : SlotNumber}
    (read : (do return (← readRole text, ← readSlot number)) = Except.ok (role, slot)) :
    session.bookingRequest? (.commit employee date number text capacity) =
      some ⟨employee, date, slot, role, capacity⟩ := by
  unfold readRole at read
  cases read_role : Role.read text with
  | error fault => simp [read_role, Except.mapError, bind, Except.bind] at read
  | ok role' =>
    cases read_slot : readSlot number with
    | error refusal => simp [read_role, read_slot, Except.mapError, bind, Except.bind] at read
    | ok slot' =>
      simp only [read_role, read_slot, Except.mapError, bind, Except.bind, pure, Except.pure,
        Except.ok.injEq, Prod.mk.injEq] at read
      simp only [bookingRequest?, read_role, readSlot_eq_ok_iff.mp read_slot, read.1, read.2]

/-- The slot of a day that an operation asks the store to ensure, if it comes to that: the slot that
it names, or that of the booking which it asks for. -/
def slotRequest? (session : Session) : Operation → Option (Date × SlotNumber)
  | .slot date number => (SlotNumber.ofNumber? number).map fun number => (date, number)
  | operation =>
    (session.bookingRequest? operation).map fun request => (request.date, request.number)

/-- A request for a slot whose number can be read asks for that slot. -/
theorem slotRequest?_slot {session : Session} {date : Date} {n : Nat} {number : SlotNumber}
    (read : readSlot n = .ok number) :
    session.slotRequest? (.slot date n) = some (date, number) := by
  simp only [slotRequest?, readSlot_eq_ok_iff.mp read, Option.map_some]

/-- A booking needs the row of its slot. -/
theorem slotRequest?_of_bookingRequest? {session : Session} {operation : Operation}
    {request : BookingRequest} (asked : session.bookingRequest? operation = some request) :
    session.slotRequest? operation = some (request.date, request.number) := by
  cases operation with
  | slot date number => cases asked
  | _ => simp only [slotRequest?, asked, Option.map_some]

/-- Only requests to assign ask for a booking if all operations are vetted, and they ask for what
has passed the checks. -/
theorem bookingRequest?_of_isVetted {session : Session} {operation : Operation}
    {request : BookingRequest} (asked : session.bookingRequest? operation = some request)
    (vetted : operation.isVetted = true) : ∃ employee date slot member day number,
      operation = .assign employee date slot ∧
      session.store.vetRequest session.options session.today employee date slot =
        .ok (member, day, number) ∧
      request = ⟨member.id, day, number, member.role,
        session.options.capacity.capacity member.role⟩ := by
  cases operation with
  | assign employee date slot =>
    rw [bookingRequest?] at asked
    cases passed : session.store.vetRequest session.options session.today employee date slot with
    | error cause => simp [passed] at asked
    | ok vetted =>
      obtain ⟨member, day, number⟩ := vetted
      simp only [passed, Option.some.injEq] at asked
      exact ⟨employee, date, slot, member, day, number, rfl, passed, asked.symm⟩
  | commit => simp [Operation.isVetted] at vetted
  | _ => simp [bookingRequest?] at asked

/-- What one step may do to the ledger. -/
inductive Effect (session : Session) (operation : Operation) : Ledger → Prop where
  | unchanged : Effect session operation session.store.ledger
  | emptied {options : Options} (volatile : session.durable = false)
      (asked : operation = .reopen options) : Effect session operation {}
  | enrolled (rows : List NewEmployee) (asked : operation.newStaff = rows) :
      Effect session operation (session.store.ledger.enrol rows)
  | slotEnsured (date : Date) (number : SlotNumber)
      (asked : session.slotRequest? operation = some (date, number)) :
      Effect session operation (session.store.ledger.ensureSlot date number).2
  | booked {request : BookingRequest} (asked : session.bookingRequest? operation = some request)
      (granted : request.Granted session.store.ledger) :
      Effect session operation (request.book session.store.ledger)
  | removed (employee : EmployeeId) (date : Date) (number : SlotNumber) :
      Effect session operation (session.store.ledger.withoutBooking employee date number)
  | created {employee : EmployeeId} {slot : SlotId} {text : String} {role : Role}
      (asked : operation = .create employee slot text)
      (fresh : session.store.ledger.isAssigned employee slot = false)
      (known_employee : ∃ row ∈ session.store.ledger.employees, row.id = employee)
      (known_slot : ∃ row ∈ session.store.ledger.slots, row.id = slot) :
      Effect session operation (session.store.ledger.addAssignment employee slot role)
  | overwritten {id : Int} {value : StoredValue} (asked : operation = .overwrite id value) :
      Effect session operation (session.store.ledger.overwrite id value).2

section Answers

/-- A change of the store that succeeds: its arguments were read, and the ledger and the answer are
what the change of the ledger gives. -/
theorem of_change {session : Session} {α β : Type} {argument : Except Refusal α}
    {run : α → Ledger → Except StoreError β × Ledger} {reply : β → Reply} {answer : Reply}
    (done : (session.change argument run reply).1 = .ok answer) :
    ∃ a value, argument = .ok a ∧ (run a session.store.ledger).1 = .ok value ∧
      answer = reply value ∧
      (session.change argument run reply).2.store.ledger = (run a session.store.ledger).2 := by
  cases argument with
  | error refusal => cases done
  | ok a =>
    simp only [change] at done ⊢
    rcases session.store.write_cases (run a) with ⟨-, eq⟩ | ⟨-, cause, eq⟩ <;> rw [eq] at done ⊢
    · cases found : (run a session.store.ledger).1 with
      | ok value =>
        rw [found] at done
        cases done
        exact ⟨a, value, rfl, found, rfl, rfl⟩
      | error cause =>
        rw [found] at done
        cases done
    · cases done

/-- What the scheduler refuses is refused. -/
theorem exists_ofRequest_error {α : Type} (reply : α → Reply) (cause : SchedulingError) :
    ∃ refusal, ofRequest reply (.error cause) = .error refusal := by
  cases cause <;> exact ⟨_, rfl⟩

/-- An answer to a request of the scheduler reports what the scheduler has found. -/
theorem of_ofRequest {α : Type} {reply : α → Reply} {result : Except SchedulingError α}
    {answer : Reply} (done : ofRequest reply result = .ok answer) :
    ∃ value, result = .ok value ∧ answer = reply value := by
  cases result with
  | ok value =>
    cases done
    exact ⟨value, rfl, rfl⟩
  | error cause =>
    obtain ⟨refusal, eq⟩ := exists_ofRequest_error reply cause
    rw [eq] at done
    cases done

/-- An answer of the store reports what the store has found. -/
theorem of_ofStore {α : Type} {reply : α → Reply} {result : Except StoreError α} {answer : Reply}
    (done : ofStore reply result = .ok answer) :
    ∃ value, result = .ok value ∧ answer = reply value := by
  cases result with
  | ok value =>
    cases done
    exact ⟨value, rfl, rfl⟩
  | error cause => cases done

end Answers

section Step

variable (session : Session)

/-- A change has the effect that it has on the ledger, once its arguments are read, or none. -/
theorem effect_of_change {α β : Type} {operation : Operation} (argument : Except Refusal α)
    (run : α → Ledger → Except StoreError β × Ledger) (reply : β → Reply)
    (effect : ∀ a, argument = .ok a → session.Effect operation (run a session.store.ledger).2) :
    session.Effect operation (session.change argument run reply).2.store.ledger := by
  cases argument with
  | error refusal => exact .unchanged
  | ok a =>
    simp only [change]
    rcases session.store.write_cases (run a) with ⟨-, eq⟩ | ⟨-, cause, eq⟩ <;> rw [eq]
    · exact effect a rfl
    · exact .unchanged

/-- Booking has the effect of the booking that is asked for, or none. -/
theorem effect_of_commit {operation : Operation} (request : BookingRequest)
    (asked : session.bookingRequest? operation = some request) :
    session.Effect operation (session.store.ledger.commitAssignment request.employee request.date
      request.number request.role request.capacity).2 := by
  rcases request.commitAssignment_cases session.store.ledger with ⟨granted, eq⟩ | eq <;> rw [eq]
  · exact .booked asked granted
  · exact .unchanged

/-- Removing a booking has the effect that it is removed, or none. -/
theorem effect_of_removal (operation : Operation) (employee : EmployeeId) (date : Date)
    (number : SlotNumber) : session.Effect operation
      (session.store.ledger.removeAssignment employee date number).2 := by
  rw [Ledger.removeAssignment_eq]
  split
  · exact .removed employee date number
  · exact .unchanged

/-- Adding an assignment without asking for capacity has the effect that it is added, or none. -/
theorem effect_of_creation (employee : EmployeeId) (slot : SlotId) (text : String) (role : Role) :
    session.Effect (.create employee slot text)
      (session.store.ledger.createAssignment employee slot role).2 := by
  rw [Ledger.createAssignment_eq]
  split
  · exact .unchanged
  · rename_i assigned
    split
    · rename_i known
      have fresh := eq_false_of_ne_true assigned
      exact .created rfl fresh known.1 known.2
    · exact .unchanged

/-- A request to assign has the effect of the booking that it comes to, or none. -/
theorem effect_of_assign (employee : EmployeeId) (date : String) (slot : Nat) :
    session.Effect (.assign employee date slot)
      (session.step (.assign employee date slot)).2.store.ledger := by
  simp only [step, Store.assign]
  cases vetted : session.store.vetRequest session.options session.today employee date slot with
  | error cause => exact .unchanged
  | ok request =>
    obtain ⟨member, day, number⟩ := request
    let request : BookingRequest :=
      ⟨member.id, day, number, member.role, session.options.capacity.capacity member.role⟩
    have asked : session.bookingRequest? (.assign employee date slot) = some request := by
      simp only [bookingRequest?, vetted, request]
    dsimp only
    rcases session.store.write_cases (Ledger.commitAssignment member.id day number member.role
      (session.options.capacity.capacity member.role)) with ⟨-, eq⟩ | ⟨-, cause, eq⟩ <;> rw [eq]
    · exact session.effect_of_commit request asked
    · exact .unchanged

/-- A request to remove has the effect that a booking is removed, or none. -/
theorem effect_of_remove (employee : EmployeeId) (date : String) (slot : Nat) :
    session.Effect (.remove employee date slot)
      (session.step (.remove employee date slot)).2.store.ledger := by
  simp only [step, Store.remove]
  split
  · exact .unchanged
  · rename_i day number _
    rcases session.store.write_cases (Ledger.removeAssignment employee day number) with
      ⟨-, eq⟩ | ⟨-, cause, eq⟩ <;> rw [eq]
    · exact session.effect_of_removal _ employee day number
    · exact .unchanged

/-- Every step does to the ledger what an effect says. -/
theorem step_effect (operation : Operation) :
    session.Effect operation (session.step operation).2.store.ledger := by
  cases operation with
  | assign employee date slot => exact session.effect_of_assign employee date slot
  | remove employee date slot => exact session.effect_of_remove employee date slot
  | register name role =>
    rw [step]
    apply session.effect_of_change
    intro role read
    exact .enrolled [⟨name, role⟩] (Operation.newStaff_register read)
  | slot date number =>
    rw [step]
    apply session.effect_of_change
    intro number read
    exact .slotEnsured date number (slotRequest?_slot read)
  | create employee slot role =>
    rw [step]
    apply session.effect_of_change
    intro role _
    exact session.effect_of_creation employee slot _ role
  | commit employee date number role capacity =>
    rw [step]
    apply session.effect_of_change
    rintro ⟨role, number⟩ read
    exact session.effect_of_commit ⟨employee, date, number, role, capacity⟩
      (bookingRequest?_commit read)
  | storeRemove employee date number =>
    rw [step]
    apply session.effect_of_change
    intro number _
    exact session.effect_of_removal _ employee date number
  | onDuty instant buffer =>
    rw [step_onDuty]
    exact .unchanged
  | importStaff octets =>
    rcases session.step_importStaff_cases octets with ⟨staff, read, eq⟩ | ⟨refusal, eq⟩ <;> rw [eq]
    · exact .enrolled staff (by simp only [Operation.newStaff, read])
    · exact .unchanged
  | reopen options =>
    simp only [step]
    -- a store that is not on disk is gone when it is opened again
    cases durable : session.durable with
    | true => exact .unchanged
    | false => exact .emptied durable rfl
  | overwrite id value => exact .overwritten rfl
  | _ => exact .unchanged

/-- Changes of the store do not change the limits in force. -/
theorem options_change {α β : Type} (argument : Except Refusal α)
    (run : α → Ledger → Except StoreError β × Ledger) (reply : β → Reply) :
    (session.change argument run reply).2.options = session.options := by
  cases argument <;> rfl

/-- Only opening the store again changes the limits in force. -/
theorem step_options {operation : Operation}
    (kept : ∀ options, operation = .reopen options → options = session.options) :
    (session.step operation).2.options = session.options := by
  cases operation with
  | register | slot | create | commit | storeRemove =>
    rw [step]
    exact session.options_change _ _ _
  | onDuty instant buffer => rw [step_onDuty]
  | importStaff octets =>
    rcases session.step_importStaff_cases octets with ⟨staff, -, eq⟩ | ⟨refusal, eq⟩ <;> rw [eq]
  | reopen options => exact kept options rfl
  | _ => rfl

/-- Every effect but one keeps a ledger consistent: a stored value that is overwritten need not be
one that the store would write. -/
theorem Effect.consistent {session : Session} {operation : Operation} {after : Ledger}
    (effect : session.Effect operation after) (intact : operation.isIntact = true)
    (h : session.store.ledger.Consistent) : after.Consistent := by
  cases effect with
  | unchanged => exact h
  | emptied => exact .empty
  | enrolled rows =>
    exact Ledger.enrol_induction (fun _ name role h => h.registerEmployee name role) h rows
  | slotEnsured date number => exact h.ensureSlot date number
  | booked asked granted =>
    apply h.withBooking _ granted.known
    rw [← h.holds_ensureSlot, granted.fresh]
    exact Bool.false_ne_true
  | removed employee date number => exact h.keepAssignments _
  | created asked fresh known_employee known_slot =>
    exact h.addAssignment _ fresh known_employee known_slot
  | overwritten asked => simp [asked, Operation.isIntact] at intact

end Step

/-- What is asked of a step holds of every step of a run, in the session in which it is taken. -/
def Throughout (P : Session → Operation → Prop) : Session → List Operation → Prop
  | _, [] => True
  | session, operation :: rest =>
    P session operation ∧ Throughout P (session.step operation).2 rest

/-- What is asked of a step holds of some step of a run, in the session in which it is taken. -/
def Sometime (P : Session → Operation → Prop) : Session → List Operation → Prop
  | _, [] => False
  | session, operation :: rest =>
    P session operation ∨ Sometime P (session.step operation).2 rest

section Runs

variable {P Q : Session → Operation → Prop}

instance decidableThroughout [∀ session operation, Decidable (P session operation)] :
    (session : Session) → (operations : List Operation) →
      Decidable (session.Throughout P operations)
  | _, [] => .isTrue trivial
  | session, operation :: rest =>
    @instDecidableAnd _ _ _ (decidableThroughout (session.step operation).2 rest)

instance decidableSometime [∀ session operation, Decidable (P session operation)] :
    (session : Session) → (operations : List Operation) →
      Decidable (session.Sometime P operations)
  | _, [] => .isFalse id
  | session, operation :: rest =>
    @instDecidableOr _ _ _ (decidableSometime (session.step operation).2 rest)

/-- A run takes its first step, and then the others from where that has led. -/
theorem run_cons (session : Session) (operation : Operation) (rest : List Operation) :
    session.run (operation :: rest) =
      ((session.step operation).1 :: ((session.step operation).2.run rest).1,
        ((session.step operation).2.run rest).2) := by
  rfl

/-- A property that steps preserve holds after a run if it holds before. -/
theorem run_invariant (Inv : Session → Prop)
    (preserved : ∀ session operation, Inv session → P session operation →
      Inv (session.step operation).2)
    {session : Session} (start : Inv session) {operations : List Operation}
    (all : session.Throughout P operations) : Inv (session.run operations).2 := by
  induction operations generalizing session with
  | nil => exact start
  | cons operation rest ih =>
    rw [run_cons]
    exact ih (preserved session operation start all.1) all.2

/-- What holds of operations in any session holds throughout every run of them. -/
theorem throughout_of_forall {p : Operation → Prop} (session : Session)
    {operations : List Operation} (all : ∀ operation ∈ operations, p operation) :
    session.Throughout (fun _ operation => p operation) operations := by
  induction operations generalizing session with
  | nil => trivial
  | cons operation rest ih =>
    refine ⟨all operation List.mem_cons_self, ih _ ?_⟩
    intro later mem
    exact all later (List.mem_cons_of_mem operation mem)

/-- Two things hold of every step if each of them does. -/
theorem Throughout.and {session : Session} {operations : List Operation}
    (h : session.Throughout P operations) (k : session.Throughout Q operations) :
    session.Throughout (fun session operation => P session operation ∧ Q session operation)
      operations := by
  induction operations generalizing session with
  | nil => trivial
  | cons operation rest ih => exact ⟨⟨h.1, k.1⟩, ih h.2 k.2⟩

/-- What holds of some step still holds of it when less is asked. -/
theorem Sometime.imp {session : Session} {operations : List Operation}
    (h : session.Sometime P operations)
    (imp : ∀ session operation, P session operation → Q session operation) :
    session.Sometime Q operations := by
  induction operations generalizing session with
  | nil => exact h
  | cons operation rest ih => exact Or.imp (imp session operation) ih h

/-- A property that steps preserve holds in every session of a run if it holds in the first. -/
theorem Throughout.with_invariant (Inv : Session → Prop)
    (preserved : ∀ session operation, Inv session → P session operation →
      Inv (session.step operation).2)
    {session : Session} (start : Inv session) {operations : List Operation}
    (all : session.Throughout P operations) :
    session.Throughout (fun session operation => Inv session ∧ P session operation)
      operations := by
  induction operations generalizing session with
  | nil => trivial
  | cons operation rest ih =>
    exact ⟨⟨start, all.1⟩, ih (preserved session operation start all.1) all.2⟩

/-- What a ledger holds after a run and did not hold before, it holds since some step of it. -/
theorem sometime_of_mem {α : Type} (content : Ledger → List α) {W : α → Session → Operation → Prop}
    (origin : ∀ session operation, P session operation →
      ∀ a ∈ content (session.step operation).2.store.ledger,
        a ∈ content session.store.ledger ∨ W a session operation)
    {session : Session} {operations : List Operation} (all : session.Throughout P operations)
    {a : α} (absent : a ∉ content session.store.ledger)
    (mem : a ∈ content (session.run operations).2.store.ledger) :
    session.Sometime (W a) operations := by
  induction operations generalizing session with
  | nil => exact absurd mem absent
  | cons operation rest ih =>
    rw [run_cons] at mem
    by_cases held : a ∈ content (session.step operation).2.store.ledger
    · rcases origin session operation all.1 a held with old | new
      · exact absurd old absent
      · exact .inl new
    · exact .inr (ih all.2 held mem)

/-- What some step of a run brings about, and all steps keep, is there after the run. -/
theorem Sometime.lasts {K : Session → Prop}
    (makes : ∀ session operation, P session operation → Q session operation →
      K (session.step operation).2)
    (keeps : ∀ session operation, K session → P session operation → K (session.step operation).2)
    {session : Session} {operations : List Operation} (all : session.Throughout P operations)
    (once : session.Sometime Q operations) : K (session.run operations).2 := by
  induction operations generalizing session with
  | nil => exact once.elim
  | cons operation rest ih =>
    rw [run_cons]
    rcases once with first | later
    · exact run_invariant K keeps (makes session operation all.1 first) all.2
    · exact ih all.2 later

/-- All along a run in which no stored value is overwritten, the ledger is consistent. -/
theorem throughout_consistent {start : Session} {operations : List Operation}
    (empty : start.store.ledger = {}) (all : start.Throughout P operations)
    (intact : ∀ session operation, P session operation → operation.isIntact = true) :
    start.Throughout (fun session operation =>
      session.store.ledger.Consistent ∧ P session operation) operations := by
  refine all.with_invariant (fun session => session.store.ledger.Consistent) ?_ ?_
  · intro session operation consistent asked
    exact (session.step_effect operation).consistent (intact session operation asked) consistent
  · rw [empty]
    exact .empty

/-- A run in which no stored value is overwritten leaves a consistent ledger behind. -/
theorem run_consistent_of_intact {start : Session} {operations : List Operation}
    (empty : start.store.ledger = {})
    (intact : ∀ operation ∈ operations, operation.isIntact = true) :
    (start.run operations).2.store.ledger.Consistent := by
  refine run_invariant (fun session => session.store.ledger.Consistent) ?_ ?_
    (start.throughout_of_forall intact)
  · intro session operation consistent intact
    exact (session.step_effect operation).consistent intact consistent
  · rw [empty]
    exact .empty

end Runs

end Session

end DutyRoster
