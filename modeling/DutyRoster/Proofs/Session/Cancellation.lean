import DutyRoster.Proofs.Session.Booking
import DutyRoster.Proofs.Session.Failures
import DutyRoster.Proofs.Store.Alike

/-!
# Cancelling undoes booking

A booking that is made and removed again leaves traces in the tables: the row of the slot stays, and
identifiers have been used up. Nobody can tell. The sessions before and after are alike
(`Session.Alike`), alike sessions answer every operation alike that names no slot by its identifier,
and they are alike after it (`Session.Alike.step`). So every later run of such operations gets the
same answers from both, identifiers left out (`Session.run_cancel_undoes_booking`).

A shift file has the identifiers of assignments in its first column. Two files are compared record
by record without that column, since a text cannot leave it out by itself.
-/

set_option autoImplicit false

namespace DutyRoster

/-- An answer with the identifiers of assignments and slots left out. -/
def Reply.withoutIds : Reply → Reply
  | .receipt granted => .receipt { granted with id := ⟨0⟩ }
  | .assignments list => .assignments (list.map Assignment.withoutIds)
  | .slot place => .slot { place with id := ⟨0⟩ }
  | .assignmentId _ => .assignmentId ⟨0⟩
  | .outcome ending => .outcome ending.withoutIds
  | other => other

/-- Two answers are equal apart from identifiers of assignments and slots. The texts of shift files
have them in the first field of every record. -/
inductive Reply.Alike : Reply → Reply → Prop
  | same {a b : Reply} (same : a.withoutIds = b.withoutIds) : Alike a b
  | shiftFiles {rows rows' : List (List (List Char))}
      (same : rows.map List.tail = rows'.map List.tail) :
      Alike (.text (Csv.fileText (shiftFileHeading :: rows)))
        (.text (Csv.fileText (shiftFileHeading :: rows')))

/-- Two operations were both refused for the same cause, or both answered alike. -/
def AnswersAlike : Except Refusal Reply → Except Refusal Reply → Prop
  | .ok a, .ok b => a.Alike b
  | .error cause, .error cause' => cause = cause'
  | _, _ => False

namespace AnswersAlike

/-- Every answer is like itself. -/
theorem refl (answer : Except Refusal Reply) : AnswersAlike answer answer := by
  cases answer with
  | ok reply => exact .same rfl
  | error cause => rfl

/-- Equal answers are alike. -/
theorem of_eq {a b : Except Refusal Reply} (same : a = b) : AnswersAlike a b :=
  same ▸ refl a

end AnswersAlike

/-- The operation names no slot by its identifier, and does not overwrite stored values. -/
def Operation.namesNoId : Operation → Bool
  | .isAssigned .. => false
  | .count .. => false
  | .create .. => false
  | .overwrite .. => false
  | _ => true

/-- Two stores are alike if they can be written to alike and their ledgers are alike. -/
structure Store.Alike (a b : Store) : Prop where
  lock : a.lock = b.lock
  ledger : a.ledger.Alike b.ledger

namespace Store.Alike

variable {a b : Store}

/-- The same change of alike stores is answered alike, whatever that means for the change, if it is
so for the ledgers and for a refusal. -/
theorem write (h : a.Alike b) {α : Type} {change : Ledger → Except StoreError α × Ledger}
    (R : Except StoreError α → Except StoreError α → Prop)
    (refused : ∀ cause, R (.error cause) (.error cause))
    (changed : R (change a.ledger).1 (change b.ledger).1 ∧
      (change a.ledger).2.Alike (change b.ledger).2) :
    R (a.write change).1 (b.write change).1 ∧ (a.write change).2.Alike (b.write change).2 := by
  unfold Store.write
  rw [← h.lock]
  cases a.lock with
  | free => exact ⟨changed.1, rfl, changed.2⟩
  | heldElsewhere => exact ⟨refused _, h⟩
  | readOnly => exact ⟨refused _, h⟩

/-- An employee who makes a request is found alike in alike stores. -/
theorem requestEmployee (h : a.Alike b) (id : EmployeeId) :
    a.requestEmployee id = b.requestEmployee id := by
  simp only [Store.requestEmployee, h.ledger.findEmployee]

/-- A request to assign passes the same checks in alike stores, and fails the same. -/
theorem vetRequest (h : a.Alike b) (options : Options) (today : Date) (employee : EmployeeId)
    (date : String) (slot : Nat) :
    a.vetRequest options today employee date slot =
      b.vetRequest options today employee date slot := by
  have days (id : EmployeeId) (day : Date) (radius : Nat) :
      a.dutyDaysAround id day radius = b.dutyDaysAround id day radius := by
    obtain ⟨list, list', eq, eq', same⟩ :=
      h.ledger.exists_listAssignments id (some (surroundings day radius))
    have dates : list.map (·.date) = list'.map (·.date) := by
      have mapped := congrArg (List.map Assignment.date) same
      rwa [List.map_map, List.map_map] at mapped
    simp only [Store.dutyDaysAround, Store.asRefusal, eq, eq', Except.mapError, bind, Except.bind,
      dates]
  simp only [Store.vetRequest, h.requestEmployee, days]

/-- The shifts of an employee are listed alike, or refused for the same cause. -/
theorem listShifts (h : a.Alike b) (employee : EmployeeId) (range : Option (Date × Date)) :
    (a.listShifts employee range).map (List.map Assignment.withoutIds) =
      (b.listShifts employee range).map (List.map Assignment.withoutIds) := by
  simp only [Store.listShifts, h.requestEmployee, bind, Except.bind]
  cases Store.checkRange range with
  | error cause => rfl
  | ok =>
    cases b.requestEmployee employee with
    | error cause => rfl
    | ok member =>
      obtain ⟨list, list', eq, eq', same⟩ := h.ledger.exists_listAssignments member.id range
      simp only [Store.asRefusal, eq, eq', Except.mapError, Except.map, same]

/-- The same grid is shown from alike stores. -/
theorem availability (h : a.Alike b) (options : Options) (start : String) (days : Nat) :
    a.availability options start days = b.availability options start days := by
  simp only [Store.availability, h.ledger.aggregateCounts]

/-- The same people are on call in alike stores. -/
theorem onCall (h : a.Alike b) (at_ : Instant) (buffer : Int) :
    a.onCall at_ buffer = b.onCall at_ buffer := by
  simp only [Store.onCall, h.ledger.onDuty]

/-- Several members of staff are registered alike in alike stores, which stay alike. -/
theorem registerAll (h : a.Alike b) (rows : List NewEmployee) :
    (a.registerAll rows).1 = (b.registerAll rows).1 ∧
      (a.registerAll rows).2.Alike (b.registerAll rows).2 := by
  induction rows generalizing a b with
  | nil => exact ⟨rfl, h⟩
  | cons row rows ih =>
    obtain ⟨answer, after⟩ := h.write Eq (fun _ => rfl)
      (h.ledger.registerEmployee row.name row.role)
    unfold Store.registerAll
    cases written : a.write (Ledger.registerEmployee row.name row.role) with
    | mk answer_a after_a =>
      cases written' : b.write (Ledger.registerEmployee row.name row.role) with
      | mk answer_b after_b =>
        rw [written, written'] at answer after
        simp only at answer after
        subst answer
        cases answer_a with
        | ok member => exact ih after
        | error cause => exact ⟨rfl, after⟩

end Store.Alike

/-- Answers that agree under a map are refusals for the same cause, or values that agree. -/
theorem map_eq_map_cases {α β ε : Type} {f : α → β} {x y : Except ε α} (same : x.map f = y.map f) :
    (∃ cause, x = .error cause ∧ y = .error cause) ∨
      ∃ a b, x = .ok a ∧ y = .ok b ∧ f a = f b := by
  cases x with
  | error cause =>
    cases y with
    | error cause' =>
      simp only [Except.map, Except.error.injEq] at same
      exact .inl ⟨cause, rfl, by rw [same]⟩
    | ok b => cases same
  | ok a =>
    cases y with
    | error cause => cases same
    | ok b =>
      simp only [Except.map, Except.ok.injEq] at same
      exact .inr ⟨a, b, rfl, rfl, same⟩

section ShiftFiles

variable (employees : List Employee)

/-- The fields after the first are written shift by shift, as the records are. -/
theorem map_tail_shiftRows (shifts : List Assignment) :
    (shiftRows employees shifts).map (List.map List.tail) =
      shifts.mapM fun shift => (shiftFields employees shift).map List.tail := by
  induction shifts with
  | nil => rfl
  | cons shift rest ih =>
    rw [List.mapM_cons, ← ih, shiftRows]
    cases shiftFields employees shift with
    | error cause => rfl
    | ok record => cases shiftRows employees rest <;> rfl

/-- The records of shifts that agree apart from identifiers agree in all fields but the first. -/
theorem shiftRows_alike {shifts shifts' : List Assignment}
    (same : shifts.map Assignment.withoutIds = shifts'.map Assignment.withoutIds) :
    (shiftRows employees shifts).map (List.map List.tail) =
      (shiftRows employees shifts').map (List.map List.tail) := by
  have blind (shift : Assignment) : (shiftFields employees shift.withoutIds).map List.tail =
      (shiftFields employees shift).map List.tail := by
    simp only [shiftFields, Assignment.withoutIds]
    cases shift.number.window? shift.date <;> rfl
  have read (list : List Assignment) :
      ((list.map Assignment.withoutIds).mapM fun shift =>
        (shiftFields employees shift).map List.tail) =
        list.mapM fun shift => (shiftFields employees shift).map List.tail := by
    have tails :
        (fun shift => (shiftFields employees shift).map List.tail) ∘ Assignment.withoutIds =
          fun shift => (shiftFields employees shift).map List.tail := funext blind
    rw [List.mapM_map, tails]
  rw [map_tail_shiftRows, map_tail_shiftRows, ← read shifts, same, read]

/-- Shift files of shifts that agree apart from identifiers are alike, or cannot be written for the
same cause. -/
theorem shiftFile_alike {shifts shifts' : List Assignment}
    (same : shifts.map Assignment.withoutIds = shifts'.map Assignment.withoutIds) :
    AnswersAlike (Session.ofRequest .text (shiftFile shifts employees))
      (Session.ofRequest .text (shiftFile shifts' employees)) := by
  unfold shiftFile
  rcases map_eq_map_cases (shiftRows_alike employees same) with
    ⟨cause, eq, eq'⟩ | ⟨records, records', eq, eq', tails⟩ <;> rw [eq, eq']
  · exact .refl _
  · exact .shiftFiles tails

end ShiftFiles

namespace Session

/-- Two sessions are alike if their stores are, at the same time and under the same limits. -/
structure Alike (s t : Session) : Prop where
  store : s.store.Alike t.store
  now : s.now = t.now
  options : s.options = t.options
  durable : s.durable = t.durable

/-- Answers of the store that agree apart from identifiers are reported alike. -/
theorem ofStore_alike {α β : Type} {erase : α → β} (reply : α → Reply)
    (blind : ∀ a b, erase a = erase b → (reply a).withoutIds = (reply b).withoutIds)
    {answer answer' : Except StoreError α} (same : answer.map erase = answer'.map erase) :
    AnswersAlike (ofStore reply answer) (ofStore reply answer') := by
  rcases map_eq_map_cases same with ⟨cause, rfl, rfl⟩ | ⟨a, b, rfl, rfl, agree⟩
  · exact .refl _
  · exact .same (blind a b agree)

/-- Receipts differ in their number only if the bookings ended alike. -/
theorem receipt_alike (member : Employee) (day : Date) (number : SlotNumber) (capacity : UInt32)
    {ending ending' : Except StoreError CommitOutcome}
    (same : ending.map CommitOutcome.withoutIds = ending'.map CommitOutcome.withoutIds) :
    AnswersAlike (ofRequest .receipt (Store.receipt member day number capacity ending))
      (ofRequest .receipt (Store.receipt member day number capacity ending')) := by
  rcases map_eq_map_cases same with ⟨cause, rfl, rfl⟩ | ⟨outcome, outcome', rfl, rfl, agree⟩
  · exact .refl _
  · cases outcome <;> cases outcome' <;> simp only [CommitOutcome.withoutIds, reduceCtorEq] at agree
    · exact .same rfl
    · exact .refl _
    · exact .refl _

namespace Alike

variable {s t : Session}

/-- A change of the store is answered alike in alike sessions and leaves alike sessions behind if
this is so for their ledgers. -/
theorem change (h : s.Alike t) {α β : Type} (argument : Except Refusal α)
    {run : α → Ledger → Except StoreError β × Ledger} {reply : β → Reply}
    (changed : ∀ a, AnswersAlike (ofStore reply (run a s.store.ledger).1)
        (ofStore reply (run a t.store.ledger).1) ∧
      (run a s.store.ledger).2.Alike (run a t.store.ledger).2) :
    AnswersAlike (s.change argument run reply).1 (t.change argument run reply).1 ∧
      (s.change argument run reply).2.Alike (t.change argument run reply).2 := by
  cases argument with
  | error refusal => exact ⟨.refl _, h⟩
  | ok a =>
    obtain ⟨answer, store⟩ := h.store.write
      (fun x y => AnswersAlike (ofStore reply x) (ofStore reply y)) (fun _ => .refl _) (changed a)
    exact ⟨answer, store, h.now, h.options, h.durable⟩

/-- A request to assign is answered alike in alike sessions, which stay alike. -/
theorem assign (h : s.Alike t) (employee : EmployeeId) (date : String) (slot : Nat) :
    AnswersAlike (s.step (.assign employee date slot)).1 (t.step (.assign employee date slot)).1 ∧
      (s.step (.assign employee date slot)).2.Alike (t.step (.assign employee date slot)).2 := by
  simp only [Session.step, Store.assign, today, h.now, h.options, h.store.vetRequest]
  cases t.store.vetRequest t.options t.now.date employee date slot with
  | error cause => exact ⟨.refl _, h.store, rfl, rfl, h.durable⟩
  | ok request =>
    obtain ⟨member, day, number⟩ := request
    let capacity := t.options.capacity.capacity member.role
    obtain ⟨ended, ledgers⟩ :=
      h.store.ledger.commitAssignment member.id day number member.role capacity
    obtain ⟨answer, store⟩ := h.store.write
      (fun x y => AnswersAlike (ofRequest .receipt (Store.receipt member day number capacity x))
        (ofRequest .receipt (Store.receipt member day number capacity y)))
      (fun _ => .refl _) ⟨receipt_alike member day number capacity ended, ledgers⟩
    exact ⟨answer, store, rfl, rfl, h.durable⟩

/-- A request to remove is answered alike in alike sessions, which stay alike. -/
theorem remove (h : s.Alike t) (employee : EmployeeId) (date : String) (slot : Nat) :
    AnswersAlike (s.step (.remove employee date slot)).1 (t.step (.remove employee date slot)).1 ∧
      (s.step (.remove employee date slot)).2.Alike (t.step (.remove employee date slot)).2 := by
  simp only [Session.step, Store.remove]
  cases (do return (← requestDate date, ← requestSlot slot) :
      Except SchedulingError (Date × SlotNumber)) with
  | error cause => exact ⟨.refl _, h⟩
  | ok place =>
    obtain ⟨day, number⟩ := place
    obtain ⟨answer, store⟩ := h.store.write Eq (fun _ => rfl)
      (h.store.ledger.removeAssignment employee day number)
    exact ⟨.of_eq (by simp only [answer]), store, h.now, h.options, h.durable⟩

/-- The shift file of an employee is exported alike from alike sessions. -/
theorem exportShifts (h : s.Alike t) (employee : EmployeeId) (range : Option (Date × Date)) :
    AnswersAlike (s.exportShifts employee range) (t.exportShifts employee range) := by
  unfold Session.exportShifts
  rw [h.store.ledger.listEmployees]
  rcases map_eq_map_cases (h.store.listShifts employee range) with
    ⟨cause, eq, eq'⟩ | ⟨shifts, shifts', eq, eq', same⟩ <;> rw [eq, eq']
  · exact .refl _
  · cases t.store.ledger.listEmployees with
    | error cause => exact .refl _
    | ok employees => exact shiftFile_alike employees same

/-- Every operation that names no slot by its identifier is answered alike in alike sessions, and
leaves alike sessions behind. -/
theorem step (h : s.Alike t) {operation : Operation} (blind : operation.namesNoId = true) :
    AnswersAlike (s.step operation).1 (t.step operation).1 ∧
      (s.step operation).2.Alike (t.step operation).2 := by
  cases operation with
  | assign employee date slot => exact h.assign employee date slot
  | remove employee date slot => exact h.remove employee date slot
  | list employee range =>
    refine ⟨?_, h⟩
    simp only [Session.step]
    rcases map_eq_map_cases (h.store.listShifts employee range) with
      ⟨cause, eq, eq'⟩ | ⟨shifts, shifts', eq, eq', same⟩ <;> rw [eq, eq']
    · exact .refl _
    · exact .same (congrArg Reply.assignments same)
  | availability start days =>
    exact ⟨.of_eq (by simp only [Session.step, h.options, h.store.availability]), h⟩
  | onCall instant buffer =>
    exact ⟨.of_eq (by simp only [Session.step, h.store.onCall]), h⟩
  | onCallNow buffer =>
    exact ⟨.of_eq (by simp only [Session.step, h.now, h.store.onCall]), h⟩
  | options => exact ⟨.of_eq (by simp only [Session.step, h.options]), h⟩
  | register name role =>
    rw [Session.step, Session.step]
    apply h.change
    intro role
    obtain ⟨answer, ledgers⟩ := h.store.ledger.registerEmployee name role
    exact ⟨.of_eq (by rw [answer]), ledgers⟩
  | find employee =>
    exact ⟨.of_eq (by simp only [Session.step, h.store.ledger.findEmployee]), h⟩
  | employees =>
    exact ⟨.of_eq (by simp only [Session.step, h.store.ledger.listEmployees]), h⟩
  | slot date number =>
    rw [Session.step, Session.step]
    apply h.change
    intro number
    have slots := (s.store.ledger.ensureSlot_withoutId date number).trans
      (t.store.ledger.ensureSlot_withoutId date number).symm
    exact ⟨.same (congrArg Reply.slot slots), h.store.ledger.ensureSlot date number⟩
  | commit employee date number role capacity =>
    rw [Session.step, Session.step]
    apply h.change
    rintro ⟨role, number⟩
    obtain ⟨ended, ledgers⟩ :=
      h.store.ledger.commitAssignment employee date number role capacity
    exact ⟨ofStore_alike .outcome (fun _ _ same => congrArg Reply.outcome same) ended, ledgers⟩
  | storeRemove employee date number =>
    rw [Session.step, Session.step]
    apply h.change
    intro number
    obtain ⟨answer, ledgers⟩ := h.store.ledger.removeAssignment employee date number
    exact ⟨.of_eq (by rw [answer]), ledgers⟩
  | storeList employee range =>
    refine ⟨?_, h⟩
    obtain ⟨list, list', eq, eq', same⟩ := h.store.ledger.exists_listAssignments employee range
    simp only [Session.step, eq, eq']
    exact .same (congrArg Reply.assignments same)
  | counts first last =>
    exact ⟨.of_eq (by simp only [Session.step, h.store.ledger.aggregateCounts]), h⟩
  | onDuty instant buffer =>
    simp only [Session.step, h.store.ledger.onDuty]
    cases t.store.ledger.onDuty instant (buffer * nanosPerMilli) with
    | ok employees => exact ⟨.refl _, h⟩
    | error cause => cases cause <;> exact ⟨.refl _, h⟩
  | importStaff octets =>
    simp only [Session.step, importStaff]
    cases readStaffFile octets with
    | error cause => exact ⟨.refl _, h⟩
    | ok rows =>
      obtain ⟨answer, store⟩ := h.store.registerAll rows
      exact ⟨.of_eq (by simp only [answer]), store, h.now, h.options, h.durable⟩
  | exportShifts employee range => exact ⟨h.exportShifts employee range, h⟩
  | exportAvailability start days =>
    exact ⟨.of_eq (by simp only [Session.step, h.options, h.store.availability]), h⟩
  | setNow now => exact ⟨.refl _, h.store, rfl, h.options, h.durable⟩
  | reopen options =>
    refine ⟨.refl _, ?_, h.now, rfl, h.durable⟩
    simp only [Session.step, h.durable]
    -- both stores are on disk and stay as they are, or both are empty
    cases t.durable with
    | true => exact h.store
    | false => exact ⟨rfl, .refl .empty⟩
  | lock => exact ⟨.refl _, ⟨rfl, h.store.ledger⟩, h.now, h.options, h.durable⟩
  | unlock => exact ⟨.refl _, ⟨rfl, h.store.ledger⟩, h.now, h.options, h.durable⟩
  | isAssigned | count | create | overwrite => simp [Operation.namesNoId] at blind

/-- Alike sessions answer alike along every run of operations that name no slot by its
identifier. -/
theorem run (h : s.Alike t) {operations : List Operation}
    (blind : ∀ operation ∈ operations, operation.namesNoId = true) :
    List.Forall₂ AnswersAlike (s.run operations).1 (t.run operations).1 := by
  induction operations generalizing s t with
  | nil => exact List.Forall₂.nil
  | cons operation rest ih =>
    obtain ⟨answer, after⟩ := h.step (blind operation List.mem_cons_self)
    rw [run_cons, run_cons]
    exact List.Forall₂.cons answer (ih after fun later mem =>
      blind later (List.mem_cons_of_mem operation mem))

end Alike

/-- In every session that is reached from an empty store, by whatever operations short of
overwriting stored values: if a request to assign is granted, the request to remove the same booking
is granted after it, and no later run of operations that name no slot by its identifier can tell
from its answers whether it started before the booking or after the removal. -/
theorem run_cancel_undoes_booking {start : Session} {operations : List Operation}
    (empty : start.store.ledger = {})
    (intact : ∀ operation ∈ operations, operation.isIntact = true) {employee : EmployeeId}
    {date : String} {slot : Nat} {reply : Reply}
    (granted : ((start.run operations).2.step (.assign employee date slot)).1 = .ok reply) :
    let session := (start.run operations).2
    let booked := (session.step (.assign employee date slot)).2
    let cancelled := booked.step (.remove employee date slot)
    cancelled.1 = .ok .done ∧
      ∀ later : List Operation, (∀ operation ∈ later, operation.namesNoId = true) →
        List.Forall₂ AnswersAlike (session.run later).1 (cancelled.2.run later).1 := by
  intro session booked cancelled
  have consistent : session.store.ledger.Consistent := run_consistent_of_intact empty intact
  obtain ⟨free, member, on_staff, day, number, rfl, read, numbered, fresh, -, left⟩ :=
    of_step_assign consistent granted
  have known := consistent.exists_row_of_mem_staff on_staff
  let ledger := session.store.ledger.withBooking member.id day number member.role
  have booked_consistent : ledger.Consistent := consistent.withBooking member.role known fresh
  have holds : ledger.Holds member.id day number := consistent.holds_withBooking _ _ _ _
  have still_free : (session.withLedger ledger).store.lock = .free := free
  have removed : cancelled = (.ok .done,
      session.withLedger (ledger.withoutBooking member.id day number)) := by
    change booked.step _ = _
    rw [show booked = session.withLedger ledger from left,
      step_remove_eq still_free booked_consistent read numbered]
    exact if_pos holds
  rw [removed]
  have alike : session.Alike (session.withLedger (ledger.withoutBooking member.id day number)) :=
    ⟨⟨rfl, .of_cancellation consistent member.role known fresh⟩, rfl, rfl, rfl⟩
  exact ⟨rfl, fun later blind => alike.run blind⟩

/-- A medic books a day next to another one, cancels, and books again. -/
theorem run_cancel_undoes_booking_of_medic :
    let operations : List Operation := [.register "Ada" "medic", .assign ⟨1⟩ "2020-08-01" 1]
    let session := (sample.run operations).2
    let booked := (session.step (.assign ⟨1⟩ "2020-08-02" 2)).2
    let cancelled := booked.step (.remove ⟨1⟩ "2020-08-02" 2)
    let later : List Operation := [.assign ⟨1⟩ "2020-08-02" 2, .list ⟨1⟩ none,
      .exportShifts ⟨1⟩ none, .register "Eva" "medic", .availability "2020-08-01" 3]
    (∀ operation ∈ operations, operation.isIntact = true) ∧
      (session.step (.assign ⟨1⟩ "2020-08-02" 2)).1.isOk = true ∧ cancelled.1 = .ok .done ∧
      (∀ operation ∈ later, operation.namesNoId = true) ∧
      List.Forall₂ AnswersAlike (session.run later).1 (cancelled.2.run later).1 := by
  intro operations session booked cancelled later
  have empty : sample.store.ledger = {} := rfl
  have intact : ∀ operation ∈ operations, operation.isIntact = true := by decide
  have blind : ∀ operation ∈ later, operation.namesNoId = true := by decide
  let day : Date := ⟨738004, by decide, by decide⟩
  have granted : (session.step (.assign ⟨1⟩ "2020-08-02" 2)).1 =
      .ok (.receipt ⟨⟨2⟩, ⟨1⟩, day, .late⟩) := by decide +kernel
  obtain ⟨done, alike⟩ := run_cancel_undoes_booking empty intact granted
  exact ⟨intact, by rw [granted]; rfl, done, blind, alike later blind⟩

end Session

end DutyRoster
