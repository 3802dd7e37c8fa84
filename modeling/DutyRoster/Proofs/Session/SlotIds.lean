import DutyRoster.Proofs.Session.Run
import DutyRoster.Proofs.Store.Listing

/-!
# Identifiers of slots

An answer that speaks of a slot of a day gives its identifier. Such an identifier may be kept: on
one store, whatever else happens, two answers give the same identifier exactly if they speak of the
same slot of the same day, and the identifier goes on to stand for that slot
(`Session.run_slot_ids`).

There is one exception. A booking that comes to nothing leaves nothing behind, so if it had to
create the row of the slot first, the row goes again and its identifier is free for another slot,
although the answer gives it (`Session.rollsBack`, `Session.identifier_given_away`). This can only
be a booking that was asked for with a capacity of zero.

The argument has two halves. Apart from the exception, what an answer tells of a slot is in the
table of slots after the step (`Session.knows_of_told`); and rows of that table are never taken out
again as long as the store is the same (`Session.Effect.knows`).
-/

set_option autoImplicit false

namespace DutyRoster

/-- The slot of a day that an assignment is for. -/
def Assignment.shiftSlot (assignment : Assignment) : ShiftSlot :=
  ⟨assignment.slot, assignment.date, assignment.number⟩

/-- What the ending of a booking tells of a slot. -/
def CommitOutcome.shiftSlot : CommitOutcome → ShiftSlot
  | .committed assignment => assignment.shiftSlot
  | .alreadyAssigned slot => slot
  | .capacityReached slot _ => slot

/-- The slots of days that an answer gives with their identifiers. -/
def Reply.slots : Reply → List ShiftSlot
  | .slot shown => [shown]
  | .assignments list => list.map Assignment.shiftSlot
  | .outcome ending => [ending.shiftSlot]
  | _ => []

namespace Ledger

/-- There is a row for the slot of a day, under the identifier. -/
def Knows (ledger : Ledger) (slot : ShiftSlot) : Prop :=
  ∃ row ∈ ledger.slots, row.id = slot.id ∧ row.Names slot.date slot.number

/-- The slot that has been ensured is known. -/
theorem knows_ensureSlot (ledger : Ledger) (date : Date) (number : SlotNumber) :
    (ledger.ensureSlot date number).2.Knows (ledger.ensureSlot date number).1 := by
  obtain ⟨row, mem, eq, names⟩ := ledger.exists_ensureSlot_row date number
  exact ⟨row, mem, eq, by simpa using names⟩

/-- A slot that is known stays known when another one is ensured. -/
theorem Knows.ensureSlot {ledger : Ledger} {slot : ShiftSlot} (h : ledger.Knows slot) (date : Date)
    (number : SlotNumber) : (ledger.ensureSlot date number).2.Knows slot := by
  obtain ⟨row, mem, named⟩ := h
  refine ⟨row, ?_, named⟩
  rcases ledger.ensureSlot_cases date number with ⟨_, -, -, eq⟩ | ⟨-, eq⟩ <;> rw [eq]
  · exact mem
  · exact List.mem_append_left _ mem

/-- The slot that is ensured is known before if there is a row for it. -/
theorem knows_of_names {ledger : Ledger} {date : Date} {number : SlotNumber} {row : SlotRow}
    (mem : row ∈ ledger.slots) (names : row.Names date number) :
    ledger.Knows (ledger.ensureSlot date number).1 := by
  rcases ledger.ensureSlot_cases date number with ⟨found, on_table, names', eq⟩ | ⟨absent, -⟩
  · rw [eq]
    exact ⟨found, on_table, rfl, names'⟩
  · exact absurd names (absent row mem)

namespace Consistent

variable {ledger : Ledger} {a b slot : ShiftSlot}

/-- Identifiers tell the slots apart for which there are rows. -/
theorem id_eq_iff_of_knows (h : ledger.Consistent) (known_a : ledger.Knows a)
    (known_b : ledger.Knows b) : a.id = b.id ↔ a.date = b.date ∧ a.number = b.number := by
  obtain ⟨row_a, mem_a, id_a, names_a⟩ := known_a
  obtain ⟨row_b, mem_b, id_b, names_b⟩ := known_b
  rw [← id_a, ← id_b]
  constructor
  · intro same
    rw [h.slot_eq mem_a mem_b same] at names_a
    exact names_a.unique names_b
  · rintro ⟨date, number⟩
    apply h.slot_unique row_a mem_a row_b mem_b
    · rw [names_a.1, names_b.1, date]
    · rw [names_a.2, names_b.2, number]

/-- The slot of a shift is known. -/
theorem knows_of_mem_shifts (h : ledger.Consistent) {shift : Assignment}
    (mem : shift ∈ ledger.shifts) : ledger.Knows shift.shiftSlot :=
  h.shift_named mem

/-- In a slot without a row no seats are taken. -/
theorem seats_eq_zero (h : ledger.Consistent) {date : Date} {number : SlotNumber}
    (absent : ledger.findSlot? date number = none) (role : Role) :
    ledger.seats date number role = 0 := by
  rw [seats, List.countP_eq_zero]
  intro shift mem
  rw [decide_eq_true_eq]
  rintro ⟨rfl, rfl, -⟩
  obtain ⟨row, on_table, -, names⟩ := h.shift_named mem
  exact List.find?_eq_none.mp absent row on_table (decide_eq_true names)

/-- What the store finds under the identifier of a slot is what there is in the slot. -/
theorem found_of_knows (h : ledger.Consistent) (known : ledger.Knows slot) :
    (∀ employee, ledger.isAssigned employee slot.id = true ↔
      ledger.Holds employee slot.date slot.number) ∧
    ∀ role, ledger.countByRole slot.id role =
      boundedCount (ledger.seats slot.date slot.number role) := by
  obtain ⟨row, mem, id, names⟩ := known
  rw [← id]
  constructor
  · exact fun employee => (h.holds_iff mem names employee).symm
  · intro role
    rw [h.seats_eq mem names]
    rfl

end Consistent

end Ledger

/-- The operation may be answered with slots of days. -/
def Operation.showsSlots : Operation → Bool
  | .slot .. => true
  | .commit .. => true
  | .list .. => true
  | .storeList .. => true
  | _ => false

namespace Session

/-- The slots of days that a step is answered with. -/
def told : Except Refusal Reply → List ShiftSlot
  | .ok reply => reply.slots
  | .error _ => []

/-- The step asks for a booking that finds the capacity reached in a slot for which there is no row:
the row that it creates goes again. -/
def rollsBack (session : Session) (operation : Operation) : Bool :=
  match (session.step operation).1 with
  | .ok (.outcome (.capacityReached slot _)) =>
    (session.store.ledger.findSlot? slot.date slot.number).isNone
  | _ => false

/-- A step is answered with a slot of a day whose identifier may be kept. -/
def Tells (slot : ShiftSlot) (session : Session) (operation : Operation) : Prop :=
  slot ∈ told (session.step operation).1 ∧ session.rollsBack operation = false

instance (slot : ShiftSlot) (session : Session) (operation : Operation) :
    Decidable (Tells slot session operation) :=
  inferInstanceAs (Decidable (_ ∧ _))

/-- A step does not go over to another store: none is opened, or only the one that was there. -/
def KeepsStore (session : Session) (operation : Operation) : Prop :=
  operation.opensStore = true → session.durable = true

instance (session : Session) (operation : Operation) : Decidable (KeepsStore session operation) :=
  inferInstanceAs (Decidable (_ → _))

section Step

variable {session : Session} {operation : Operation} {slot : ShiftSlot}

/-- On the same store, a slot that is known stays known. -/
theorem Effect.knows {after : Ledger} (effect : session.Effect operation after)
    (intact : operation.isIntact = true) (keeps : session.KeepsStore operation)
    (known : session.store.ledger.Knows slot) : after.Knows slot := by
  cases effect with
  | unchanged => exact known
  | emptied volatile asked =>
    have durable := keeps (by rw [asked]; rfl)
    rw [volatile] at durable
    cases durable
  | enrolled rows =>
    unfold Ledger.Knows
    rw [Ledger.slots_enrol]
    exact known
  | slotEnsured date number => exact known.ensureSlot date number
  | @booked request => exact known.ensureSlot request.date request.number
  | removed | created => exact known
  | overwritten asked => simp [asked, Operation.isIntact] at intact

section Silence

variable {α β : Type}

/-- An answer without slots tells of none. -/
theorem told_of_silent {result : Except Refusal Reply}
    (silent : ∀ answer, result = .ok answer → answer.slots = []) : told result = [] := by
  cases result with
  | ok answer => exact silent answer rfl
  | error refusal => rfl

/-- A change that is answered without slots tells of none. -/
theorem told_change {argument : Except Refusal α}
    {run : α → Ledger → Except StoreError β × Ledger} {reply : β → Reply}
    (silent : ∀ value, (reply value).slots = []) :
    told (session.change argument run reply).1 = [] := by
  apply told_of_silent
  intro answer answered
  obtain ⟨_, value, -, -, rfl, -⟩ := of_change answered
  exact silent value

/-- A request that the scheduler answers without slots tells of none. -/
theorem told_ofRequest {reply : α → Reply} (silent : ∀ value, (reply value).slots = [])
    (result : Except SchedulingError α) : told (ofRequest reply result) = [] := by
  apply told_of_silent
  intro answer answered
  obtain ⟨value, -, rfl⟩ := of_ofRequest answered
  exact silent value

/-- A question that the store answers without slots tells of none. -/
theorem told_ofStore {reply : α → Reply} (silent : ∀ value, (reply value).slots = [])
    (result : Except StoreError α) : told (ofStore reply result) = [] := by
  apply told_of_silent
  intro answer answered
  obtain ⟨value, -, rfl⟩ := of_ofStore answered
  exact silent value

/-- Only the operations that may be answered with slots tell of any. -/
theorem told_eq_nil (session : Session) {operation : Operation}
    (silent : operation.showsSlots = false) : told (session.step operation).1 = [] := by
  cases operation with
  | slot | commit | list | storeList => simp [Operation.showsSlots] at silent
  | register | create | storeRemove =>
    rw [step]
    exact told_change fun _ => rfl
  | assign | remove | availability | onCall | onCallNow | exportAvailability =>
    exact told_ofRequest (fun _ => rfl) _
  | «find» | employees | counts | overwrite => exact told_ofStore (fun _ => rfl) _
  | count slot text =>
    rw [step]
    cases readRole text with
    | ok role => exact told_ofStore (fun _ => rfl) _
    | error refusal => rfl
  | onDuty instant buffer =>
    rw [step]
    cases session.store.ledger.onDuty instant (buffer * nanosPerMilli) with
    | ok staff => rfl
    | error cause => cases cause <;> rfl
  | importStaff octets =>
    rw [step, importStaff]
    cases readStaffFile octets with
    | ok rows => exact told_ofStore (fun _ => rfl) _
    | error cause => rfl
  | exportShifts employee range =>
    rw [step, exportShifts]
    cases session.store.listShifts employee range with
    | error cause => rfl
    | ok shifts =>
      cases session.store.ledger.listEmployees with
      | ok staff => exact told_ofRequest (fun _ => rfl) _
      | error cause => rfl
  | _ => rfl

end Silence

/-- Listed assignments are shifts, so the slots that they are for are known. -/
theorem knows_of_listAssignments {ledger : Ledger} (h : ledger.Consistent) {employee : EmployeeId}
    {range : Option (Date × Date)} {list : List Assignment}
    (listed : ledger.listAssignments employee range = .ok list)
    (mem : slot ∈ list.map Assignment.shiftSlot) : ledger.Knows slot := by
  obtain ⟨shift, on_list, rfl⟩ := List.mem_map.mp mem
  obtain ⟨list', eq, perm⟩ := h.listAssignments_perm employee range
  rw [listed, Except.ok.injEq] at eq
  subst eq
  exact h.knows_of_mem_shifts (List.mem_of_mem_filter (perm.mem_iff.mp on_list))

/-- A list of the scheduler is one of the store. -/
theorem exists_listAssignments_of_listShifts {store : Store} {employee : EmployeeId}
    {range : Option (Date × Date)} {list : List Assignment}
    (listed : store.listShifts employee range = .ok list) :
    ∃ own, store.ledger.listAssignments own range = .ok list := by
  unfold Store.listShifts at listed
  cases checked : Store.checkRange range with
  | error cause => simp [checked, bind, Except.bind] at listed
  | ok done =>
    cases found : store.requestEmployee employee with
    | error cause => simp [checked, found, bind, Except.bind] at listed
    | ok member =>
      refine ⟨member.id, ?_⟩
      cases read : store.ledger.listAssignments member.id range with
      | error cause =>
        simp [checked, found, read, Store.asRefusal, Except.mapError, bind, Except.bind] at listed
      | ok list' =>
        simpa [checked, found, read, Store.asRefusal, Except.mapError, bind, Except.bind]
          using listed

/-- Both lists, that of the scheduler and that of the store, are made by the store. -/
theorem of_step_list {employee : EmployeeId} {range : Option (Date × Date)} {answer : Reply}
    (answered : (session.step operation).1 = .ok answer)
    (lists : operation = .list employee range ∨ operation = .storeList employee range) :
    ∃ own list, session.store.ledger.listAssignments own range = .ok list ∧
      answer = .assignments list := by
  rcases lists with rfl | rfl
  · obtain ⟨list, listed, rfl⟩ := of_ofRequest answered
    obtain ⟨own, eq⟩ := exists_listAssignments_of_listShifts listed
    exact ⟨own, list, eq, rfl⟩
  · obtain ⟨list, listed, rfl⟩ := of_ofStore answered
    exact ⟨employee, list, listed, rfl⟩

/-- The slot that a booking is answered with is known after it, unless its row was rolled back. -/
theorem knows_of_commitAssignment {ledger : Ledger} (h : ledger.Consistent) {employee : EmployeeId}
    {date : Date} {number : SlotNumber} {role : Role} {capacity : UInt32} {outcome : CommitOutcome}
    (answer : (ledger.commitAssignment employee date number role capacity).1 = .ok outcome)
    (kept : ∀ occupied, outcome = .capacityReached (ledger.ensureSlot date number).1 occupied →
      ∃ row ∈ ledger.slots, row.Names date number) :
    (ledger.commitAssignment employee date number role capacity).2.Knows outcome.shiftSlot := by
  rw [h.commitAssignment_eq] at answer ⊢
  dsimp only at answer ⊢
  split_ifs at answer ⊢ with holds fits full known <;> cases answer
  · -- the employee holds the slot, so there is a row for it
    obtain ⟨shift, mem, -, rfl, rfl⟩ := holds
    obtain ⟨row, on_table, -, names⟩ := h.shift_named mem
    exact Ledger.knows_of_names on_table names
  · obtain ⟨row, on_table, names⟩ := kept _ rfl
    exact Ledger.knows_of_names on_table names
  · obtain ⟨row, mem, eq, names⟩ := ledger.exists_ensureSlot_row date number
    exact ⟨row, mem, eq, names⟩

/-- What a step is answered with is known after it, unless it was rolled back. -/
theorem knows_of_told (h : session.store.ledger.Consistent) (tells : Tells slot session operation) :
    (session.step operation).2.store.ledger.Knows slot := by
  obtain ⟨mem, kept⟩ := tells
  have of_silent (silent : told (session.step operation).1 = []) :
      (session.step operation).2.store.ledger.Knows slot := by
    rw [silent] at mem
    cases mem
  cases answered : (session.step operation).1 with
  | error refusal =>
    rw [answered] at mem
    cases mem
  | ok answer =>
    rw [answered] at mem
    cases operation with
    | slot date n =>
      rw [step] at answered ⊢
      obtain ⟨number, place, -, found, rfl, left⟩ := of_change answered
      rw [left]
      cases found
      cases List.mem_singleton.mp mem
      exact session.store.ledger.knows_ensureSlot date number
    | commit employee date n text capacity =>
      unfold rollsBack at kept
      rw [answered] at kept
      rw [step] at answered ⊢
      obtain ⟨⟨role, number⟩, outcome, -, found, rfl, left⟩ := of_change answered
      rw [left]
      cases List.mem_singleton.mp mem
      apply knows_of_commitAssignment h found
      -- a booking that found no room leaves the slot only if it was there before
      rintro occupied rfl
      simp only [Ledger.ensureSlot_date, Ledger.ensureSlot_number] at kept
      cases listed : session.store.ledger.findSlot? date number with
      | none => simp [listed] at kept
      | some row =>
        have names := List.find?_some listed
        rw [decide_eq_true_eq] at names
        exact ⟨row, List.mem_of_find?_eq_some listed, names⟩
    | list employee range =>
      obtain ⟨own, list, listed, rfl⟩ := of_step_list answered (.inl rfl)
      exact knows_of_listAssignments h listed mem
    | storeList employee range =>
      obtain ⟨own, list, listed, rfl⟩ := of_step_list answered (.inr rfl)
      exact knows_of_listAssignments h listed mem
    | _ => exact of_silent (told_eq_nil session rfl)

/-- Only a booking with a capacity of zero is rolled back. -/
theorem of_rollsBack (h : session.store.ledger.Consistent)
    (rolled : session.rollsBack operation = true) :
    ∃ employee date n role, operation = .commit employee date n role 0 := by
  unfold rollsBack at rolled
  split at rolled
  · rename_i slot occupied answered
    rw [Option.isNone_iff_eq_none] at rolled
    have shows : operation.showsSlots = true := by
      rw [← Bool.not_eq_false]
      intro silent
      have none := told_eq_nil session silent
      rw [answered] at none
      cases none
    cases operation with
    | commit employee date n text capacity =>
      rw [step] at answered
      obtain ⟨⟨role, number⟩, outcome, -, found, eq, -⟩ := of_change answered
      cases eq
      dsimp only at found
      rw [h.commitAssignment_eq] at found
      dsimp only at found
      split_ifs at found with holds fits full known <;> cases found
      rw [Ledger.ensureSlot_date, Ledger.ensureSlot_number] at rolled
      -- nobody is in a slot that was not there, so there was no room in it from the start
      rw [h.seats_eq_zero rolled] at full
      have zero : capacity = 0 := UInt32.toNat_inj.mp (Nat.le_zero.mp full)
      exact ⟨employee, date, n, text, by rw [zero]⟩
    | slot date n =>
      rw [step] at answered
      obtain ⟨number, place, -, -, eq, -⟩ := of_change answered
      cases eq
    | list employee range =>
      obtain ⟨own, list, -, eq⟩ := of_step_list answered (.inl rfl)
      cases eq
    | storeList employee range =>
      obtain ⟨own, list, -, eq⟩ := of_step_list answered (.inr rfl)
      cases eq
    | _ => cases shows
  · cases rolled

end Step

section Runs

variable {start : Session} {operations : List Operation}

/-- What is told of a slot in the course of a run on one store is known after it. -/
theorem run_knows (empty : start.store.ledger = {})
    (intact : ∀ operation ∈ operations, operation.isIntact = true)
    (keeps : start.Throughout KeepsStore operations) {slot : ShiftSlot}
    (tells : start.Sometime (Tells slot) operations) :
    (start.run operations).2.store.ledger.Knows slot := by
  have all := throughout_consistent empty
    ((start.throughout_of_forall intact).and keeps) fun _ _ asked => asked.1
  refine tells.lasts (K := fun session => session.store.ledger.Knows slot) ?_ ?_ all
  · rintro session operation ⟨consistent, -⟩ tells
    exact knows_of_told consistent tells
  · rintro session operation known ⟨-, intact, keeps⟩
    exact (session.step_effect operation).knows intact keeps known

/-- Along every run on one store in which no stored value is overwritten, slots that answers tell of
have the same identifier exactly if they are the same slot of the same day, except where a booking
was rolled back; and in the end the store finds under such an identifier what there is in the slot.
Only bookings with a capacity of zero are rolled back. -/
theorem run_slot_ids (empty : start.store.ledger = {})
    (intact : ∀ operation ∈ operations, operation.isIntact = true)
    (keeps : start.Throughout KeepsStore operations) :
    let session := (start.run operations).2
    (∀ a b, start.Sometime (Tells a) operations → start.Sometime (Tells b) operations →
      (a.id = b.id ↔ a.date = b.date ∧ a.number = b.number)) ∧
    (∀ slot, start.Sometime (Tells slot) operations →
      (∀ employee, session.store.ledger.isAssigned employee slot.id = true ↔
        session.store.ledger.Holds employee slot.date slot.number) ∧
      ∀ role, session.store.ledger.countByRole slot.id role =
        boundedCount (session.store.ledger.seats slot.date slot.number role)) ∧
    ∀ operation, session.rollsBack operation = true →
      ∃ employee date n role, operation = .commit employee date n role 0 := by
  intro session
  have h : session.store.ledger.Consistent := run_consistent_of_intact empty intact
  refine ⟨?_, ?_, ?_⟩
  · intro a b tells_a tells_b
    exact h.id_eq_iff_of_knows (run_knows empty intact keeps tells_a)
      (run_knows empty intact keeps tells_b)
  · intro slot tells
    exact h.found_of_knows (run_knows empty intact keeps tells)
  · exact fun operation => of_rollsBack h

/-- The early slot of 1 August 2020 has the same identifier where it is created and where a second
booking of it is refused, also after the file has been opened again; the late slot of the next day
has another one. -/
theorem run_slot_ids_of_two_slots :
    let next : Date := ⟨738004, by decide, by decide⟩
    let operations : List Operation := [.register "Ada" "medic", .slot sampleDay 1,
      .assign ⟨1⟩ "2020-08-01" 1, .reopen {}, .commit ⟨1⟩ sampleDay 1 "medic" 2, .slot next 2]
    let early : ShiftSlot := ⟨⟨1⟩, sampleDay, .early⟩
    let late : ShiftSlot := ⟨⟨3⟩, next, .late⟩
    let ledger := (sample.run operations).2.store.ledger
    (∀ operation ∈ operations, operation.isIntact = true) ∧
      sample.Throughout KeepsStore operations ∧
      (sample.run operations).1.flatMap told = [early, early, late] ∧
      sample.Sometime (Tells early) operations ∧ sample.Sometime (Tells late) operations ∧
      (early.id = late.id ↔ early.date = late.date ∧ early.number = late.number) ∧
      (ledger.isAssigned ⟨1⟩ early.id = true ↔ ledger.Holds ⟨1⟩ early.date early.number) := by
  intro next operations early late ledger
  have empty : sample.store.ledger = {} := rfl
  have intact : ∀ operation ∈ operations, operation.isIntact = true := by decide
  have keeps : sample.Throughout KeepsStore operations := by decide +kernel
  have tells_early : sample.Sometime (Tells early) operations := by decide +kernel
  have tells_late : sample.Sometime (Tells late) operations := by decide +kernel
  obtain ⟨same_iff, found, -⟩ := run_slot_ids empty intact keeps
  exact ⟨intact, keeps, by decide +kernel, tells_early, tells_late,
    same_iff early late tells_early tells_late, (found early tells_early).1 ⟨1⟩⟩

/-- Where a booking is rolled back, its answer gives an identifier away. An administrator is to be
booked with a capacity of zero for a slot without a row; the answer gives the identifier 1 for it.
So does the answer to the next request for a slot, which is another one, while the first slot later
comes to have the identifier 2. -/
theorem identifier_given_away :
    let next : Date := ⟨738004, by decide, by decide⟩
    let operations : List Operation := [.register "Zoe" "administrator",
      .commit ⟨1⟩ sampleDay 1 "administrator" 0, .slot next 2, .slot sampleDay 1]
    let slots := (sample.run operations).1.flatMap told
    (∀ operation ∈ operations, operation.isIntact = true ∧ operation.opensStore = false) ∧
      slots = [⟨⟨1⟩, sampleDay, .early⟩, ⟨⟨1⟩, next, .late⟩, ⟨⟨2⟩, sampleDay, .early⟩] ∧
      ¬ ∀ a ∈ slots, ∀ b ∈ slots, (a.id = b.id ↔ a.date = b.date ∧ a.number = b.number) := by
  decide +kernel

end Runs

end Session

end DutyRoster
