import DutyRoster.Proofs.Session.Capacity
import DutyRoster.Proofs.Session.Directory

/-!
# Where stored values come from

Whatever a ledger holds after a run was put there by some step of the run
(`Session.sometime_of_mem`). For assignments and slots, the steps that can have done it are those
that were asked for just that booking or slot (`Session.Effect.shift_origin`,
`Session.Effect.slot_origin`), so that what is read from a row is what was given to be stored
(`Session.run_readsBack`). This is so for every date of the calendar, since the text that is written
for a date is read back as that date whether its year is plain or not.
-/

set_option autoImplicit false

namespace DutyRoster

/-- The row of a slot of a day is read as that slot, in whatever column. -/
theorem SlotRow.Names.read {row : SlotRow} {date : Date} {number : SlotNumber}
    (names : row.Names date number) (column : Nat) :
    dateAt column row.date = .ok date ∧ slotNumberAt column row.number = .ok number := by
  rw [names.1, names.2, dateAt, Date.read_text]
  exact ⟨rfl, by cases number <;> rfl⟩

namespace Session

/-- A step makes the booking that a shift is. -/
def Books (shift : Assignment) (session : Session) (operation : Operation) : Prop :=
  ∃ request, session.bookingRequest? operation = some request ∧
    shift = ⟨⟨session.store.ledger.assignmentsIssued + 1⟩, request.employee,
      (session.store.ledger.ensureSlot request.date request.number).1.id, request.date,
      request.number, request.role⟩

/-- A step writes the row of a slot of a day. -/
def Writes (row : SlotRow) (session : Session) (operation : Operation) : Prop :=
  ∃ date number, session.slotRequest? operation = some (date, number) ∧ row.Names date number

section Origin

variable {session : Session} {operation : Operation} {after : Ledger}

/-- A new shift is the booking that the step was asked for. -/
theorem Effect.shift_origin (effect : session.Effect operation after)
    (checked : operation.isChecked = true) (h : session.store.ledger.Consistent) :
    ∀ shift ∈ after.shifts,
      shift ∈ session.store.ledger.shifts ∨ Books shift session operation := by
  intro shift mem
  cases effect with
  | unchanged => exact .inl mem
  | emptied => exact nomatch mem
  | enrolled rows =>
    rw [Ledger.shifts_enrol] at mem
    exact .inl mem
  | slotEnsured date number =>
    rw [h.shifts_ensureSlot] at mem
    exact .inl mem
  | @booked request asked granted =>
    rw [BookingRequest.book, h.shifts_withBooking, List.mem_append, List.mem_singleton] at mem
    exact mem.imp_right fun eq => ⟨request, asked, eq⟩
  | removed employee date number =>
    rw [h.shifts_withoutBooking] at mem
    exact .inl (List.mem_of_mem_filter mem)
  | created asked => simp [asked, Operation.isChecked] at checked
  | overwritten asked => simp [asked, Operation.isChecked] at checked

/-- A new row of the table of slots is for the slot that the step was asked for. -/
theorem Effect.slot_origin (effect : session.Effect operation after)
    (intact : operation.isIntact = true) :
    ∀ row ∈ after.slots, row ∈ session.store.ledger.slots ∨ Writes row session operation := by
  have ensured (date : Date) (number : SlotNumber)
      (asked : session.slotRequest? operation = some (date, number)) :
      ∀ row ∈ (session.store.ledger.ensureSlot date number).2.slots,
        row ∈ session.store.ledger.slots ∨ Writes row session operation := by
    intro row mem
    rcases session.store.ledger.ensureSlot_cases date number with ⟨_, -, -, eq⟩ | ⟨-, eq⟩ <;>
      rw [eq] at mem
    · exact .inl mem
    · rw [List.mem_append, List.mem_singleton] at mem
      exact mem.imp_right fun new => ⟨date, number, asked, by rw [new]; exact ⟨rfl, rfl⟩⟩
  cases effect with
  | unchanged => exact fun _ => .inl
  | emptied => exact fun _ mem => nomatch mem
  | enrolled rows =>
    rw [Ledger.slots_enrol]
    exact fun _ => .inl
  | slotEnsured date number asked => exact ensured date number asked
  | booked asked granted => exact ensured _ _ (slotRequest?_of_bookingRequest? asked)
  | removed employee date number => exact fun _ => .inl
  | created asked => exact fun _ => .inl
  | overwritten asked => simp [asked, Operation.isIntact] at intact

end Origin

/-- What is stored after a run can be read, and is what was given to be stored: every assignment is
read as a booking that some step of the run was asked for, every row of a slot of a day as a slot
that some step was asked for, and the directory as the roll of the run. -/
structure ReadsBack (start : Session) (operations : List Operation) : Prop where
  shifts : ∀ row ∈ (start.run operations).2.store.ledger.assignments,
    ∃ slot ∈ (start.run operations).2.store.ledger.slots, slot.id = row.slot ∧
      ∃ shift, readAssignment (row, slot) = .ok shift ∧
        start.Sometime (Books shift) operations
  slots : ∀ row ∈ (start.run operations).2.store.ledger.slots, ∃ date number,
    (∀ column, dateAt column row.date = .ok date ∧
      slotNumberAt column row.number = .ok number) ∧
    start.Sometime (fun session operation =>
      session.slotRequest? operation = some (date, number)) operations
  staff : (start.run operations).2.store.ledger.listEmployees =
    .ok (membersOf (start.roll [] operations))

section Runs

variable {start : Session} {operations : List Operation}

/-- What checked operations leave in a ledger, some step has put there. How a step adds to a ledger
need only be known of consistent ones. -/
theorem run_origin {α : Type} (content : Ledger → List α) {W : α → Session → Operation → Prop}
    (origin : ∀ (session : Session) (operation : Operation), session.store.ledger.Consistent →
      operation.isChecked = true → ∀ a ∈ content (session.step operation).2.store.ledger,
        a ∈ content session.store.ledger ∨ W a session operation)
    (empty : start.store.ledger = {}) (none : content {} = [])
    (checked : ∀ operation ∈ operations, operation.isChecked = true) {a : α}
    (mem : a ∈ content (start.run operations).2.store.ledger) :
    start.Sometime (W a) operations := by
  have consistent := throughout_consistent empty (start.throughout_of_forall checked)
    fun _ _ checked => Operation.isIntact_of_isChecked checked
  refine sometime_of_mem content ?_ consistent ?_ mem
  · rintro session operation ⟨h, checked⟩
    exact origin session operation h checked
  · rw [empty, none]
    exact List.not_mem_nil

/-- Checked operations leave behind only what can be read as it was given to be stored. -/
theorem run_readsBack (empty : start.store.ledger = {})
    (checked : ∀ operation ∈ operations, operation.isChecked = true) :
    start.ReadsBack operations where
  shifts := by
    intro row mem
    have h := run_consistent empty checked
    obtain ⟨slot, on_table, eq⟩ := h.assignment_slot row mem
    obtain ⟨shift, read, shows, -⟩ := h.read_booking (Ledger.mem_bookings.mpr ⟨mem, on_table, eq⟩)
    refine ⟨slot, on_table, eq, shift, read, ?_⟩
    refine run_origin Ledger.shifts ?_ empty rfl checked (h.mem_shifts.mpr ⟨row, mem, shows⟩)
    intro session operation h checked
    exact (session.step_effect operation).shift_origin checked h
  slots := by
    intro row mem
    obtain ⟨date, number, names⟩ := (run_consistent empty checked).slot_named row mem
    refine ⟨date, number, fun column => names.read column, ?_⟩
    have written : start.Sometime (Writes row) operations := by
      refine run_origin Ledger.slots ?_ empty rfl checked mem
      intro session operation _ checked
      exact (session.step_effect operation).slot_origin (Operation.isIntact_of_isChecked checked)
    apply written.imp
    rintro session operation ⟨date', number', asked, names'⟩
    obtain ⟨rfl, rfl⟩ := names.unique names'
    exact asked
  staff := by
    have enrolled : start.store.ledger.Enrolled [] := by
      rw [empty]
      exact ⟨rfl, rfl⟩
    have after := run_enrolled enrolled fun operation mem =>
      Operation.isIntact_of_isChecked (checked operation mem)
    rw [(run_consistent empty checked).listEmployees_eq, after.staff]

end Runs

end Session

end DutyRoster
