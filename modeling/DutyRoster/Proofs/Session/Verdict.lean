import DutyRoster.Proofs.Session.Booking
import DutyRoster.Proofs.Session.Capacity
import DutyRoster.Proofs.Session.DutyLimit
import DutyRoster.Proofs.Scheduler.RequestDate

/-!
# What a request to assign is answered

`Session.verdict` is the answer to a request to assign as it is meant, decided from all shifts and
all staff: the first that applies of a list of reasons for a refusal, or the booking. It counts the
days in a row around the date without a limit on where it looks, and knows nothing of rows, texts or
the way in which the store finds its answer.

While the limits stay the same, the scheduler answers what the verdict says
(`Session.run_assign_follows_verdict`). A refusal changes nothing, and a booking adds one shift.
That the scheduler looks only at the days near the date does not show, since the blocks that were
there before are within the limit themselves.
-/

set_option autoImplicit false

namespace DutyRoster

namespace Session

/-- The answer to a request to assign as it is meant: the first reason for a refusal that applies,
or what is to be booked. -/
def verdict (session : Session) (employee : EmployeeId) (date : String) (slot : Nat) :
    Except SchedulingError (Employee × Date × SlotNumber) :=
  let ledger := session.store.ledger
  let run (id : EmployeeId) (day : Date) : Nat := blockLength (day :: ledger.dutyDays id) day
  match vetting ledger.staff session.options session.today run employee date slot with
  | .error cause => .error cause
  | .ok (member, day, number) =>
    let capacity := session.options.capacity.capacity member.role
    if ledger.Holds employee day number then .error (.alreadyAssigned employee day number)
    else if capacity.toNat ≤ ledger.seats day number member.role then
      .error (.capacityReached member.role day number capacity)
    else .ok (member, day, number)

/-- One shift is added to a session, under an identifier that no shift had before, and otherwise the
session stays as it was, except that the slot of the day may get a row. -/
structure AddsShift (before after : Session) (shift : Assignment) : Prop where
  shifts : after.store.ledger.shifts = before.store.ledger.shifts ++ [shift]
  assignments : after.store.ledger.assignments = before.store.ledger.assignments ++
    [⟨shift.id, shift.employee, shift.slot, shift.role.name⟩]
  fresh : ∀ other ∈ before.store.ledger.shifts, other.id ≠ shift.id
  employees : after.store.ledger.employees = before.store.ledger.employees
  slots : ∀ row ∈ after.store.ledger.slots, row ∈ before.store.ledger.slots ∨
    row.Names shift.date shift.number
  rest : after = { before with store := { before.store with ledger := after.store.ledger } }

/-- What a request is refused for before it goes to the store is reported as it is. -/
theorem ofRequest_vetting {staff : List Employee} {options : Options} {today : Date}
    {run : EmployeeId → Date → Nat} {employee : EmployeeId} {date : String} {slot : Nat}
    {cause : SchedulingError}
    (refused : vetting staff options today run employee date slot = .error cause)
    (reply : Receipt → Reply) : ofRequest reply (.error cause) = .error (.request cause) := by
  unfold vetting at refused
  split at refused
  · cases refused
    rfl
  · split at refused
    · rename_i unread
      cases refused
      rcases requestDate_error unread with rfl | ⟨fault, rfl⟩ <;> rfl
    · split at refused
      · cases refused
        rfl
      · dsimp only at refused
        split_ifs at refused <;> cases refused <;> rfl

/-- A booking adds a shift. -/
theorem addsShift_withBooking {session : Session} (h : session.store.ledger.Consistent)
    (employee : EmployeeId) (date : Date) (number : SlotNumber) (role : Role) :
    ∃ slot, session.AddsShift
      { session with store := { session.store with
          ledger := session.store.ledger.withBooking employee date number role } }
      ⟨⟨session.store.ledger.assignmentsIssued + 1⟩, employee, slot, date, number, role⟩ := by
  refine ⟨_, h.shifts_withBooking employee date number role, ?_, ?_, ?_, ?_, rfl⟩
  · simp only [Ledger.withBooking, Ledger.addAssignment, Ledger.ensureSlot_assignments,
      Ledger.ensureSlot_assignmentsIssued]
  · intro other mem same
    have issued := h.shift_id_le mem
    rw [same] at issued
    exact absurd issued (Int.not_le.mpr (Int.lt_succ _))
  · exact session.store.ledger.ensureSlot_employees date number
  · intro row mem
    rcases session.store.ledger.ensureSlot_cases date number with ⟨_, -, -, eq⟩ | ⟨-, eq⟩
    · simp only [Ledger.withBooking, Ledger.addAssignment, eq] at mem
      exact .inl mem
    · simp only [Ledger.withBooking, Ledger.addAssignment, eq, List.mem_append,
        List.mem_singleton] at mem
      rcases mem with mem | rfl
      · exact .inl mem
      · exact .inr ⟨rfl, rfl⟩

/-- The scheduler finds what the verdict asks for, if no block is longer than the limit. -/
theorem vetRequest_eq_vetting {session : Session}
    (h : session.store.ledger.DutyWithin session.options.maxConsecutiveDays.toNat)
    {employee : EmployeeId} {date : String} {slot : Nat}
    (years : session.WithinPlainYears (.assign employee date slot)) :
    session.store.vetRequest session.options session.today employee date slot =
      vetting session.store.ledger.staff session.options session.today
        (fun id day => blockLength (day :: session.store.ledger.dutyDays id) day)
        employee date slot := by
  rw [h.consistent.vetRequest_eq]
  apply vetting_congr
  intro day not_past not_late
  obtain ⟨-, known⟩ := knowsAround_of_bookable h years employee not_past not_late
  rw [← consecutiveRun_eq_of_blocks_le known (h.blocks employee), consecutiveRun_eq_blockLength]

/-- A request to assign is answered as the verdict says, in a session that can be written to and in
which the days in a row are within the limit and counts fit. -/
theorem step_assign_of_dutyWithin {session : Session} (free : session.store.lock = .free)
    (h : session.store.ledger.DutyWithin session.options.maxConsecutiveDays.toNat)
    (fits : ∀ slot role, session.store.ledger.roleCount slot role < 4294967296)
    {employee : EmployeeId} {date : String} {slot : Nat}
    (years : session.WithinPlainYears (.assign employee date slot)) :
    match session.verdict employee date slot with
    | .error cause =>
      session.step (.assign employee date slot) = (.error (.request cause), session)
    | .ok (member, day, number) => ∃ id slot_id after,
      session.step (.assign employee date slot) =
        (.ok (.receipt ⟨id, employee, day, number⟩), after) ∧
      session.AddsShift after ⟨id, employee, slot_id, day, number, member.role⟩ := by
  unfold verdict
  have vetting_eq := vetRequest_eq_vetting h years
  cases vetted : vetting session.store.ledger.staff session.options session.today
    (fun id day => blockLength (day :: session.store.ledger.dutyDays id) day)
    employee date slot with
  | error cause =>
    simp only [vetted, step, Store.assign, vetting_eq, ofRequest_vetting vetted]
  | ok request =>
    obtain ⟨member, day, number⟩ := request
    have passed := vetting_eq.trans vetted
    obtain ⟨-, rfl, -⟩ := h.consistent.of_vetRequest passed
    have answered := step_assign_eq free h.consistent passed
    -- the seats can be counted, so the store has no end beside those of the verdict
    have seats_fit := Nat.not_le.mpr (h.consistent.seats_lt fits day number member.role)
    simp only [vetted, seats_fit, if_false] at answered ⊢
    by_cases holds : session.store.ledger.Holds member.id day number
    · rw [if_pos holds] at answered ⊢
      exact answered
    · by_cases full : (session.options.capacity.capacity member.role).toNat ≤
          session.store.ledger.seats day number member.role
      · rw [if_neg holds, if_pos full] at answered ⊢
        exact answered
      · rw [if_neg holds, if_neg full] at answered ⊢
        obtain ⟨slot_id, adds⟩ :=
          addsShift_withBooking h.consistent member.id day number member.role
        exact ⟨_, slot_id, _, answered, adds⟩

/-- A step that does not open the store with other limits leaves the limits as they are. -/
theorem step_options_of_keeps {session : Session} {operation : Operation} {options : Options}
    (same : session.options = options) (keeps : operation.keepsOptions options = true) :
    (session.step operation).2.options = options := by
  rw [session.step_options, same]
  rintro changed rfl
  rw [same]
  exact of_decide_eq_true keeps

variable {start : Session} {operations : List Operation}

/-- The limits stay as they are along a run in which no operation changes them. -/
theorem run_options
    (keeps : ∀ operation ∈ operations, operation.keepsOptions start.options = true) :
    (start.run operations).2.options = start.options := by
  refine run_invariant (fun session => session.options = start.options) ?_ rfl
    (start.throughout_of_forall keeps)
  intro session operation same keeps
  exact step_options_of_keeps same keeps

/-- If no operation changes the limits, the largest limit is the one in force. -/
theorem largestLimit_le_of_keeps {session : Session} {options : Options}
    (same : session.options = options) (keeps : ∀ operation ∈ operations,
      operation.keepsOptions options = true) :
    session.largestLimit operations ≤ options.maxConsecutiveDays.toNat := by
  induction operations generalizing session with
  | nil => exact Nat.zero_le _
  | cons operation rest ih =>
    rw [largestLimit, Nat.max_le]
    constructor
    · unfold appliedLimit
      split
      · rw [same]
      · exact Nat.zero_le _
    · apply ih (step_options_of_keeps same (keeps operation List.mem_cons_self))
      intro later mem
      exact keeps later (List.mem_cons_of_mem operation mem)

/-- In every session that is reached from an empty store with bookings made through the scheduler
only and the limits left as they are, and in which nobody else holds the write lock, a request to
assign is answered by the verdict, whatever employee, date and slot it names. A refusal is reported
as it is and changes nothing. Otherwise the booking is confirmed, and the one shift that is added is
for the employee, the day and the slot of the request, in the role of the employee. -/
theorem run_assign_follows_verdict (empty : start.store.ledger = {})
    (vetted : ∀ operation ∈ operations, operation.isVetted = true)
    (keeps : ∀ operation ∈ operations, operation.keepsOptions start.options = true)
    (years : start.Throughout WithinPlainYears operations)
    (free : (start.run operations).2.store.lock = .free) (employee : EmployeeId) (date : String)
    (slot : Nat)
    (now_years : (start.run operations).2.WithinPlainYears (.assign employee date slot)) :
    let session := (start.run operations).2
    match session.verdict employee date slot with
    | .error cause =>
      session.step (.assign employee date slot) = (.error (.request cause), session)
    | .ok (member, day, number) => ∃ id slot_id after,
      session.step (.assign employee date slot) =
        (.ok (.receipt ⟨id, employee, day, number⟩), after) ∧
      session.AddsShift after ⟨id, employee, slot_id, day, number, member.role⟩ := by
  intro session
  have options : session.options = start.options := run_options keeps
  have le : start.largestLimit operations ≤ session.options.maxConsecutiveDays.toNat := by
    rw [options]
    exact largestLimit_le_of_keeps rfl keeps
  have within := run_dutyWithin empty vetted years le
  have fits := run_roleCount_lt empty fun operation mem =>
    Operation.isChecked_of_isVetted (vetted operation mem)
  exact step_assign_of_dutyWithin free within fits now_years

/-- The second request of a medic, for a day after one that is already booked, is granted. -/
theorem run_assign_follows_verdict_of_medic :
    let operations : List Operation := [.register "Ada" "medic", .assign ⟨1⟩ "2020-08-01" 1]
    let session := (sample.run operations).2
    let day : Date := ⟨738004, by decide, by decide⟩
    (∀ operation ∈ operations, operation.isVetted = true) ∧
      (∀ operation ∈ operations, operation.keepsOptions sample.options = true) ∧
      sample.Throughout WithinPlainYears operations ∧ session.store.lock = .free ∧
      session.WithinPlainYears (.assign ⟨1⟩ "2020-08-02" 2) ∧
      session.verdict ⟨1⟩ "2020-08-02" 2 = .ok (⟨⟨1⟩, "Ada", .medic⟩, day, .late) ∧
      ∃ id slot_id after, session.step (.assign ⟨1⟩ "2020-08-02" 2) =
        (.ok (.receipt ⟨id, ⟨1⟩, day, .late⟩), after) ∧
        session.AddsShift after ⟨id, ⟨1⟩, slot_id, day, .late, .medic⟩ := by
  intro operations session day
  have vetted : ∀ operation ∈ operations, operation.isVetted = true := by decide
  have keeps : ∀ operation ∈ operations, operation.keepsOptions sample.options = true := by decide
  have years : sample.Throughout WithinPlainYears operations := by decide +kernel
  have free : session.store.lock = .free := by decide +kernel
  have now_years : session.WithinPlainYears (.assign ⟨1⟩ "2020-08-02" 2) := by decide +kernel
  have granted : session.verdict ⟨1⟩ "2020-08-02" 2 = .ok (⟨⟨1⟩, "Ada", .medic⟩, day, .late) := by
    decide +kernel
  have follows :=
    run_assign_follows_verdict rfl vetted keeps years free ⟨1⟩ "2020-08-02" 2 now_years
  dsimp only at follows
  rw [granted] at follows
  exact ⟨vetted, keeps, years, free, now_years, granted, follows⟩

end Session

end DutyRoster
