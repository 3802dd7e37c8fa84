import DutyRoster.Proofs.Session.Directory
import DutyRoster.Proofs.Session.Failures
import DutyRoster.Proofs.Session.FewerBookings
import DutyRoster.Proofs.Session.SlotIds
import DutyRoster.Proofs.Session.Verdict

/-!
# Asking for the same booking again

A planner who repeats a request that was granted is told that the booking is there already, however
much has happened in between, as long as nobody has taken it back
(`Session.run_repeated_request_is_duplicate`). This is not a matter of the store alone. The days in
a row are checked before anybody looks for a duplicate, and by then the employee may be on duty on
the days around; the slot may have filled up too.

Two invariants meet. While the limits and the day stay the same, the days in a row are within the
limit (`Session.Steady`), and a day that is on duty belongs to a block of its own, so its run is one
of the blocks that are within the limit (`consecutiveRun_le_of_covers`). And a booking is held until
a step takes it back (`Session.holds_after_step`).
-/

set_option autoImplicit false

namespace DutyRoster

/-- The run of a day on duty is within a limit if the blocks are. -/
theorem consecutiveRun_le_of_covers {days : List Date} {day : Date} {limit : Nat}
    (on_duty : Covers days day.number)
    (blocks : ∀ first length, IsBlock days first length → length ≤ limit) :
    consecutiveRun days day ≤ limit := by
  obtain ⟨before, after, eq, found⟩ := exists_runAround days day
  rw [eq]
  apply blocks (day.number - before)
  intro i lt
  rcases Nat.lt_trichotomy i before with earlier | same | later
  · exact found.isBlock_before i earlier
  · exact on_duty.of_eq (by omega)
  · exact (found.isBlock_after (i - (before + 1)) (by omega)).of_eq (by omega)

namespace Ledger

variable {ledger after : Ledger} {employee : EmployeeId} {day : Date} {number : SlotNumber}

/-- A booking is held as long as no shift goes. -/
theorem Holds.of_subset (holds : ledger.Holds employee day number)
    (subset : ∀ shift ∈ ledger.shifts, shift ∈ after.shifts) :
    after.Holds employee day number := by
  obtain ⟨shift, mem, named⟩ := holds
  exact ⟨shift, subset shift mem, named⟩

/-- A booking is held after another one has been removed. -/
theorem Consistent.holds_withoutBooking (h : ledger.Consistent)
    (holds : ledger.Holds employee day number) {employee' : EmployeeId} {day' : Date}
    {number' : SlotNumber} (other : (employee', day', number') ≠ (employee, day, number)) :
    (ledger.withoutBooking employee' day' number').Holds employee day number := by
  obtain ⟨shift, mem, rfl, rfl, rfl⟩ := holds
  refine ⟨shift, ?_, rfl, rfl, rfl⟩
  rw [h.shifts_withoutBooking, List.mem_filter, decide_eq_true_eq]
  refine ⟨mem, ?_⟩
  rintro ⟨rfl, rfl, rfl⟩
  exact other rfl

/-- Whoever holds a booking is on the staff. -/
theorem Consistent.exists_member_of_holds (h : ledger.Consistent)
    (holds : ledger.Holds employee day number) : ∃ member ∈ ledger.staff, member.id = employee := by
  obtain ⟨shift, mem, rfl, -, -⟩ := holds
  obtain ⟨row, on_table, shows⟩ := h.mem_shifts.mp mem
  obtain ⟨own, listed, eq⟩ := h.assignment_employee row on_table
  obtain ⟨role, read⟩ := h.read_employee listed
  refine ⟨⟨own.id, own.name, role⟩, List.mem_filterMap.mpr ⟨own, listed, ?_⟩, ?_⟩
  · rw [read]
    rfl
  · rw [shows.employee, eq]

end Ledger

namespace Operation

/-- The operation does not move the clock to another day. -/
def keepsToday (today : Date) : Operation → Bool
  | .setNow now => now.date = today
  | _ => true

/-- The operation is vetted, and it leaves the limits in force and the day as they are. -/
def KeepsRules (limits : Options) (today : Date) (operation : Operation) : Prop :=
  operation.isVetted = true ∧ operation.keepsOptions limits = true ∧
    operation.keepsToday today = true

instance (limits : Options) (today : Date) (operation : Operation) :
    Decidable (operation.KeepsRules limits today) :=
  inferInstanceAs (Decidable (_ ∧ _))

/-- The booking that an operation asks to be removed, as it is read. -/
def removalRequest? : Operation → Option (EmployeeId × Date × SlotNumber)
  | .remove employee date n =>
    match requestDate date, SlotNumber.ofNumber? n with
    | .ok day, some number => some (employee, day, number)
    | _, _ => none
  | .storeRemove employee day n =>
    (SlotNumber.ofNumber? n).map fun number => (employee, day, number)
  | _ => none

end Operation

namespace Session

/-- A step removes the booking of a slot of a day by an employee: it is asked to, and succeeds. -/
def TakesBack (employee : EmployeeId) (day : Date) (number : SlotNumber) (session : Session)
    (operation : Operation) : Prop :=
  operation.removalRequest? = some (employee, day, number) ∧
    (session.step operation).1 = .ok .done

instance (employee : EmployeeId) (day : Date) (number : SlotNumber) (session : Session)
    (operation : Operation) : Decidable (TakesBack employee day number session operation) :=
  inferInstanceAs (Decidable (_ ∧ _))

section Step

variable {session : Session} {operation : Operation} {employee : EmployeeId} {day : Date}
  {number : SlotNumber}

/-- Changes of the store do not move the clock. -/
theorem now_change {α β : Type} (argument : Except Refusal α)
    (run : α → Ledger → Except StoreError β × Ledger) (reply : β → Reply) :
    (session.change argument run reply).2.now = session.now := by
  cases argument <;> rfl

/-- Only moving the clock to another day changes the day. -/
theorem step_today {today : Date} (same : session.today = today)
    (keeps : operation.keepsToday today = true) : (session.step operation).2.today = today := by
  cases operation with
  | register | slot | create | commit | storeRemove =>
    rw [step, Session.today, now_change]
    exact same
  | onDuty instant buffer =>
    rw [step_onDuty]
    exact same
  | importStaff octets =>
    rcases session.step_importStaff_cases octets with ⟨staff, -, eq⟩ | ⟨refusal, eq⟩ <;> rw [eq] <;>
      exact same
  | setNow now => exact of_decide_eq_true keeps
  | _ => exact same

/-- What a receipt confirms: the date and the slot of the request, on a day that can be booked, and
that the employee holds them from now on. -/
theorem of_receipt (h : session.store.ledger.Consistent) {date : String} {slot : Nat}
    {receipt : Receipt}
    (granted : (session.step (.assign employee date slot)).1 = .ok (.receipt receipt)) :
    requestDate date = .ok receipt.date ∧ SlotNumber.ofNumber? slot = some receipt.slot ∧
      session.today ≤ receipt.date ∧
      receipt.date ≤ bookingLimit session.today session.options.bookingHorizonMonths.toNat ∧
      (session.step (.assign employee date slot)).2.store.ledger.Holds employee receipt.date
        receipt.slot := by
  obtain ⟨free, member, -, day, number, -, -, -, -, confirmed, left⟩ := of_step_assign h granted
  obtain ⟨found, answered, same⟩ := of_ofRequest granted
  simp only [Reply.receipt.injEq] at confirmed same
  subst same
  obtain ⟨_, passed, _⟩ := (h.assign_eq_ok_iff free).mp answered
  rw [h.vetRequest_eq, vetting_eq_ok_iff] at passed
  obtain ⟨-, read, numbered, not_past, not_late, -⟩ := passed
  refine ⟨read, numbered, not_past, not_late, ?_⟩
  rw [left, withLedger_ledger, confirmed]
  exact h.holds_withBooking employee day number member.role

/-- A booking is held after another one has been taken back. -/
theorem holds_after_removal (h : session.store.ledger.Consistent)
    (stays : ¬ TakesBack employee day number session operation)
    (holds : session.store.ledger.Holds employee day number) {employee' : EmployeeId} {day' : Date}
    {number' : SlotNumber} (asked : operation.removalRequest? = some (employee', day', number'))
    (done : (session.step operation).1 = .ok .done)
    (left : (session.step operation).2.store.ledger =
      session.store.ledger.withoutBooking employee' day' number') :
    (session.step operation).2.store.ledger.Holds employee day number := by
  rw [left]
  apply h.holds_withoutBooking holds
  intro same
  rw [same] at asked
  exact stays ⟨asked, done⟩

/-- On the same store, a booking is held after a step that does not take it back. -/
theorem holds_after_step (h : session.store.ledger.Consistent) (vetted : operation.isVetted = true)
    (keeps : session.KeepsStore operation)
    (stays : ¬ TakesBack employee day number session operation)
    (holds : session.store.ledger.Holds employee day number) :
    (session.step operation).2.store.ledger.Holds employee day number := by
  -- what is refused has changed nothing, and otherwise the answer tells what has been done
  cases answered : (session.step operation).1 with
  | error refusal =>
    rw [step_of_isFailure (by rw [answered]; rfl)]
    exact holds
  | ok reply =>
    cases operation with
    | assign id date slot =>
      obtain ⟨-, member, -, day', number', -, -, -, -, -, left⟩ := of_step_assign h answered
      rw [left, withLedger_ledger]
      apply holds.of_subset
      rw [h.shifts_withBooking]
      exact fun shift => List.mem_append_left _
    | remove id date slot =>
      obtain ⟨day', number', read, numbered, -, left⟩ := of_step_remove h answered
      obtain ⟨-, -, rfl⟩ := of_ofRequest answered
      refine holds_after_removal h stays holds ?_ answered (by rw [left, withLedger_ledger])
      simp only [Operation.removalRequest?, read, numbered]
    | storeRemove id date slot =>
      obtain ⟨number', ⟨⟩, read, done, rfl, left⟩ := of_change answered
      rw [h.removeAssignment_eq] at left done
      split_ifs at left done
      refine holds_after_removal h stays holds ?_ answered left
      simp only [Operation.removalRequest?, readSlot_eq_ok_iff.mp read, Option.map_some]
    | register name role =>
      rw [step] at answered ⊢
      obtain ⟨role, _, -, -, -, left⟩ := of_change answered
      rw [left]
      exact holds
    | slot date n =>
      rw [step] at answered ⊢
      obtain ⟨number', _, -, -, -, left⟩ := of_change answered
      rw [left]
      apply holds.of_subset
      exact fun shift mem => by rwa [Ledger.getOrCreateSlot, h.shifts_ensureSlot]
    | importStaff octets =>
      rcases session.step_importStaff_cases octets with ⟨staff, -, eq⟩ | ⟨refusal, eq⟩ <;> rw [eq]
      · apply holds.of_subset
        rw [Ledger.shifts_enrol]
        exact fun shift mem => mem
      · exact holds
    | onDuty instant buffer =>
      rw [step_onDuty]
      exact holds
    | reopen options =>
      have durable : session.durable = true := keeps rfl
      simp only [step, durable, if_true]
      exact holds
    | create | commit | overwrite => simp [Operation.isVetted] at vetted
    | _ => exact holds

end Step

/-- Limits and day are as they were at the start of a run, and the days in a row are within the
limit. -/
structure Steady (limits : Options) (today : Date) (session : Session) : Prop where
  within : session.store.ledger.DutyWithin limits.maxConsecutiveDays.toNat
  options : session.options = limits
  today : session.today = today

namespace Steady

variable {session : Session} {operation : Operation} {limits : Options} {today day : Date}
  {employee : EmployeeId} {date : String} {slot : Nat} {number : SlotNumber}

/-- A step that leaves the limits and the day as they are keeps a session steady. -/
theorem step (h : session.Steady limits today) (keeps : operation.KeepsRules limits today)
    (years : session.WithinPlainYears operation) :
    (session.step operation).2.Steady limits today := by
  obtain ⟨vetted, same_options, same_day⟩ := keeps
  refine ⟨?_, step_options_of_keeps h.options same_options, step_today h.today same_day⟩
  apply (session.step_effect operation).dutyWithin vetted years _ h.within
  unfold appliedLimit
  split
  · rw [h.options]
  · exact Nat.zero_le _

/-- Years are plain in one session if they are in another with the same limits on the same day. -/
theorem years (h : session.Steady limits today) {start : Session} (same : start.options = limits)
    (same_day : start.today = today) (plain : start.WithinPlainYears (.assign employee date slot))
    (operation : Operation) : session.WithinPlainYears operation := by
  intro _
  rw [h.today, h.options, ← same, ← same_day]
  exact plain rfl

/-- Whoever asks for a booking that is held, on a day that can be booked, is told so: the run of the
day has been within the limit all along. -/
theorem step_assign_of_holds (h : session.Steady limits today) (free : session.store.lock = .free)
    (years : session.WithinPlainYears (.assign employee date slot))
    (holds : session.store.ledger.Holds employee day number) (read : requestDate date = .ok day)
    (numbered : SlotNumber.ofNumber? slot = some number) (not_past : today ≤ day)
    (not_late : day ≤ bookingLimit today limits.bookingHorizonMonths.toNat) :
    session.step (.assign employee date slot) =
      (.error (.request (.alreadyAssigned employee day number)), session) := by
  have consistent := h.within.consistent
  obtain ⟨member, on_staff, rfl⟩ := consistent.exists_member_of_holds holds
  rw [← h.today] at not_past not_late
  rw [← h.options] at not_late
  have on_duty : Covers (session.store.ledger.dutyDays member.id) day.number := by
    obtain ⟨shift, mem, own, rfl, -⟩ := holds
    exact ⟨shift.date, Ledger.mem_dutyDays.mpr ⟨shift, mem, own, rfl⟩, rfl⟩
  have run : consecutiveRun (session.store.knownDays member.id day
      session.options.maxConsecutiveDays.toNat) day ≤ session.options.maxConsecutiveDays.toNat := by
    obtain ⟨-, known⟩ := knowsAround_of_bookable h.within years member.id not_past not_late
    refine Nat.le_trans (consecutiveRun_mono known.sound day) ?_
    rw [h.options]
    exact consecutiveRun_le_of_covers on_duty (h.within.blocks member.id)
  have passed : session.store.vetRequest session.options session.today member.id date slot =
      .ok (member, day, number) := by
    rw [consistent.vetRequest_eq, vetting_eq_ok_iff]
    exact ⟨consistent.find?_staff on_staff, read, numbered, not_past, not_late, run⟩
  rw [step_assign_eq free consistent passed]
  exact if_pos holds

end Steady

/-- Along every run from an empty store under fixed limits and on one day, in which bookings are
made through the scheduler only: once a request to assign has been granted, and whatever is done
after that without taking the booking back or going over to another store, the same request is
answered that the employee holds the slot, and changes nothing, as long as nobody else holds the
write lock. -/
theorem run_repeated_request_is_duplicate {start booked : Session} {before after : List Operation}
    {employee : EmployeeId} {date : String} {slot : Nat} {receipt : Receipt}
    (empty : start.store.ledger = {})
    (keeps : ∀ operation ∈ before ++ after, operation.KeepsRules start.options start.today)
    (years : start.WithinPlainYears (.assign employee date slot))
    (granted : (start.run before).2.step (.assign employee date slot) =
      (.ok (.receipt receipt), booked))
    (stays : booked.Throughout (fun session operation => session.KeepsStore operation ∧
      ¬ TakesBack employee receipt.date receipt.slot session operation) after)
    (free : (booked.run after).2.store.lock = .free) :
    let session := (booked.run after).2
    session.step (.assign employee date slot) =
      (.error (.request (.alreadyAssigned employee receipt.date receipt.slot)), session) := by
  intro session
  have steady_step (session : Session) (operation : Operation)
      (h : session.Steady start.options start.today)
      (keeps : operation.KeepsRules start.options start.today) :
      (session.step operation).2.Steady start.options start.today :=
    h.step keeps (h.years rfl rfl years operation)
  have asked : (start.run before).2.Steady start.options start.today := by
    refine run_invariant _ steady_step ?_ (start.throughout_of_forall fun operation mem =>
      keeps operation (List.mem_append_left after mem))
    exact ⟨by rw [empty]; exact .empty _, rfl, rfl⟩
  obtain ⟨read, numbered, not_past, not_late, holds⟩ :=
    of_receipt asked.within.consistent (congrArg Prod.fst granted)
  rw [asked.today] at not_past not_late
  rw [asked.options] at not_late
  have answered := steady_step _ (.assign employee date slot) asked ⟨rfl, rfl, rfl⟩
  rw [granted] at answered holds
  -- from here on, both the days in a row and the booking are carried along
  obtain ⟨steady, still_holds⟩ : session.Steady start.options start.today ∧
      session.store.ledger.Holds employee receipt.date receipt.slot := by
    refine run_invariant (fun session => session.Steady start.options start.today ∧
      session.store.ledger.Holds employee receipt.date receipt.slot) ?_ ⟨answered, holds⟩
      ((throughout_of_forall _ fun operation mem =>
        keeps operation (List.mem_append_right before mem)).and stays)
    rintro session operation ⟨h, holds⟩ ⟨kept, same_store, untaken⟩
    exact ⟨steady_step session operation h kept,
      holds_after_step h.within.consistent kept.1 same_store untaken holds⟩
  exact steady.step_assign_of_holds free (steady.years rfl rfl years _) still_holds read numbered
    not_past not_late

/-- A medic is booked on a Saturday. After that she is booked on the Sunday too, which makes the two
days in a row that the limit allows, and a colleague takes the other seat of the slot. The first
request is then a duplicate, not one day or one person too many. -/
theorem run_repeated_request_is_duplicate_of_medic :
    let start : Session := { sample with options := { maxConsecutiveDays := 2 } }
    let request : Operation := .assign ⟨1⟩ "2020-08-01" 1
    let before : List Operation := [.register "Ada" "medic", .register "Eva" "medic"]
    let after : List Operation := [.assign ⟨1⟩ "2020-08-02" 2, .assign ⟨2⟩ "2020-08-01" 1,
      .remove ⟨2⟩ "2020-08-02" 2, .storeRemove ⟨1⟩ sampleDay 2]
    let session := (start.run before).2
    let booked := (session.step request).2
    (∀ operation ∈ before ++ after, operation.KeepsRules start.options start.today) ∧
      start.WithinPlainYears request ∧
      session.step request = (.ok (.receipt ⟨⟨1⟩, ⟨1⟩, sampleDay, .early⟩), booked) ∧
      booked.Throughout (fun session operation => session.KeepsStore operation ∧
        ¬ TakesBack ⟨1⟩ sampleDay .early session operation) after ∧
      (booked.run after).2.store.lock = .free ∧
      (booked.run after).2.store.ledger.seats sampleDay .early .medic = 2 ∧
      let final := (booked.run after).2
      final.step request =
        (.error (.request (.alreadyAssigned ⟨1⟩ sampleDay .early)), final) := by
  intro start request before after session booked
  have empty : start.store.ledger = {} := rfl
  have keeps : ∀ operation ∈ before ++ after,
      operation.KeepsRules start.options start.today := by decide
  have years : start.WithinPlainYears request := by decide +kernel
  have answered : (session.step request).1 = .ok (.receipt ⟨⟨1⟩, ⟨1⟩, sampleDay, .early⟩) := by
    decide +kernel
  have granted : session.step request =
      (.ok (.receipt ⟨⟨1⟩, ⟨1⟩, sampleDay, .early⟩), booked) := by rw [← answered]
  have stays : booked.Throughout (fun session operation => session.KeepsStore operation ∧
      ¬ TakesBack ⟨1⟩ sampleDay .early session operation) after := by decide +kernel
  have free : (booked.run after).2.store.lock = .free := by decide +kernel
  have full : (booked.run after).2.store.ledger.seats sampleDay .early .medic = 2 := by
    decide +kernel
  exact ⟨keeps, years, granted, stays, free, full,
    run_repeated_request_is_duplicate empty keeps years granted stays free⟩

end Session

end DutyRoster
