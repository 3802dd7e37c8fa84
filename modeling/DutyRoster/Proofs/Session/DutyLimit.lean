import DutyRoster.Proofs.Session.Run
import DutyRoster.Proofs.Scheduler.Vetting

/-!
# Nobody is on duty for too many days in a row

If planners book only through the scheduler, no employee is ever on duty for more days in a row than
the largest limit under which anything was assigned. The invariant is `Ledger.DutyWithin`. The only
effect that adds a day is that of a booking, and its run was checked against the limit in force. The
check looks at the days around the candidate only and lets the store select them by the texts of
dates, so the invariant also says that all dates are plain, which holds as long as requests are made
in years in which the texts are ordered like the dates (`Session.WithinPlainYears`).
-/

set_option autoImplicit false

namespace DutyRoster

namespace Ledger

/-- All dates are plain, and nobody is on duty for more days in a row than a limit. -/
structure DutyWithin (ledger : Ledger) (limit : Nat) : Prop where
  consistent : ledger.Consistent
  plain : ledger.Plain
  blocks : ∀ employee first length, IsBlock (ledger.dutyDays employee) first length →
    length ≤ limit

namespace DutyWithin

variable {ledger after : Ledger} {limit : Nat}

/-- An empty ledger has nobody on duty, under whatever limit. -/
theorem empty (limit : Nat) : DutyWithin {} limit where
  consistent := .empty
  plain := fun _ mem => nomatch mem
  blocks := by
    intro employee first length block
    by_contra beyond
    obtain ⟨day, mem, -⟩ := block 0 (by omega)
    exact nomatch mem

/-- Nothing is lost if no shift is added. -/
theorem of_subset (h : ledger.DutyWithin limit) (consistent : after.Consistent)
    (subset : ∀ shift ∈ after.shifts, shift ∈ ledger.shifts) : after.DutyWithin limit where
  consistent := consistent
  plain := fun shift mem => h.plain shift (subset shift mem)
  blocks := by
    intro employee first length block
    apply h.blocks employee first length
    intro i lt
    obtain ⟨day, on_duty, number⟩ := block i lt
    obtain ⟨shift, mem, own, date⟩ := mem_dutyDays.mp on_duty
    exact ⟨day, mem_dutyDays.mpr ⟨shift, subset shift mem, own, date⟩, number⟩

/-- A shift may be added on a plain date if its run is within the limit. -/
theorem of_append (h : ledger.DutyWithin limit) (consistent : after.Consistent) {shift : Assignment}
    (shifts : after.shifts = ledger.shifts ++ [shift]) (plain : shift.date.IsPlain)
    (run : consecutiveRun (ledger.dutyDays shift.employee) shift.date ≤ limit) :
    after.DutyWithin limit where
  consistent := consistent
  plain := by
    intro other mem
    rw [shifts, List.mem_append, List.mem_singleton] at mem
    rcases mem with mem | rfl
    · exact h.plain other mem
    · exact plain
  blocks := by
    intro employee first length block
    by_cases own : shift.employee = employee
    · subst own
      refine IsBlock.le_of_insert ?_ (h.blocks shift.employee) run block
      rintro n ⟨day, on_duty, rfl⟩
      rw [dutyDays, shifts, List.filter_append, List.map_append, List.mem_append] at on_duty
      rcases on_duty with old | new
      · exact .inl ⟨day, old, rfl⟩
      · obtain ⟨other, mem, rfl⟩ := List.mem_map.mp new
        rw [List.mem_singleton.mp (List.mem_of_mem_filter mem)]
        exact .inr rfl
    · have same : after.dutyDays employee = ledger.dutyDays employee := by
        simp only [dutyDays, shifts, List.filter_append, List.filter_cons, own, decide_false,
          Bool.false_eq_true, if_false, List.filter_nil, List.append_nil]
      rw [same] at block
      exact h.blocks employee first length block

end DutyWithin

end Ledger

namespace Session

/-- A request to assign is made in year 0 or later, and so early that the last day that can be
booked and the days after it that the limit reaches to are in year 9999 or before. -/
def WithinPlainYears (session : Session) (operation : Operation) : Prop :=
  operation.isAssign = true → daysBeforeYear 0 ≤ session.today.number ∧
    (bookingLimit session.today session.options.bookingHorizonMonths.toNat).number +
      session.options.maxConsecutiveDays.toNat < daysBeforeYear 10000

instance (session : Session) (operation : Operation) :
    Decidable (session.WithinPlainYears operation) :=
  inferInstanceAs (Decidable (_ → _))

/-- The limit on consecutive days that a step applies. -/
def appliedLimit (session : Session) (operation : Operation) : Nat :=
  if operation.isAssign then session.options.maxConsecutiveDays.toNat else 0

/-- The largest limit on consecutive days that is applied in a run. -/
def largestLimit : Session → List Operation → Nat
  | _, [] => 0
  | session, operation :: rest =>
    max (session.appliedLimit operation) (largestLimit (session.step operation).2 rest)

/-- No step of a run applies a larger limit than the largest. -/
theorem throughout_appliedLimit_le {session : Session} {operations : List Operation} {limit : Nat}
    (le : session.largestLimit operations ≤ limit) :
    session.Throughout (fun session operation => session.appliedLimit operation ≤ limit)
      operations := by
  induction operations generalizing session with
  | nil => trivial
  | cons operation rest ih =>
    rw [largestLimit, Nat.max_le] at le
    exact ⟨le.1, ih le.2⟩

/-- A day that a planner can book is plain, and the store knows the days around it. -/
theorem knowsAround_of_bookable {session : Session} {limit : Nat}
    (h : session.store.ledger.DutyWithin limit) {employee : EmployeeId} {date : String} {slot : Nat}
    (years : session.WithinPlainYears (.assign employee date slot)) (id : EmployeeId) {day : Date}
    (not_past : session.today ≤ day)
    (not_late : day ≤ bookingLimit session.today session.options.bookingHorizonMonths.toNat) :
    day.IsPlain ∧ KnowsAround
      (session.store.knownDays id day session.options.maxConsecutiveDays.toNat)
      (session.store.ledger.dutyDays id) day.number session.options.maxConsecutiveDays.toNat := by
  obtain ⟨low, high⟩ := years rfl
  rw [Date.le_iff] at not_past not_late
  constructor
  · exact Date.isPlain_iff.mpr (by omega)
  · exact h.consistent.knowsAround h.plain id (by omega) (by omega)

/-- The date of a request that has passed is plain, and the run that the scheduler found among the
days it knows of is the run among all days on duty. -/
theorem run_of_vetted {session : Session} {limit : Nat}
    (h : session.store.ledger.DutyWithin limit) {employee : EmployeeId} {date : String} {slot : Nat}
    (years : session.WithinPlainYears (.assign employee date slot)) {member : Employee} {day : Date}
    {number : SlotNumber}
    (passed : session.store.vetRequest session.options session.today employee date slot =
      .ok (member, day, number)) :
    day.IsPlain ∧ consecutiveRun (session.store.ledger.dutyDays member.id) day ≤
      session.options.maxConsecutiveDays.toNat := by
  rw [h.consistent.vetRequest_eq, vetting_eq_ok_iff] at passed
  obtain ⟨-, -, -, not_past, not_late, within⟩ := passed
  obtain ⟨plain, known⟩ := knowsAround_of_bookable h years member.id not_past not_late
  rw [consecutiveRun_eq_of_run_le known within]
  exact ⟨plain, within⟩

/-- A vetted step keeps the days on duty within a limit if it applies no larger one. -/
theorem Effect.dutyWithin {session : Session} {operation : Operation} {after : Ledger} {limit : Nat}
    (effect : session.Effect operation after) (vetted : operation.isVetted = true)
    (years : session.WithinPlainYears operation) (applied : session.appliedLimit operation ≤ limit)
    (h : session.store.ledger.DutyWithin limit) : after.DutyWithin limit := by
  have intact := Operation.isIntact_of_isChecked (Operation.isChecked_of_isVetted vetted)
  have consistent := effect.consistent intact h.consistent
  cases effect with
  | unchanged => exact h
  | emptied => exact .empty limit
  | enrolled rows =>
    apply h.of_subset consistent
    rw [Ledger.shifts_enrol]
    exact fun shift mem => mem
  | slotEnsured date number =>
    apply h.of_subset consistent
    rw [h.consistent.shifts_ensureSlot]
    exact fun shift mem => mem
  | booked asked granted =>
    obtain ⟨employee, date, slot, member, day, number, rfl, passed, rfl⟩ :=
      bookingRequest?_of_isVetted asked vetted
    -- the one day that is added has been weighed against the limit in force
    obtain ⟨plain, run⟩ := run_of_vetted h years passed
    exact h.of_append consistent (h.consistent.shifts_withBooking _ _ _ _) plain
      (Nat.le_trans run applied)
  | removed employee date number =>
    apply h.of_subset consistent
    rw [h.consistent.shifts_withoutBooking]
    exact fun shift mem => List.mem_of_mem_filter mem
  | created asked => simp [asked, Operation.isVetted] at vetted
  | overwritten asked => simp [asked, Operation.isVetted] at vetted

variable {start : Session} {operations : List Operation}

/-- The days on duty stay within the largest limit along every run of vetted operations. -/
theorem run_dutyWithin (empty : start.store.ledger = {})
    (vetted : ∀ operation ∈ operations, operation.isVetted = true)
    (years : start.Throughout WithinPlainYears operations) {limit : Nat}
    (le : start.largestLimit operations ≤ limit) :
    (start.run operations).2.store.ledger.DutyWithin limit := by
  refine run_invariant (fun session => session.store.ledger.DutyWithin limit) ?_ ?_
    (((start.throughout_of_forall vetted).and years).and (throughout_appliedLimit_le le))
  · rintro session operation within ⟨⟨vetted, years⟩, applied⟩
    exact (session.step_effect operation).dutyWithin vetted years applied within
  · rw [empty]
    exact .empty limit

/-- Along every run from an empty store in which bookings are made through the scheduler, whatever
is removed, whichever way the clock moves and whatever the limits become: the dates on which an
employee is on duty, which are those of all assignments that the store lists, contain no more days
in a row than the largest limit that was in force when something was to be assigned. -/
theorem run_block_le_largestLimit (empty : start.store.ledger = {})
    (vetted : ∀ operation ∈ operations, operation.isVetted = true)
    (years : start.Throughout WithinPlainYears operations) (employee : EmployeeId) :
    let ledger := (start.run operations).2.store.ledger
    (∃ list, ledger.listAssignments employee none = .ok list ∧
      list.length = ledger.assignments.countP (fun row => row.employee = employee) ∧
      (list.map (·.date)).Perm (ledger.dutyDays employee)) ∧
    ∀ first length, IsBlock (ledger.dutyDays employee) first length →
      length ≤ start.largestLimit operations := by
  intro ledger
  have within : ledger.DutyWithin (start.largestLimit operations) :=
    run_dutyWithin empty vetted years (Nat.le_refl _)
  obtain ⟨list, eq, perm, length⟩ := within.consistent.listAssignments_all employee
  exact ⟨⟨list, eq, length, perm.map _⟩, within.blocks employee⟩

/-- Two days in a row cannot be booked under a limit of 1, but they can after the limit has been
raised to 2; then there are no three. -/
theorem run_block_le_largestLimit_of_raise :
    let start : Session := { sample with options := { maxConsecutiveDays := 1 } }
    let operations : List Operation :=
      [.register "Ada" "medic", .assign ⟨1⟩ "2020-08-01" 1, .assign ⟨1⟩ "2020-08-02" 3,
        .reopen { maxConsecutiveDays := 2 }, .assign ⟨1⟩ "2020-08-02" 3]
    let days := (start.run operations).2.store.ledger.dutyDays ⟨1⟩
    start.store.ledger = {} ∧ (∀ operation ∈ operations, operation.isVetted = true) ∧
      start.Throughout WithinPlainYears operations ∧ IsBlock days 738003 2 ∧
      2 ≤ start.largestLimit operations := by
  intro start operations days
  have vetted : ∀ operation ∈ operations, operation.isVetted = true := by decide
  have years : start.Throughout WithinPlainYears operations := by decide +kernel
  have block : IsBlock days 738003 2 := by decide +kernel
  have le := (run_block_le_largestLimit rfl vetted years ⟨1⟩).2 738003 2 block
  exact ⟨rfl, vetted, years, block, le⟩

end Session

end DutyRoster
