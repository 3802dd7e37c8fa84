import DutyRoster.Proofs.Scheduler.Grid
import DutyRoster.Proofs.Session.Booking
import DutyRoster.Proofs.Session.Capacity
import DutyRoster.Proofs.Session.Directory
import DutyRoster.Proofs.Session.Failures

/-!
# The grid along a run

Whatever bookings a run has made, and in whatever way, a grid that is shown afterwards has the shape
of its range, and a cell tells how many assignments there are for its day, slot and role, as long as
the days are written with four digits for the year (`Session.run_availability_isGrid`). Outside of
these years seats can be missing, since the days are selected by their texts: the text of 1 January
10000 comes before those of all plain days (`Session.availability_misses_year_end`).

The planner's view and the gate of a booking are two different queries. They agree in every cell,
and a step of a planner moves one cell of the grid or none
(`Session.run_grid_agrees_with_bookings`). The number under a cell is the number of shifts with its
day, slot and role, so a booking that is made or removed moves it by one and no other.
-/

set_option autoImplicit false

namespace DutyRoster

/-- One more place of a cell is taken. -/
def RoleAvailability.raise (cell : RoleAvailability) : RoleAvailability :=
  { cell with
    assigned := cell.assigned + 1
    remaining := cell.capacity.toNat - (cell.assigned + 1) }

/-- The grid with one more place taken in the cell of a day, a slot and a role, if it has that
cell. -/
def raiseCell (date : Date) (slot : SlotNumber) (role : Role) (grid : List DayAvailability) :
    List DayAvailability :=
  grid.map fun day => ⟨day.date, day.slots.map fun place => ⟨place.slot, place.roles.map fun cell =>
    if (day.date, place.slot, cell.role) = (date, slot, role) then cell.raise else cell⟩⟩

/-- Raising a cell of a grid is counting one more there. -/
theorem raiseCell_gridOf {table : CapacityTable} {taken : Date → SlotNumber → Role → Nat}
    {dates : List Date} (date : Date) (slot : SlotNumber) (role : Role) :
    raiseCell date slot role (table.gridOf taken dates) =
      table.gridOf (fun date' slot' role' =>
        taken date' slot' role' + if (date', slot', role') = (date, slot, role) then 1 else 0)
        dates := by
  simp only [raiseCell, CapacityTable.gridOf, List.map_map]
  apply List.map_congr_left
  intro date' _
  simp only [Function.comp_apply, List.map_map, DayAvailability.mk.injEq, true_and]
  apply List.map_congr_left
  intro slot' _
  simp only [Function.comp_apply, List.map_map, SlotAvailability.mk.injEq, true_and]
  apply List.map_congr_left
  intro role' _
  rw [Function.comp_apply]
  split_ifs <;> rfl

namespace Ledger.Consistent

variable {ledger : Ledger}

/-- A booking takes one more seat in its cell, and in no other. -/
theorem seats_withBooking (h : ledger.Consistent) (employee : EmployeeId) (date : Date)
    (number : SlotNumber) (role : Role) (date' : Date) (number' : SlotNumber) (role' : Role) :
    (ledger.withBooking employee date number role).seats date' number' role' =
      ledger.seats date' number' role' +
        if (date', number', role') = (date, number, role) then 1 else 0 := by
  simp only [seats, h.shifts_withBooking, List.countP_append, List.countP_singleton,
    decide_eq_true_eq, Prod.mk.injEq, eq_comm (a := date'), eq_comm (a := number'),
    eq_comm (a := role')]

/-- Removing a booking frees one seat in the cell of its shift, and in no other. -/
theorem seats_withoutBooking (h : ledger.Consistent) {shift : Assignment}
    (mem : shift ∈ ledger.shifts) (date' : Date) (number' : SlotNumber) (role' : Role) :
    ledger.seats date' number' role' =
      (ledger.withoutBooking shift.employee shift.date shift.number).seats date' number' role' +
        if (date', number', role') = (shift.date, shift.number, shift.role) then 1 else 0 := by
  let named (other : Assignment) : Bool :=
    other.employee = shift.employee ∧ other.date = shift.date ∧ other.number = shift.number
  have alone : ledger.shifts.filter named = [shift] := by
    have one : (ledger.shifts.filter named).length = 1 := by
      have found := h.countP_shifts_eq shift.employee shift.date shift.number
      rwa [if_pos ⟨shift, mem, rfl, rfl, rfl⟩, List.countP_eq_length_filter] at found
    obtain ⟨other, eq⟩ := List.length_eq_one_iff.mp one
    have kept : shift ∈ ledger.shifts.filter named := by
      rw [List.mem_filter]
      exact ⟨mem, by simp [named]⟩
    rw [eq, List.mem_singleton] at kept
    rw [eq, kept]
  rw [seats, seats, h.shifts_withoutBooking, List.countP_eq_countP_filter_add _ _ named, alone,
    Nat.add_comm]
  congr 1
  · congr 1
    apply List.filter_congr
    intro other _
    simp [named]
  · simp only [List.countP_singleton, decide_eq_true_eq, Prod.mk.injEq, eq_comm (a := date'),
      eq_comm (a := number'), eq_comm (a := role')]

end Ledger.Consistent

/-- The operations of a planner. -/
def Operation.isPlanning : Operation → Bool
  | .assign .. => true
  | .remove .. => true
  | .list .. => true
  | .availability .. => true
  | .onCall .. => true
  | .onCallNow .. => true
  | .options => true
  | _ => false

namespace Session

/-- What every run keeps in which bookings are made through the scheduler only: rows fit together,
roles match, and counts fit into 32 bits. -/
structure Kept (session : Session) : Prop where
  consistent : session.store.ledger.Consistent
  roles : session.store.ledger.RolesMatch
  fits : ∀ slot role, session.store.ledger.roleCount slot role < 4294967296

namespace Kept

variable {session : Session} {operation : Operation}

/-- A vetted step keeps what a run keeps. -/
theorem step (h : session.Kept) (vetted : operation.isVetted = true) :
    (session.step operation).2.Kept := by
  have effect := session.step_effect operation
  have checked := Operation.isChecked_of_isVetted vetted
  constructor
  · exact effect.consistent (Operation.isIntact_of_isChecked checked) h.consistent
  · exact effect.rolesMatch vetted h.consistent h.roles
  · intro slot role
    have grown := effect.roleCount_le checked slot role
    have applied := session.appliedCapacity_lt operation role
    have fits := h.fits slot role
    omega

/-- The seats taken can be counted in 32 bits. -/
theorem seats_lt (h : session.Kept) (date : Date) (number : SlotNumber) (role : Role) :
    session.store.ledger.seats date number role < 4294967296 :=
  h.consistent.seats_lt h.fits date number role

end Kept

/-- Every run in which bookings are made through the scheduler only keeps it. -/
theorem run_kept {start : Session} {operations : List Operation} (empty : start.store.ledger = {})
    (vetted : ∀ operation ∈ operations, operation.isVetted = true) :
    (start.run operations).2.Kept := by
  have checked := fun operation mem => Operation.isChecked_of_isVetted (vetted operation mem)
  exact ⟨run_consistent empty checked, run_rolesMatch empty vetted, run_roleCount_lt empty checked⟩

section Gate

variable {session : Session} {first_text : String} {days : Nat} {grid : List DayAvailability}

/-- The answer to a request that comes to nothing for want of a free place. -/
def refusedForCapacity (session : Session) (member : Employee) (date : Date) (slot : SlotNumber) :
    Except Refusal Reply :=
  .error (.request (.capacityReached member.role date slot
    (session.options.capacity.capacity member.role)))

/-- A grid and the gate of a booking agree. A request that passes the other checks, by a member of
staff who does not hold the slot, is refused for capacity exactly if the cell of the role has no
place left, and is granted if it has one; a request in a role without a cell is always refused for
capacity. -/
def GateAgrees (session : Session) (grid : List DayAvailability) : Prop :=
  ∀ day ∈ grid, ∀ place ∈ day.slots, ∀ (member : Employee) (date : String) (slot : Nat),
    session.store.vetRequest session.options session.today member.id date slot =
      .ok (member, day.date, place.slot) →
    ¬ session.store.ledger.Holds member.id day.date place.slot →
    let answer := (session.step (.assign member.id date slot)).1
    let refused := session.refusedForCapacity member day.date place.slot
    (∀ cell ∈ place.roles, cell.role = member.role → (answer = refused ↔ cell.remaining = 0) ∧
      (cell.remaining ≠ 0 →
        ∃ id, answer = .ok (.receipt ⟨id, member.id, day.date, place.slot⟩))) ∧
    ((∀ cell ∈ place.roles, cell.role ≠ member.role) → answer = refused)

/-- How the grid for the same request moves with a step. A booking raises the cell of its day, slot
and role, a removal lowers it, and any other step leaves the grid as it was. -/
def GridMoves (session : Session) (start : String) (days : Nat) (grid : List DayAvailability)
    (operation : Operation) : Prop :=
  let shown := (session.step operation).2.store.availability session.options start days
  match operation, (session.step operation).1 with
  | .assign employee date slot, .ok _ =>
    ∃ member ∈ session.store.ledger.staff, ∃ day number, member.id = employee ∧
      requestDate date = .ok day ∧ SlotNumber.ofNumber? slot = some number ∧
      shown = .ok (raiseCell day number member.role grid)
  | .remove employee date slot, .ok _ =>
    ∃ member ∈ session.store.ledger.staff, ∃ day number lowered, member.id = employee ∧
      requestDate date = .ok day ∧ SlotNumber.ofNumber? slot = some number ∧
      shown = .ok lowered ∧ grid = raiseCell day number member.role lowered
  | _, _ => shown = .ok grid

/-- A grid of plain days is the one of the seats taken. -/
theorem of_plain_availability (h : session.Kept) {options : Options}
    (shown : session.store.availability options first_text days = .ok grid)
    (plain : ∀ day ∈ grid, day.date.IsPlain) :
    ∃ first last, gridRange first_text days = .ok (first, last) ∧
      (∀ date ∈ first.daysFrom days, date.IsPlain) ∧
      grid = options.capacity.gridOf session.store.ledger.seats (first.daysFrom days) := by
  obtain ⟨first, last, range, rfl⟩ := h.consistent.of_availability shown
  have plain_days := isPlain_of_gridOf plain
  exact ⟨first, last, range, plain_days, gridOf_dateTextBetween range plain_days⟩

/-- The grid agrees with the gate. -/
theorem gateAgrees (h : session.Kept) (free : session.store.lock = .free)
    (shown : session.store.availability session.options first_text days = .ok grid)
    (plain : ∀ day ∈ grid, day.date.IsPlain) : session.GateAgrees grid := by
  obtain ⟨first, last, range, -, rfl⟩ := of_plain_availability h shown plain
  have isGrid : IsGrid session.options.capacity first days session.store.ledger.seats
      (session.options.capacity.gridOf session.store.ledger.seats (first.daysFrom days)) :=
    isGrid_gridOf range
  intro day at_day place at_place member date slot passed fresh
  have answered := step_assign_eq free h.consistent passed
  have fits := Nat.not_le.mpr (h.seats_lt day.date place.slot member.role)
  dsimp only at answered ⊢
  rw [if_neg fresh, if_neg fits] at answered
  constructor
  · rintro cell at_cell own
    obtain ⟨-, assigned, remaining⟩ := isGrid.cells day at_day place at_place cell at_cell
    rw [assigned, own] at remaining
    by_cases full : (session.options.capacity.capacity member.role).toNat ≤
        session.store.ledger.seats day.date place.slot member.role
    · rw [if_pos full] at answered
      rw [answered]
      have nothing : cell.remaining = 0 := by omega
      exact ⟨iff_of_true rfl nothing, fun some_left => absurd nothing some_left⟩
    · rw [if_neg full] at answered
      rw [answered]
      have some_left : cell.remaining ≠ 0 := by omega
      exact ⟨iff_of_false nofun some_left, fun _ => ⟨_, rfl⟩⟩
  · intro missing
    -- only roles of capacity zero are left out of the grid
    have no_place : (session.options.capacity.capacity member.role).toNat = 0 := by
      by_contra positive
      have listed : member.role ∈ place.roles.map (·.role) := by
        rw [isGrid.roles day at_day place at_place, List.mem_filter, decide_eq_true_eq]
        exact ⟨by cases member.role <;> simp, Nat.pos_of_ne_zero positive⟩
      obtain ⟨cell, at_cell, own⟩ := List.mem_map.mp listed
      exact missing cell at_cell own
    rw [no_place, if_pos (Nat.zero_le _)] at answered
    rw [answered]
    rfl

/-- The grid moves as it should with every step of a planner. -/
theorem gridMoves (h : session.Kept)
    (shown : session.store.availability session.options first_text days = .ok grid)
    (plain : ∀ day ∈ grid, day.date.IsPlain) {operation : Operation}
    (planning : operation.isPlanning = true) :
    session.GridMoves first_text days grid operation := by
  obtain ⟨first, last, range, plain_days, eq⟩ := of_plain_availability h shown plain
  -- what is shown after a vetted step is the grid of the seats that are taken then
  have shown_after {operation : Operation} {ledger : Ledger}
      (vetted : operation.isVetted = true)
      (left : (session.step operation).2 = session.withLedger ledger) :
      (session.step operation).2.store.availability session.options first_text days =
        .ok (session.options.capacity.gridOf ledger.seats (first.daysFrom days)) := by
    have after := h.step vetted
    rw [left] at after ⊢
    exact after.consistent.availability_eq after.seats_lt range plain_days
  cases operation with
  | assign employee date slot =>
    unfold GridMoves
    cases answer : (session.step (.assign employee date slot)).1 with
    | error cause =>
      have same := step_assign_of_isFailure (show isFailure _ = true by rw [answer]; rfl)
      simp only [same]
      exact shown
    | ok reply =>
      obtain ⟨-, member, on_staff, day, number, own, read, numbered, -, -, left⟩ :=
        of_step_assign h.consistent answer
      refine ⟨member, on_staff, day, number, own, read, numbered, ?_⟩
      rw [shown_after rfl left, eq, raiseCell_gridOf]
      refine congrArg Except.ok (gridOf_congr ?_)
      intro day' _ number' role'
      exact h.consistent.seats_withBooking _ _ _ _ _ _ _
  | remove employee date slot =>
    unfold GridMoves
    cases answer : (session.step (.remove employee date slot)).1 with
    | error cause =>
      have same := step_remove_of_isFailure (show isFailure _ = true by rw [answer]; rfl)
      simp only [same]
      exact shown
    | ok reply =>
      obtain ⟨day, number, read, numbered, ⟨shift, mem, rfl, rfl, rfl⟩, left⟩ :=
        of_step_remove h.consistent answer
      obtain ⟨member, on_staff, own, role⟩ := h.roles shift mem
      refine ⟨member, on_staff, _, _, _, own, read, numbered, shown_after rfl left, ?_⟩
      rw [eq, raiseCell_gridOf]
      apply gridOf_congr
      intro day' _ number' role'
      rw [role]
      exact h.consistent.seats_withoutBooking mem _ _ _
  | list | availability | onCall | onCallNow | options => exact shown
  | _ => simp [Operation.isPlanning] at planning

end Gate

section Runs

variable {start : Session} {operations : List Operation} {options : Options} {first_text : String}
  {days : Nat} {grid : List DayAvailability}

/-- Whatever has been done in a run from an empty store, short of overwriting stored values, and
under whatever limits: a grid that is shown has the shape of its range, and a cell tells the number
of assignments in the row of its slot if the text of its day lies between the texts of the first and
the last day, and zero otherwise. If all days shown are plain, it is that number in every cell. -/
theorem run_availability_isGrid (empty : start.store.ledger = {})
    (intact : ∀ operation ∈ operations, operation.isIntact = true)
    (shown : (start.run operations).2.store.availability options first_text days = .ok grid) :
    let ledger := (start.run operations).2.store.ledger
    ∃ first last, requestDate first_text = .ok first ∧
      last.number = first.number + (days - 1 : Nat) ∧
      IsGrid options.capacity first days (fun date slot role =>
        if dateTextBetween first last date.text then ledger.occupancy date slot role else 0) grid ∧
      ((∀ day ∈ grid, day.date.IsPlain) →
        IsGrid options.capacity first days ledger.occupancy grid) := by
  intro ledger
  have consistent : ledger.Consistent := run_consistent_of_intact empty intact
  obtain ⟨first, last, range, rfl⟩ := consistent.of_availability shown
  obtain ⟨-, read, number⟩ := gridRange_eq_ok_iff.mp range
  have counted : ledger.occupancy = ledger.seats := by
    funext date slot role
    exact consistent.occupancy_eq date slot role
  refine ⟨first, last, read, number, ?_, ?_⟩
  · rw [counted]
    exact isGrid_gridOf range
  · intro plain
    rw [gridOf_dateTextBetween range (isPlain_of_gridOf plain), counted]
    exact isGrid_gridOf range

/-- The grid of two days in August 2020, on the first of which a medic has been booked. -/
theorem run_availability_isGrid_of_medic :
    let operations : List Operation := [.register "Ada" "medic", .assign ⟨1⟩ "2020-08-01" 1]
    let session := (sample.run operations).2
    (∀ operation ∈ operations, operation.isIntact = true) ∧
      session.store.ledger.occupancy sampleDay .early .medic = 1 ∧
      ∃ grid, session.store.availability session.options "2020-08-01" 2 = .ok grid ∧
        (∀ day ∈ grid, day.date.IsPlain) ∧
        IsGrid session.options.capacity sampleDay 2 session.store.ledger.occupancy grid := by
  intro operations session
  have empty : sample.store.ledger = {} := rfl
  have intact : ∀ operation ∈ operations, operation.isIntact = true := by decide
  have counted : session.store.ledger.occupancy sampleDay .early .medic = 1 := by decide +kernel
  let grid := (session.store.availability session.options "2020-08-01" 2).toOption.getD []
  have shown : session.store.availability session.options "2020-08-01" 2 = .ok grid := by
    decide +kernel
  have plain : ∀ day ∈ grid, day.date.IsPlain := by decide +kernel
  have expected : requestDate "2020-08-01" = .ok sampleDay := by decide +kernel
  obtain ⟨first, last, read, -, -, isGrid⟩ := run_availability_isGrid empty intact shown
  rw [expected, Except.ok.injEq] at read
  subst read
  exact ⟨intact, counted, grid, shown, plain, isGrid plain⟩

/-- A grid that goes beyond the plain years misses a seat. A medic is booked on the last day of year
9999, and the grid of that day and the next one, whose text starts with a sign, shows all places of
that day free. -/
theorem availability_misses_year_end :
    let day : Date := ⟨daysBeforeYear 10000 - 1, by decide, by decide⟩
    let morning : Instant := ⟨day, 32400, 0, by decide, .inl (by decide)⟩
    let operations : List Operation := [.register "Anna" "medic", .assign ⟨1⟩ "9999-12-31" 1]
    let session := (Session.run { now := morning } operations).2
    let grid := (session.store.availability session.options "9999-12-31" 2).toOption.getD []
    session.store.availability session.options "9999-12-31" 2 = .ok grid ∧
      session.store.ledger.occupancy day .early .medic = 1 ∧
      ¬ IsGrid session.options.capacity day 2 session.store.ledger.occupancy grid := by
  intro day morning operations session grid
  refine ⟨by decide +kernel, by decide +kernel, ?_⟩
  intro isGrid
  have wrong : ∃ day ∈ grid, ∃ place ∈ day.slots, ∃ cell ∈ place.roles,
      cell.assigned ≠ session.store.ledger.occupancy day.date place.slot cell.role := by
    decide +kernel
  obtain ⟨day, at_day, place, at_place, cell, at_cell, ne⟩ := wrong
  exact ne (isGrid.cells day at_day place at_place cell at_cell).2.1

/-- In every session that is reached from an empty store with bookings made through the scheduler
only, and for every grid of plain days that is shown: the gate of a booking agrees with the cells of
the grid, as long as nobody else holds the write lock, and a step of a planner moves the cell of a
booking that it makes or removes, and nothing else. -/
theorem run_grid_agrees_with_bookings (empty : start.store.ledger = {})
    (vetted : ∀ operation ∈ operations, operation.isVetted = true)
    (free : (start.run operations).2.store.lock = .free)
    (shown : (start.run operations).2.store.availability (start.run operations).2.options first_text
      days = .ok grid)
    (plain : ∀ day ∈ grid, day.date.IsPlain) :
    let session := (start.run operations).2
    session.GateAgrees grid ∧ ∀ operation : Operation, operation.isPlanning = true →
      session.GridMoves first_text days grid operation := by
  have kept := run_kept empty vetted
  refine ⟨gateAgrees kept free shown plain, ?_⟩
  intro operation planning
  exact gridMoves kept shown plain planning

/-- The grid of a day on which a medic has been booked, and another booking on that day. -/
theorem run_grid_agrees_with_bookings_of_medics :
    let operations : List Operation := [.register "Ada" "medic", .register "Eva" "medic",
      .assign ⟨1⟩ "2020-08-01" 1]
    let session := (sample.run operations).2
    (∀ operation ∈ operations, operation.isVetted = true) ∧ session.store.lock = .free ∧
      ∃ grid, session.store.availability session.options "2020-08-01" 1 = .ok grid ∧
        (∀ day ∈ grid, day.date.IsPlain) ∧ session.GateAgrees grid ∧
        (session.step (.assign ⟨2⟩ "2020-08-01" 1)).2.store.availability session.options
          "2020-08-01" 1 = .ok (raiseCell sampleDay .early .medic grid) := by
  intro operations session
  have empty : sample.store.ledger = {} := rfl
  have vetted : ∀ operation ∈ operations, operation.isVetted = true := by decide
  have free : session.store.lock = .free := by decide +kernel
  let grid := (session.store.availability session.options "2020-08-01" 1).toOption.getD []
  have shown : session.store.availability session.options "2020-08-01" 1 = .ok grid := by
    decide +kernel
  have plain : ∀ day ∈ grid, day.date.IsPlain := by decide +kernel
  obtain ⟨agrees, moves⟩ := run_grid_agrees_with_bookings empty vetted free shown plain
  refine ⟨vetted, free, grid, shown, plain, agrees, ?_⟩
  have moved := moves (.assign ⟨2⟩ "2020-08-01" 1) rfl
  have granted : (session.step (.assign ⟨2⟩ "2020-08-01" 1)).1 =
      .ok (.receipt ⟨⟨2⟩, ⟨2⟩, sampleDay, .early⟩) := by decide +kernel
  have read : requestDate "2020-08-01" = .ok sampleDay := by decide +kernel
  unfold GridMoves at moved
  rw [granted] at moved
  obtain ⟨member, on_staff, day', number, own, read', numbered, moved⟩ := moved
  have staff : session.store.ledger.staff = [⟨⟨1⟩, "Ada", .medic⟩, ⟨⟨2⟩, "Eva", .medic⟩] := by
    decide +kernel
  have role : member.role = .medic := by
    rw [staff] at on_staff
    simp only [List.mem_cons, List.not_mem_nil, or_false] at on_staff
    rcases on_staff with rfl | rfl <;> rfl
  rw [read, Except.ok.injEq] at read'
  simp only [SlotNumber.ofNumber?, Option.some.injEq] at numbered
  rw [moved, role, ← read', ← numbered]

end Runs

end Session

end DutyRoster
