import DutyRoster.Proofs.Scheduler.Booked
import DutyRoster.Proofs.Session.Booking

/-!
# Fewer bookings never stand in the way

A request that is granted while some bookings are there is granted without them as well. Each of the
three checks that look at bookings passes all the more: the run of days around the date is not
longer, the slot is not held either, and no more seats of the role are taken. This is so whatever
texts the dates have, because the days that are selected by their texts are selected from fewer days
by the same texts.

The two stores may be the results of different runs (`Session.run_assign_of_fewer_bookings`), so
that rows and identifiers have nothing to do with each other.
-/

set_option autoImplicit false

namespace DutyRoster

namespace Ledger.Consistent

variable {store fewer : Store} {options : Options} {today : Date} {employee : EmployeeId}
  {date : String} {slot : Nat}

/-- A request to assign is granted if it passes its checks, the employee does not hold the slot yet,
and a seat of the role is free. -/
theorem assign_eq_ok_iff (h : store.ledger.Consistent) (free : store.lock = .free)
    {receipt : Receipt} :
    (store.assign options today employee date slot).1 = .ok receipt ↔ ∃ member : Employee,
      store.vetRequest options today employee date slot =
        .ok (member, receipt.date, receipt.slot) ∧
      ¬ store.ledger.Holds member.id receipt.date receipt.slot ∧
      store.ledger.seats receipt.date receipt.slot member.role <
        (options.capacity.capacity member.role).toNat ∧
      receipt = ⟨⟨store.ledger.assignmentsIssued + 1⟩, member.id, receipt.date, receipt.slot⟩ := by
  unfold Store.assign
  cases vetted : store.vetRequest options today employee date slot with
  | error cause => simp
  | ok request =>
    obtain ⟨member, day, number⟩ := request
    have known := h.exists_row_of_mem_staff (h.of_vetRequest vetted).1
    dsimp only
    rcases store.write_cases (Ledger.commitAssignment member.id day number member.role
      (options.capacity.capacity member.role)) with ⟨-, eq⟩ | ⟨held, -⟩
    · rw [eq, h.commitAssignment_eq]
      have in_range := (options.capacity.capacity member.role).toNat_lt
      simp only [known, if_true, Except.ok.injEq, Prod.mk.injEq]
      constructor
      · intro granted
        split_ifs at granted with holds beyond full
        · cases granted
        · cases granted
        · cases granted
        · cases granted
          exact ⟨member, ⟨rfl, rfl, rfl⟩, holds, Nat.lt_of_not_le full, rfl⟩
      · rintro ⟨other, ⟨rfl, rfl, rfl⟩, fresh, room, eq⟩
        rw [if_neg fresh, if_neg (by omega), if_neg (by omega), eq]
        rfl
    · exact absurd free held

/-- What passes the checks of a store passes those of a store with the same staff and fewer
bookings. -/
theorem vetRequest_of_fewer (h : store.ledger.Consistent) (h' : fewer.ledger.Consistent)
    (staff : fewer.ledger.staff = store.ledger.staff)
    (subset : fewer.ledger.booked ⊆ store.ledger.booked) {found : Employee × Date × SlotNumber}
    (passed : store.vetRequest options today employee date slot = .ok found) :
    fewer.vetRequest options today employee date slot = .ok found := by
  obtain ⟨member, day, number⟩ := found
  rw [h.vetRequest_eq, vetting_eq_ok_iff] at passed
  rw [h'.vetRequest_eq, vetting_eq_ok_iff, staff]
  obtain ⟨on_staff, read, numbered, not_past, not_late, within⟩ := passed
  refine ⟨on_staff, read, numbered, not_past, not_late, Nat.le_trans ?_ within⟩
  apply consecutiveRun_mono
  intro n
  rw [h.covers_knownDays_iff, h'.covers_knownDays_iff]
  rintro ⟨booking, mem, seen⟩
  exact ⟨booking, subset mem, seen⟩

/-- A request that is granted is granted with fewer bookings as well. -/
theorem assign_of_fewer (h : store.ledger.Consistent) (h' : fewer.ledger.Consistent)
    (free : store.lock = .free) (free' : fewer.lock = .free)
    (staff : fewer.ledger.staff = store.ledger.staff)
    (subset : fewer.ledger.booked ⊆ store.ledger.booked) {receipt : Receipt}
    (granted : (store.assign options today employee date slot).1 = .ok receipt) :
    ∃ id, (fewer.assign options today employee date slot).1 = .ok { receipt with id } := by
  obtain ⟨member, passed, fresh, room, eq⟩ := (h.assign_eq_ok_iff free).mp granted
  refine ⟨⟨fewer.ledger.assignmentsIssued + 1⟩, (h'.assign_eq_ok_iff free').mpr
    ⟨member, h.vetRequest_of_fewer h' staff subset passed, ?_, ?_, ?_⟩⟩
  · intro holds
    obtain ⟨role, mem⟩ := holds_iff_booked.mp holds
    exact fresh (holds_iff_booked.mpr ⟨role, subset mem⟩)
  · exact Nat.lt_of_le_of_lt (h'.seats_le_of_booked_subset subset _ _ _) room
  · rw [eq]

end Ledger.Consistent

namespace Session

variable {start start' : Session} {operations operations' : List Operation}

/-- Take any two stores that are reached from empty ones, by whatever operations short of
overwriting stored values, with the same directory, both free to be written to, the bookings of one
among those of the other. Whatever the limits and the day are: a request to assign that the store
with more bookings grants, the store with fewer bookings grants too, for the same employee, day and
slot. -/
theorem run_assign_of_fewer_bookings (empty : start.store.ledger = {})
    (empty' : start'.store.ledger = {})
    (intact : ∀ operation ∈ operations, operation.isIntact = true)
    (intact' : ∀ operation ∈ operations', operation.isIntact = true)
    (free : (start.run operations).2.store.lock = .free)
    (free' : (start'.run operations').2.store.lock = .free)
    (directory : (start'.run operations').2.store.ledger.listEmployees =
      (start.run operations).2.store.ledger.listEmployees)
    (fewer : (start'.run operations').2.store.ledger.booked ⊆
      (start.run operations).2.store.ledger.booked)
    (options : Options) (today : Date) (employee : EmployeeId) (date : String) (slot : Nat)
    {receipt : Receipt}
    (granted : ((start.run operations).2.store.assign options today employee date slot).1 =
      .ok receipt) :
    ∃ id, ((start'.run operations').2.store.assign options today employee date slot).1 =
      .ok { receipt with id } := by
  have consistent := run_consistent_of_intact empty intact
  have consistent' := run_consistent_of_intact empty' intact'
  have staff : (start'.run operations').2.store.ledger.staff =
      (start.run operations).2.store.ledger.staff := by
    rwa [consistent.listEmployees_eq, consistent'.listEmployees_eq, Except.ok.injEq] at directory
  exact consistent.assign_of_fewer consistent' free free' staff fewer granted

/-- A medic who is on duty on the day before may be booked into the slot of a colleague, and so she
may where only the booking of the colleague is left, under another identifier of the slot. -/
theorem run_assign_of_fewer_bookings_of_medics :
    let staff : List Operation := [.register "Ada" "medic", .register "Eva" "medic"]
    let more := (sample.run (staff ++ [.assign ⟨1⟩ "2020-08-01" 1,
      .assign ⟨2⟩ "2020-08-02" 2])).2.store
    let fewer := (sample.run (staff ++ [.assign ⟨2⟩ "2020-08-02" 2])).2.store
    fewer.ledger.listEmployees = more.ledger.listEmployees ∧
      fewer.ledger.booked ⊆ more.ledger.booked ∧
      more.ledger.slots.map (·.id) = [⟨1⟩, ⟨2⟩] ∧ fewer.ledger.slots.map (·.id) = [⟨1⟩] ∧
      ∃ id, (fewer.assign {} sample.today ⟨1⟩ "2020-08-02" 2).1 =
        .ok ⟨id, ⟨1⟩, ⟨738004, by decide, by decide⟩, .late⟩ := by
  intro staff more fewer
  have empty : sample.store.ledger = {} := rfl
  have directory : fewer.ledger.listEmployees = more.ledger.listEmployees := by decide +kernel
  have subset : fewer.ledger.booked ⊆ more.ledger.booked := by decide +kernel
  have granted : (more.assign {} sample.today ⟨1⟩ "2020-08-02" 2).1 =
      .ok ⟨⟨3⟩, ⟨1⟩, ⟨738004, by decide, by decide⟩, .late⟩ := by decide +kernel
  exact ⟨directory, subset, by decide +kernel, by decide +kernel,
    run_assign_of_fewer_bookings empty empty (by decide) (by decide) (by decide +kernel)
      (by decide +kernel) directory subset {} sample.today ⟨1⟩ "2020-08-02" 2 granted⟩

end Session

end DutyRoster
