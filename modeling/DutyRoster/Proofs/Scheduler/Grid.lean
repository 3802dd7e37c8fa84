import DutyRoster.Scheduler.Availability
import DutyRoster.Proofs.Store.Counts

/-!
# The grid of a range of days

What a planner is shown is a function of the number of places taken by day, slot and role
(`CapacityTable.gridOf`). Its shape is that of the range, whatever the numbers are
(`isGrid_gridOf`): every day of it, the three slots of the day, and every role that has a place, in
their orders.

The scheduler shows the grid of the seats that are taken, but for one thing: seats count only on
days whose text lies between the texts of the first and the last day
(`Ledger.Consistent.of_availability`). On days that are written with four digits for the year this
is no restriction (`gridOf_dateTextBetween`).
-/

set_option autoImplicit false

namespace DutyRoster

/-- A grid is that of so many days from the first one on, with so many places taken: the days follow
each other, each has its three slots in order and each slot the roles with at least one place in
order, and what is left of a capacity is the part of it that is not taken. -/
structure IsGrid (table : CapacityTable) (first : Date) (days : Nat)
    (taken : Date → SlotNumber → Role → Nat) (grid : List DayAvailability) : Prop where
  dates : grid.map (·.date.number) = (List.range days).map fun i : Nat => first.number + i
  slots : ∀ day ∈ grid, day.slots.map (·.slot) = [.early, .late, .night]
  roles : ∀ day ∈ grid, ∀ place ∈ day.slots, place.roles.map (·.role) =
    [Role.medic, .technical, .administrator].filter fun role => 0 < (table.capacity role).toNat
  cells : ∀ day ∈ grid, ∀ place ∈ day.slots, ∀ cell ∈ place.roles,
    cell.capacity = table.capacity cell.role ∧
      cell.assigned = taken day.date place.slot cell.role ∧
      cell.remaining = (table.capacity cell.role).toNat - cell.assigned

/-- The grid of some days when so many places are taken. -/
def CapacityTable.gridOf (table : CapacityTable) (taken : Date → SlotNumber → Role → Nat)
    (dates : List Date) : List DayAvailability :=
  dates.map fun date => ⟨date, SlotNumber.all.map fun slot =>
    ⟨slot, table.assignableRoles.map fun role => ⟨role, table.capacity role, taken date slot role,
      table.remaining role (taken date slot role)⟩⟩⟩

/-- The first and the last day of the grid that is asked for. -/
def gridRange (start : String) (days : Nat) : Except SchedulingError (Date × Date) := do
  checkDayCount days
  let first ← requestDate start
  let last ← lastOfRange first days
  .ok (first, last)

variable {table : CapacityTable} {taken taken' : Date → SlotNumber → Role → Nat}

section Range

/-- The days from a day on follow each other, as long as the calendar has them. -/
theorem number_daysFrom {first : Date} {days : Nat}
    (within : first.number + days ≤ lastDayNumber + 1) :
    (first.daysFrom days).map (·.number) =
      (List.range days).map fun i : Nat => first.number + i := by
  induction days generalizing first with
  | zero => rfl
  | succ days ih =>
    rw [Date.daysFrom, List.range_succ_eq_map, List.map_cons, List.map_cons, List.map_map]
    congr 1
    · exact (Int.add_zero _).symm
    cases step : first.next? with
    | none =>
      have beyond := Date.addDays?_eq_none_iff.mp step
      have first_le := first.first_le
      have days_eq : days = 0 := by omega
      subst days_eq
      rfl
    | some second =>
      have number := Date.addDays?_eq_some_iff.mp step
      rw [Option.map_some, Option.getD_some, ih (by omega)]
      apply List.map_congr_left
      intro i _
      simp only [Function.comp_apply, number, Nat.succ_eq_add_one, Int.natCast_add,
        Int.natCast_one]
      omega

/-- What the range of a grid is found to be. -/
theorem gridRange_eq_ok_iff {start : String} {days : Nat} {first last : Date} :
    gridRange start days = .ok (first, last) ↔
      (1 ≤ days ∧ days ≤ maxAvailabilityDays) ∧ requestDate start = .ok first ∧
        last.number = first.number + (days - 1 : Nat) := by
  unfold gridRange checkDayCount lastOfRange
  simp only [bind, Except.bind]
  by_cases counted : 1 ≤ days ∧ days ≤ maxAvailabilityDays
  · rw [if_pos counted]
    dsimp only
    cases requestDate start with
    | error cause => simp
    | ok read =>
      dsimp only
      cases step : read.addDays? (days - 1 : Nat) with
      | none =>
        have beyond := Date.addDays?_eq_none_iff.mp step
        have first_le := last.first_le
        have le_last := last.le_last
        simp only [reduceCtorEq, Except.ok.injEq, false_iff, not_and]
        rintro - rfl number
        omega
      | some found =>
        have number := Date.addDays?_eq_some_iff.mp step
        simp only [Except.ok.injEq, Prod.mk.injEq, counted, true_and, and_self]
        constructor
        · rintro ⟨rfl, rfl⟩
          exact ⟨rfl, number⟩
        · rintro ⟨rfl, same⟩
          exact ⟨rfl, Date.ext (number.trans same.symm)⟩
  · rw [if_neg counted]
    simp [counted]

/-- The days of a range lie between its ends. -/
theorem mem_daysFrom_of_gridRange {start : String} {days : Nat} {first last : Date}
    (range : gridRange start days = .ok (first, last)) {date : Date}
    (mem : date ∈ first.daysFrom days) : first ≤ date ∧ date ≤ last := by
  obtain ⟨⟨one_le, -⟩, -, number⟩ := gridRange_eq_ok_iff.mp range
  have le_last := last.le_last
  have listed : date.number ∈ (first.daysFrom days).map (·.number) := List.mem_map_of_mem mem
  rw [number_daysFrom (by omega), List.mem_map] at listed
  obtain ⟨i, hi, eq⟩ := listed
  rw [List.mem_range] at hi
  rw [Date.le_iff, Date.le_iff]
  omega

/-- The ends of a range are days of it. -/
theorem ends_mem_daysFrom {start : String} {days : Nat} {first last : Date}
    (range : gridRange start days = .ok (first, last)) :
    first ∈ first.daysFrom days ∧ last ∈ first.daysFrom days := by
  obtain ⟨⟨one_le, -⟩, -, number⟩ := gridRange_eq_ok_iff.mp range
  have le_last := last.le_last
  have numbers : (first.daysFrom days).map (·.number) =
      (List.range days).map fun i : Nat => first.number + i := number_daysFrom (by omega)
  have by_number (date : Date) (i : Nat) (lt : i < days) (eq : date.number = first.number + i) :
      date ∈ first.daysFrom days := by
    have listed : date.number ∈ (first.daysFrom days).map (·.number) := by
      rw [numbers, List.mem_map]
      exact ⟨i, List.mem_range.mpr lt, eq.symm⟩
    obtain ⟨other, mem, same⟩ := List.mem_map.mp listed
    rwa [Date.ext same] at mem
  exact ⟨by_number first 0 one_le (by simp), by_number last (days - 1) (by omega) number⟩

end Range

section Grids

/-- A grid has the shape of its range. -/
theorem isGrid_gridOf {start : String} {days : Nat} {first last : Date}
    (range : gridRange start days = .ok (first, last)) :
    IsGrid table first days taken (table.gridOf taken (first.daysFrom days)) := by
  obtain ⟨⟨one_le, -⟩, -, number⟩ := gridRange_eq_ok_iff.mp range
  have le_last := last.le_last
  constructor
  · rw [CapacityTable.gridOf, List.map_map, ← number_daysFrom (by omega)]
    rfl
  · intro day mem
    obtain ⟨date, -, rfl⟩ := List.mem_map.mp mem
    rfl
  · intro day mem place at_place
    obtain ⟨date, -, rfl⟩ := List.mem_map.mp mem
    obtain ⟨slot, -, rfl⟩ := List.mem_map.mp at_place
    simp only [List.map_map, CapacityTable.assignableRoles, Role.all, UInt32.lt_iff_toNat_lt]
    exact List.map_id _
  · intro day mem place at_place cell at_cell
    obtain ⟨date, -, rfl⟩ := List.mem_map.mp mem
    obtain ⟨slot, -, rfl⟩ := List.mem_map.mp at_place
    obtain ⟨role, -, rfl⟩ := List.mem_map.mp at_cell
    exact ⟨rfl, rfl, rfl⟩

/-- If only plain days are shown in a grid, only plain days were asked for. -/
theorem isPlain_of_gridOf {dates : List Date}
    (plain : ∀ day ∈ table.gridOf taken dates, day.date.IsPlain) :
    ∀ date ∈ dates, date.IsPlain := by
  unfold CapacityTable.gridOf at plain
  rw [List.forall_mem_map] at plain
  exact plain

/-- Only the numbers of the days that are shown matter. -/
theorem gridOf_congr {dates : List Date}
    (agree : ∀ date ∈ dates, ∀ slot role, taken date slot role = taken' date slot role) :
    table.gridOf taken dates = table.gridOf taken' dates := by
  apply List.map_congr_left
  intro date mem
  simp only [agree date mem]

/-- If all days of a range are plain, none of them is missed by the texts of the ends. -/
theorem gridOf_dateTextBetween {start : String} {days : Nat} {first last : Date}
    (range : gridRange start days = .ok (first, last))
    (plain : ∀ date ∈ first.daysFrom days, date.IsPlain) :
    table.gridOf (fun date slot role =>
      if dateTextBetween first last date.text then taken date slot role else 0)
        (first.daysFrom days) = table.gridOf taken (first.daysFrom days) := by
  obtain ⟨first_mem, last_mem⟩ := ends_mem_daysFrom range
  have not_after := (Date.isPlain_iff.mp (plain first first_mem)).2
  apply gridOf_congr
  intro date mem slot role
  have between := mem_daysFrom_of_gridRange range mem
  rw [if_pos ((dateTextBetween_text_iff (plain date mem) not_after (plain last last_mem)).mpr
    between)]

end Grids

section Answers

variable {store : Store} {options : Options} {start : String} {days : Nat}

/-- The scheduler finds the range, then the numbers, and shows the grid that they give. -/
theorem Store.availability_eq : store.availability options start days =
    (gridRange start days).bind fun ends =>
      (asRefusal (store.ledger.aggregateCounts ends.1 ends.2)).map fun counts =>
        options.capacity.gridOf counts.get (ends.1.daysFrom days) := by
  simp only [availability, gridRange, bind, Except.bind]
  cases checkDayCount days with
  | error cause => rfl
  | ok =>
    cases requestDate start with
    | error cause => rfl
    | ok first =>
      dsimp only
      cases lastOfRange first days with
      | error cause => rfl
      | ok last =>
        dsimp only
        cases store.ledger.aggregateCounts first last <;> rfl

namespace Ledger.Consistent

/-- What the scheduler shows, if it shows a grid, is the grid of the seats taken on days whose text
lies in the range. -/
theorem of_availability (h : store.ledger.Consistent) {grid : List DayAvailability}
    (eq : store.availability options start days = .ok grid) :
    ∃ first last, gridRange start days = .ok (first, last) ∧
      grid = options.capacity.gridOf (fun date slot role =>
        if dateTextBetween first last date.text then store.ledger.seats date slot role else 0)
          (first.daysFrom days) := by
  rw [Store.availability_eq] at eq
  cases range : gridRange start days with
  | error cause => simp [range, Except.bind] at eq
  | ok ends =>
    obtain ⟨first, last⟩ := ends
    cases counted : store.ledger.aggregateCounts first last with
    | error cause =>
      simp [range, counted, Store.asRefusal, Except.bind, Except.map, Except.mapError] at eq
    | ok counts =>
      simp only [range, counted, Store.asRefusal, Except.bind, Except.map, Except.mapError,
        Except.ok.injEq] at eq
      refine ⟨first, last, rfl, ?_⟩
      rw [← eq]
      apply gridOf_congr
      intro date _ slot role
      exact h.get_aggregateCounts counted date slot role

/-- The scheduler shows the grid of a range of plain days if the numbers fit. -/
theorem availability_eq (h : store.ledger.Consistent)
    (fits : ∀ date slot role, store.ledger.seats date slot role < 4294967296) {first last : Date}
    (range : gridRange start days = .ok (first, last))
    (plain : ∀ date ∈ first.daysFrom days, date.IsPlain) :
    store.availability options start days =
      .ok (options.capacity.gridOf store.ledger.seats (first.daysFrom days)) := by
  obtain ⟨counts, counted⟩ := h.exists_aggregateCounts fits first last
  have answered : store.availability options start days =
      .ok (options.capacity.gridOf counts.get (first.daysFrom days)) := by
    simp only [Store.availability_eq, range, counted, Store.asRefusal, Except.bind, Except.map,
      Except.mapError]
  rw [answered, Except.ok.injEq]
  refine Eq.trans (gridOf_congr ?_) (gridOf_dateTextBetween range plain)
  intro date _ slot role
  exact h.get_aggregateCounts counted date slot role

end Ledger.Consistent

end Answers

end DutyRoster
