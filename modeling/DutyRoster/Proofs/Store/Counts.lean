import DutyRoster.Proofs.Store.Staffing

/-!
# Numbers of people by day, slot and role

The store answers how many people there are by day, slot and role with one grouped query over a
range of dates. Every group of a consistent ledger has a key that can be read, and different keys
are read as different cells (`CountKey.ofCell_injective`), so no group overwrites another: whatever
the range, the number under a cell is the number of bookings of the cell whose date lies in the
range by its text (`Ledger.Consistent.get_aggregateCounts`). Only that comparison of texts stands
between the query and the bookings.

The gate of a booking counts in another way, in the row of one slot (`Ledger.occupancy`). In a
consistent ledger the two numbers are the same.
-/

set_option autoImplicit false

namespace DutyRoster

/-- Setting one number leaves the others as they are. -/
theorem SlotCounts.get_insert (counts : SlotCounts) (date date' : Date) (slot slot' : SlotNumber)
    (role role' : Role) (n : Nat) : (counts.insert date slot role n).get date' slot' role' =
      if (date, slot, role) = (date', slot', role') then n else counts.get date' slot' role' := by
  by_cases same : (date, slot, role) = (date', slot', role')
  · simp [get, insert, same]
  · simp only [get, insert, List.find?_cons, same, decide_false, if_false]

namespace Ledger

/-- The number of assignments in the row of a slot of a day that were made in a role; none if the
slot has no row. -/
def occupancy (ledger : Ledger) (date : Date) (number : SlotNumber) (role : Role) : Nat :=
  match ledger.findSlot? date number with
  | some row => ledger.roleCount row.id role
  | none => 0

/-- The key under which the bookings of a cell are counted. -/
def CountKey.ofCell (date : Date) (number : SlotNumber) (role : Role) : CountKey :=
  ⟨date.text, .integer number.number, role.name⟩

/-- Different cells are counted under different keys. -/
theorem CountKey.ofCell_injective {date date' : Date} {number number' : SlotNumber}
    {role role' : Role} : ofCell date number role = ofCell date' number' role' ↔
      (date, number, role) = (date', number', role') := by
  constructor
  · intro same
    simp only [ofCell, CountKey.mk.injEq, Cell.integer.injEq, Int.ofNat_inj] at same
    obtain ⟨text, slot, name⟩ := same
    rw [Date.text_injective text, SlotNumber.number_injective slot, Role.name_injective name]
  · intro same
    simp only [Prod.mk.injEq] at same
    rw [same.1, same.2.1, same.2.2]

section Groups

variable {all groups : List CountKey} {counts result : SlotCounts}

/-- The group of a cell sets the number of the cell to its size, if that fits into 32 bits. -/
theorem enterGroup_ofCell (date : Date) (number : SlotNumber) (role : Role) :
    enterGroup all counts (.ofCell date number role) =
      if all.count (.ofCell date number role) < 4294967296 then
        .ok (counts.insert date number role (all.count (.ofCell date number role)))
      else .error (.countOutOfRange (all.count (.ofCell date number role))) := by
  have cell : slotNumberAt 1 (.integer number.number) = .ok number := by cases number <;> rfl
  simp only [enterGroup, CountKey.ofCell, dateAt, roleAt, Date.read_text, Role.read_name, cell,
    Except.mapError, boundedCount, bind, Except.bind]
  by_cases fits : all.count (.ofCell date number role) < 4294967296
  · simp only [CountKey.ofCell] at fits
    simp only [fits, if_true]
  · simp only [CountKey.ofCell] at fits
    simp only [fits, if_false]

/-- Entering groups one after the other sets the number of every cell that has a group to its size,
and no other. -/
theorem get_foldlM_enterGroup
    (readable : ∀ key ∈ groups, ∃ date number role, key = .ofCell date number role)
    (eq : groups.foldlM (enterGroup all) counts = .ok result) (date : Date) (number : SlotNumber)
    (role : Role) : result.get date number role =
      if .ofCell date number role ∈ groups then all.count (.ofCell date number role)
      else counts.get date number role := by
  induction groups generalizing counts with
  | nil =>
    cases eq
    simp
  | cons key rest ih =>
    obtain ⟨date', number', role', rfl⟩ := readable key List.mem_cons_self
    have later := fun other mem => readable other (List.mem_cons_of_mem _ mem)
    rw [List.foldlM_cons, enterGroup_ofCell] at eq
    split_ifs at eq with fits
    · rw [ih later eq, SlotCounts.get_insert]
      by_cases same : (date', number', role') = (date, number, role)
      · have key := CountKey.ofCell_injective.mpr same
        simp [same, key]
      · have key : ¬ CountKey.ofCell date number role = .ofCell date' number' role' := by
          intro eq
          exact same (CountKey.ofCell_injective.mp eq).symm
        simp [same, key]
    · cases eq

/-- Groups can be entered if all of them are readable and their sizes fit into 32 bits. -/
theorem exists_foldlM_enterGroup
    (readable : ∀ key ∈ groups, ∃ date number role, key = .ofCell date number role)
    (fits : ∀ key ∈ groups, all.count key < 4294967296) :
    ∃ result, groups.foldlM (enterGroup all) counts = .ok result := by
  induction groups generalizing counts with
  | nil => exact ⟨counts, rfl⟩
  | cons key rest ih =>
    obtain ⟨date, number, role, rfl⟩ := readable key List.mem_cons_self
    rw [List.foldlM_cons, enterGroup_ofCell, if_pos (fits _ List.mem_cons_self)]
    exact ih (fun other mem => readable other (List.mem_cons_of_mem _ mem))
      (fun other mem => fits other (List.mem_cons_of_mem _ mem))

end Groups

/-- The keys of the bookings between two dates, one for each booking. -/
def keysBetween (ledger : Ledger) (first last : Date) : List CountKey :=
  (ledger.bookings.filter fun (_, slot) => dateTextBetween first last slot.date).map
    fun (row, slot) => CountKey.mk slot.date slot.number row.role

/-- The numbers over a range are told by entering the groups of its keys in their order. -/
theorem aggregateCounts_eq (ledger : Ledger) (first last : Date) :
    ledger.aggregateCounts first last =
      ((ledger.keysBetween first last).eraseDups.mergeSort CountKey.le).foldlM
        (enterGroup (ledger.keysBetween first last)) {} := by
  rfl

namespace Consistent

variable {ledger : Ledger} {first last : Date}

/-- The keys of a consistent ledger are the cells of its shifts in the range. -/
theorem keysBetween_eq (h : ledger.Consistent) (first last : Date) :
    ledger.keysBetween first last =
      (ledger.shifts.filter fun shift => dateTextBetween first last shift.date.text).map
        fun shift => .ofCell shift.date shift.number shift.role := by
  have all := h.forall₂_bookings
  unfold keysBetween
  generalize ledger.bookings = bookings at all ⊢
  generalize ledger.shifts = shifts at all ⊢
  induction all with
  | nil => rfl
  | @cons booking shift _ _ tells _ ih =>
    obtain ⟨row, slot⟩ := booking
    have role : row.role = shift.role.name := tells.role
    obtain ⟨date, number⟩ := tells.names
    simp only at date number
    simp only [List.filter_cons, date]
    by_cases within : dateTextBetween first last shift.date.text <;>
      simp [within, ih, CountKey.ofCell, date, number, role]

/-- The size of a group is the number of seats taken, if the date lies in the range by its text. -/
theorem count_keysBetween (h : ledger.Consistent) (first last date : Date) (number : SlotNumber)
    (role : Role) : (ledger.keysBetween first last).count (.ofCell date number role) =
      if dateTextBetween first last date.text then ledger.seats date number role else 0 := by
  rw [h.keysBetween_eq, List.count_eq_countP, List.countP_map, List.countP_filter]
  by_cases within : dateTextBetween first last date.text
  · rw [if_pos within, seats]
    apply List.countP_congr
    intro shift _
    simp only [Function.comp_apply, beq_iff_eq, CountKey.ofCell_injective, Prod.mk.injEq,
      Bool.and_eq_true, decide_eq_true_eq]
    constructor
    · exact fun both => both.1
    · rintro ⟨rfl, rfl, rfl⟩
      exact ⟨⟨rfl, rfl, rfl⟩, within⟩
  · rw [if_neg within, List.countP_eq_zero]
    intro shift _
    simp only [Function.comp_apply, beq_iff_eq, CountKey.ofCell_injective, Prod.mk.injEq,
      Bool.and_eq_true, not_and]
    rintro ⟨rfl, -⟩
    exact within

/-- Every group of a consistent ledger is that of a cell. -/
theorem groups_readable (h : ledger.Consistent) (first last : Date) :
    ∀ key ∈ (ledger.keysBetween first last).eraseDups.mergeSort CountKey.le,
      ∃ date number role, key = .ofCell date number role := by
  intro key mem
  rw [List.mem_mergeSort, List.mem_eraseDups, h.keysBetween_eq, List.mem_map] at mem
  obtain ⟨shift, -, eq⟩ := mem
  exact ⟨_, _, _, eq.symm⟩

/-- Whenever the store can tell the numbers of people over a range, the number for a cell is that of
the seats taken, if the date of the cell lies in the range by its text, and zero otherwise. -/
theorem get_aggregateCounts (h : ledger.Consistent) {counts : SlotCounts}
    (eq : ledger.aggregateCounts first last = .ok counts) (date : Date) (number : SlotNumber)
    (role : Role) : counts.get date number role =
      if dateTextBetween first last date.text then ledger.seats date number role else 0 := by
  rw [aggregateCounts_eq] at eq
  rw [get_foldlM_enterGroup (h.groups_readable first last) eq, ← h.count_keysBetween first last]
  split_ifs with group
  · rfl
  · -- a cell without a group has no booking in the range, so its count is zero as well
    rw [List.mem_mergeSort, List.mem_eraseDups] at group
    rw [List.count_eq_zero.mpr group]
    rfl

/-- The store can tell the numbers of people over every range if they fit into 32 bits. -/
theorem exists_aggregateCounts (h : ledger.Consistent)
    (fits : ∀ date number role, ledger.seats date number role < 4294967296) (first last : Date) :
    ∃ counts, ledger.aggregateCounts first last = .ok counts := by
  rw [aggregateCounts_eq]
  apply exists_foldlM_enterGroup (h.groups_readable first last)
  intro key mem
  obtain ⟨date, number, role, rfl⟩ := h.groups_readable first last key mem
  rw [h.count_keysBetween]
  split_ifs
  · exact fits date number role
  · decide

/-- What is counted in the row of a slot are the seats taken. -/
theorem occupancy_eq (h : ledger.Consistent) (date : Date) (number : SlotNumber) (role : Role) :
    ledger.occupancy date number role = ledger.seats date number role := by
  unfold occupancy
  cases found : ledger.findSlot? date number with
  | some row =>
    have names := List.find?_some found
    rw [decide_eq_true_eq] at names
    exact (h.seats_eq (List.mem_of_find?_eq_some found) names role).symm
  | none =>
    have absent := List.find?_eq_none.mp found
    symm
    unfold seats
    rw [List.countP_eq_zero]
    intro shift mem named
    rw [decide_eq_true_eq] at named
    obtain ⟨slot, hs, -, names⟩ := h.shift_named mem
    rw [named.1, named.2.1] at names
    exact absent slot hs (decide_eq_true names)

end Consistent

end Ledger

end DutyRoster
