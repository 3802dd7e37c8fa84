import DutyRoster.Proofs.Store.Shifts

/-!
# The lists of the store

The join of assignments with slots is read row by row, and each row of it tells one shift
(`Ledger.Consistent.forall₂_bookings`). Filtering, sorting and counting the join is therefore
filtering, sorting and counting the shifts, which is how the joined queries of the store are
understood. The list of an employee comes first: it is the own shifts in a range, sorted by the
texts of their dates (`Ledger.Consistent.listAssignments_eq`). Texts and slot numbers order all
shifts, and shifts that this order does not tell apart are for the same slot of the same day, so
what is dropped before sorting might as well be dropped after it (`mergeSort_filter`).
-/

set_option autoImplicit false

namespace DutyRoster

/-- An assignment row and the row of its slot tell a shift when they are read together. -/
structure Tells (booking : AssignmentRow × SlotRow) (shift : Assignment) : Prop where
  employee : booking.1.employee = shift.employee
  role : booking.1.role = shift.role.name
  names : booking.2.Names shift.date shift.number
  read : readAssignment booking = .ok shift

/-- The order of shifts in lists: by the text of the date, then by slot number. -/
def Assignment.listLe (a b : Assignment) : Bool :=
  if a.date.text = b.date.text then
    (Cell.integer a.number.number).le (Cell.integer b.number.number)
  else a.date.text ≤ b.date.text

section Lists

variable {α β : Type} {R : α → β → Prop} {l : List α} {m : List β}

/-- If a function has a result for every element, and each is related to it, the results are related
to the list. -/
theorem forall₂_filterMap {f : α → Option β} (each : ∀ a ∈ l, ∃ b, f a = some b ∧ R a b) :
    List.Forall₂ R l (l.filterMap f) := by
  induction l with
  | nil => exact List.Forall₂.nil
  | cons a l ih =>
    obtain ⟨b, eq, related⟩ := each a List.mem_cons_self
    rw [List.filterMap_cons_some eq]
    exact List.Forall₂.cons related (ih fun c mem => each c (List.mem_cons_of_mem a mem))

/-- Sorting keeps related lists related if the orders agree. -/
theorem forall₂_mergeSort {r : α → α → Bool} {s : β → β → Bool} (all : List.Forall₂ R l m)
    (agree : ∀ a b a' b', R a b → R a' b' → r a a' = s b b') :
    List.Forall₂ R (l.mergeSort r) (m.mergeSort s) := by
  obtain ⟨length, related⟩ := List.forall₂_iff_zip.mp all
  -- both sides are read off the list of pairs, sorted once
  let pairs := (l.zip m).mergeSort fun p q => r p.1 q.1
  have left : pairs.map Prod.fst = l.mergeSort r := by
    rw [List.map_mergeSort (s := r) fun _ _ _ _ => rfl, List.map_fst_zip (Nat.le_of_eq length)]
  have right : pairs.map Prod.snd = m.mergeSort s := by
    have orders : ∀ p ∈ l.zip m, ∀ q ∈ l.zip m, r p.1 q.1 = s p.2 q.2 := fun p hp q hq =>
      agree p.1 p.2 q.1 q.2 (related hp) (related hq)
    rw [List.map_mergeSort orders, List.map_snd_zip (Nat.le_of_eq length.symm)]
  rw [← left, ← right, List.forall₂_map_left_iff, List.forall₂_map_right_iff, List.forall₂_same]
  intro p mem
  exact related ((List.mergeSort_perm _ _).subset mem)

/-- A list whose elements can all be read is read as what they are read as. -/
theorem mapM_eq_ok_of_forall₂ {ε : Type} {read : α → Except ε β}
    (all : List.Forall₂ (fun a b => read a = .ok b) l m) : l.mapM read = .ok m := by
  induction all with
  | nil => rfl
  | cons eq _ ih =>
    rw [List.mapM_cons, eq, ih]
    rfl

/-- Sorting what is kept is keeping it in the sorted list, if the order tells elements apart. -/
theorem mergeSort_filter {le : α → α → Bool} (trans : ∀ a b c, le a b → le b c → le a c)
    (total : ∀ a b, le a b || le b a) (antisymm : ∀ a ∈ l, ∀ b ∈ l, le a b → le b a → a = b)
    (p : α → Bool) : (l.filter p).mergeSort le = (l.mergeSort le).filter p := by
  have perm : ((l.filter p).mergeSort le).Perm ((l.mergeSort le).filter p) :=
    (List.mergeSort_perm _ le).trans ((List.mergeSort_perm l le).filter p).symm
  refine perm.eq_of_pairwise ?_ (List.pairwise_mergeSort trans total _)
    ((List.pairwise_mergeSort trans total l).filter p)
  intro a b ha hb
  rw [List.mem_mergeSort, List.mem_filter] at ha
  rw [List.mem_filter, List.mem_mergeSort] at hb
  exact antisymm a ha.1 b hb.1

end Lists

namespace Assignment

variable {a b c : Assignment}

/-- A shift comes before another in lists if the text of its date does, or for the same text its
slot number. -/
theorem listLe_iff : a.listLe b = true ↔ a.date.text ≤ b.date.text ∧
    (a.date.text = b.date.text → a.number.number ≤ b.number.number) := by
  unfold listLe
  split
  case isTrue same => simp [same, Cell.le]
  case isFalse other => simp [other]

/-- The order of lists is transitive. -/
theorem listLe_trans (a b c : Assignment) (hab : a.listLe b) (hbc : b.listLe c) : a.listLe c := by
  rw [listLe_iff] at *
  refine ⟨String.le_trans hab.1 hbc.1, fun same => ?_⟩
  -- the text in between is the same as well
  have between : a.date.text = b.date.text := String.le_antisymm hab.1 (same ▸ hbc.1)
  exact Nat.le_trans (hab.2 between) (hbc.2 (between ▸ same))

/-- Of two shifts, one comes before the other in lists. -/
theorem listLe_total (a b : Assignment) : a.listLe b || b.listLe a := by
  rw [Bool.or_eq_true, listLe_iff, listLe_iff]
  by_cases same : a.date.text = b.date.text
  · rcases Nat.le_total a.number.number b.number.number with le | le
    · exact .inl ⟨same ▸ String.le_refl _, fun _ => le⟩
    · exact .inr ⟨same ▸ String.le_refl _, fun _ => le⟩
  · rcases String.le_total a.date.text b.date.text with le | le
    · exact .inl ⟨le, fun eq => absurd eq same⟩
    · exact .inr ⟨le, fun eq => absurd eq.symm same⟩

/-- Two shifts that come before each other in lists are for the same slot of the same day. -/
theorem listLe_antisymm (hab : a.listLe b) (hba : b.listLe a) :
    a.date = b.date ∧ a.number = b.number := by
  rw [listLe_iff] at hab hba
  have same : a.date.text = b.date.text := String.le_antisymm hab.1 hba.1
  exact ⟨Date.text_injective same,
    SlotNumber.number_injective (Nat.le_antisymm (hab.2 same) (hba.2 same.symm))⟩

end Assignment

namespace Ledger.Consistent

variable {ledger : Ledger}

/-- The shifts are told by the join of assignments with slots, row by row. -/
theorem forall₂_bookings (h : ledger.Consistent) :
    List.Forall₂ Tells ledger.bookings ledger.shifts := by
  apply forall₂_filterMap
  rintro ⟨row, slot⟩ mem
  obtain ⟨shift, read, shows, names⟩ := h.read_booking mem
  exact ⟨shift, by rw [read]; rfl, shows.employee.symm, shows.role, names, read⟩

/-- The store lists the shifts of an employee in their order, those whose dates lie in the range by
their text. -/
theorem listAssignments_eq (h : ledger.Consistent) (employee : EmployeeId)
    (range : Option (Date × Date)) :
    ledger.listAssignments employee range =
      .ok ((ledger.shifts.filter fun shift => shift.employee = employee ∧
        range.all fun ends => dateTextBetween ends.1 ends.2 shift.date.text).mergeSort
          Assignment.listLe) := by
  let rows := ledger.bookings.filter fun booking => booking.1.employee = employee ∧
    range.all fun ends => dateTextBetween ends.1 ends.2 booking.2.date
  have answer : ledger.listAssignments employee range =
      (rows.mergeSort bookingLe).mapM readAssignment := by rfl
  rw [answer]
  apply mapM_eq_ok_of_forall₂
  suffices sorted : List.Forall₂ Tells (rows.mergeSort bookingLe)
      ((ledger.shifts.filter fun shift => shift.employee = employee ∧
        range.all fun ends => dateTextBetween ends.1 ends.2 shift.date.text).mergeSort
          Assignment.listLe) from
    sorted.imp fun _ _ tells => tells.read
  apply forall₂_mergeSort
  · refine List.rel_filter ?_ h.forall₂_bookings
    intro booking shift tells
    simp only [tells.employee, tells.names.1]
  · intro booking shift booking' shift' tells tells'
    simp only [bookingLe, Assignment.listLe, tells.names.1, tells.names.2, tells'.names.1,
      tells'.names.2]

/-- The order of lists tells the shifts of one employee apart. -/
theorem eq_of_listLe (h : ledger.Consistent) {a b : Assignment} (ha : a ∈ ledger.shifts)
    (hb : b ∈ ledger.shifts) (own : a.employee = b.employee) (hab : a.listLe b)
    (hba : b.listLe a) : a = b := by
  obtain ⟨date, number⟩ := Assignment.listLe_antisymm hab hba
  exact h.shift_eq ha hb own date number

/-- The store lists the shifts of an employee in the range, each of them once. -/
theorem listAssignments_perm (h : ledger.Consistent) (employee : EmployeeId)
    (range : Option (Date × Date)) :
    ∃ list, ledger.listAssignments employee range = .ok list ∧
      list.Perm (ledger.shifts.filter fun shift => shift.employee = employee ∧
        range.all fun ends => dateTextBetween ends.1 ends.2 shift.date.text) :=
  ⟨_, h.listAssignments_eq employee range, List.mergeSort_perm _ _⟩

/-- Without a range, the store lists all that an employee holds; no row of the employee is
missing. -/
theorem listAssignments_all (h : ledger.Consistent) (employee : EmployeeId) :
    ∃ list, ledger.listAssignments employee none = .ok list ∧
      list.Perm (ledger.shifts.filter fun shift => shift.employee = employee) ∧
      list.length = ledger.assignments.countP fun row => row.employee = employee := by
  obtain ⟨list, eq, perm⟩ := h.listAssignments_perm employee none
  simp only [Option.all_none, and_true] at perm
  refine ⟨list, eq, perm, ?_⟩
  rw [perm.length_eq, ← List.countP_eq_length_filter]
  refine (h.countP_assignments ?_).symm
  intro row shift shows
  rw [shows.employee]

end Ledger.Consistent

end DutyRoster
