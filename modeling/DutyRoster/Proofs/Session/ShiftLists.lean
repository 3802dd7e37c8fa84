import DutyRoster.Proofs.Session.OnCall

/-!
# Lists of shifts in the calendar

The store compares the texts of dates when it picks the shifts of a range and when it sorts them.
Texts of plain years are in the order of the calendar, so for an employee whose shifts all lie in
such years the answers can be told without them (`Session.run_list_is_exact`): the list of all
shifts has every booking once, in strictly ascending order of day and slot, a range takes the part
of it that lies between its two dates, and a range that is cut in two gives two lists that follow
each other.

The order is strict because two shifts that the texts do not tell apart are for the same slot of
the same day, which an employee holds once only (`Ledger.Consistent.eq_of_listLe`). The cut is a
fact about sorted lists (`filter_or_eq_append`): of what is taken by either of two tests, all that
the first one takes comes before all that the second one takes.
-/

set_option autoImplicit false

namespace DutyRoster

section Lists

variable {α : Type} {R : α → α → Prop} {l : List α}

/-- If nothing that one test takes comes before anything that another one takes, a list is searched
for both by searching it for the one and then for the other. -/
theorem filter_or_eq_append {p q : α → Bool} (sorted : l.Pairwise R)
    (apart : ∀ a, p a = true → q a = false)
    (order : ∀ a b, R a b → q a = true → p b = false) :
    (l.filter fun a => p a || q a) = l.filter p ++ l.filter q := by
  induction l with
  | nil => rfl
  | cons a l ih =>
    obtain ⟨before, rest⟩ := List.pairwise_cons.mp sorted
    cases first : p a with
    | true => simp [first, apart a first, ih rest]
    | false =>
      cases second : q a with
      | false => simp [first, second, ih rest]
      | true =>
        -- from here on there is nothing left for the first test
        have none_left : l.filter p = [] :=
          List.filter_eq_nil_iff.mpr fun b mem => by simp [order a b (before b mem) second]
        simp [first, second, ih rest, none_left]

end Lists

/-- A shift comes before another one in the calendar: on an earlier day, or on the same day in an
earlier slot. -/
def Assignment.Precedes (a b : Assignment) : Prop :=
  a.date < b.date ∨ a.date = b.date ∧ a.number.number < b.number.number

/-- In plain years the order of lists is that of the calendar. -/
theorem Assignment.precedes_of_listLe {a b : Assignment} (ha : a.date.IsPlain)
    (hb : b.date.IsPlain) (le : a.listLe b = true) (not_ge : ¬ b.listLe a = true) :
    a.Precedes b := by
  rw [listLe_iff] at le not_ge
  by_cases same : a.date = b.date
  · have number := le.2 (congrArg Date.text same)
    exact .inr ⟨same, Nat.lt_of_not_le fun ge => not_ge ⟨same ▸ String.le_refl _, fun _ => ge⟩⟩
  · have date := (Date.text_le_text_iff ha hb).mp le.1
    exact .inl (Int.lt_iff_le_and_ne.mpr ⟨date, fun eq => same (Date.ext eq)⟩)

namespace Date

variable {first middle last next d : Date}

/-- Before a later date there is a next one, and the dates after the one are those from the
other on. -/
theorem exists_next (before : middle < last) :
    ∃ next, middle.next? = some next ∧ ∀ d : Date, next ≤ d ↔ middle < d := by
  have within : firstDayNumber ≤ middle.number + 1 ∧ middle.number + 1 ≤ lastDayNumber := by
    have := middle.first_le
    have := last.le_last
    have : middle.number < last.number := before
    omega
  exact ⟨⟨middle.number + 1, within.1, within.2⟩, addDays?_eq_some_iff.mpr rfl, fun d => Iff.rfl⟩

/-- What lies between two plain dates is plain. -/
theorem IsPlain.of_between (hf : first.IsPlain) (hl : last.IsPlain) (le : first ≤ d)
    (le' : d ≤ last) : d.IsPlain := by
  rw [isPlain_iff] at *
  have : first.number ≤ d.number := le
  have : d.number ≤ last.number := le'
  omega

end Date

/-- A list in the order of the calendar that is cut after a day falls into two parts. -/
theorem filter_range_eq_append {shifts : List Assignment}
    (sorted : shifts.Pairwise Assignment.Precedes) {first middle last next : Date}
    (le : first ≤ middle) (lt : middle < last) (after : ∀ d : Date, next ≤ d ↔ middle < d) :
    (shifts.filter fun shift => first ≤ shift.date ∧ shift.date ≤ last) =
      (shifts.filter fun shift => first ≤ shift.date ∧ shift.date ≤ middle) ++
        shifts.filter fun shift => next ≤ shift.date ∧ shift.date ≤ last := by
  rw [← filter_or_eq_append sorted]
  · refine List.filter_congr fun shift _ => ?_
    rw [Bool.eq_iff_iff]
    simp only [decide_eq_true_eq, Bool.or_eq_true, after, Date.le_iff, Date.lt_iff] at *
    omega
  · intro shift
    simp only [decide_eq_true_eq, decide_eq_false_iff_not, after, Date.le_iff, Date.lt_iff]
    omega
  · intro a b precedes
    have not_after : a.date ≤ b.date := by
      rcases precedes with lt | ⟨eq, -⟩
      · exact Int.le_of_lt lt
      · exact eq ▸ Int.le_refl _
    simp only [decide_eq_true_eq, decide_eq_false_iff_not, after, Date.le_iff, Date.lt_iff] at *
    omega

namespace Ledger

/-- The shifts of an employee in the order of lists. -/
def shiftsOf (ledger : Ledger) (employee : EmployeeId) : List Assignment :=
  (ledger.shifts.filter fun shift => shift.employee = employee).mergeSort Assignment.listLe

/-- The shifts of an employee are those of all shifts that the employee has. -/
theorem mem_shiftsOf {ledger : Ledger} {employee : EmployeeId} {shift : Assignment} :
    shift ∈ ledger.shiftsOf employee ↔ shift ∈ ledger.shifts ∧ shift.employee = employee := by
  simp [shiftsOf]

namespace Consistent

variable {ledger : Ledger} {store : Store} {employee : EmployeeId}

/-- The shifts of an employee are the rows of the employee, one by one, each read with its slot. -/
theorem exists_rows_shiftsOf (h : ledger.Consistent) (employee : EmployeeId) :
    ∃ rows, rows.Perm (ledger.assignments.filter fun row => row.employee = employee) ∧
      List.Forall₂ ledger.Shows rows (ledger.shiftsOf employee) := by
  have own : List.Forall₂ ledger.Shows
      (ledger.assignments.filter fun row => row.employee = employee)
      (ledger.shifts.filter fun shift => shift.employee = employee) := by
    refine List.rel_filter ?_ h.forall₂_shifts
    intro row shift shows
    simp only [decide_eq_true_eq, shows.employee]
  have sorted : (ledger.shifts.filter fun shift => shift.employee = employee).Perm
      (ledger.shiftsOf employee) := (List.mergeSort_perm _ _).symm
  have both : Relation.Comp (List.Forall₂ ledger.Shows) List.Perm
      (ledger.assignments.filter fun row => row.employee = employee)
      (ledger.shiftsOf employee) := ⟨_, own, sorted⟩
  rw [List.forall₂_comp_perm_eq_perm_comp_forall₂] at both
  obtain ⟨rows, perm, shows⟩ := both
  exact ⟨rows, perm.symm, shows⟩

/-- The shifts of an employee in plain years are in strictly ascending order. -/
theorem pairwise_shiftsOf (h : ledger.Consistent)
    (plain : ∀ shift ∈ ledger.shifts, shift.employee = employee → shift.date.IsPlain) :
    (ledger.shiftsOf employee).Pairwise Assignment.Precedes := by
  have nodup : (ledger.shiftsOf employee).Nodup :=
    (List.mergeSort_perm _ _).nodup_iff.mpr (h.nodup_shifts.of_map.filter _)
  have sorted := List.pairwise_mergeSort Assignment.listLe_trans Assignment.listLe_total
    (ledger.shifts.filter fun shift => shift.employee = employee)
  refine (nodup.and sorted).imp_of_mem ?_
  rintro a b ha hb ⟨ne, le⟩
  rw [mem_shiftsOf] at ha hb
  exact Assignment.precedes_of_listLe (plain a ha.1 ha.2) (plain b hb.1 hb.2) le fun ge =>
    ne (h.eq_of_listLe ha.1 hb.1 (ha.2.trans hb.2.symm) le ge)

/-- A range whose ends are in plain years takes what lies between them from the list of an employee
whose shifts are all in such years. -/
theorem listShifts_range_eq (h : store.ledger.Consistent)
    (registered : ∃ member ∈ store.ledger.staff, member.id = employee)
    (plain : ∀ shift ∈ store.ledger.shifts, shift.employee = employee → shift.date.IsPlain)
    {first last : Date} (hf : first.IsPlain) (hl : last.IsPlain) (le : first ≤ last) :
    store.listShifts employee (some (first, last)) =
      .ok ((store.ledger.shiftsOf employee).filter fun shift =>
        first ≤ shift.date ∧ shift.date ≤ last) := by
  have in_order : Store.checkRange (some (first, last)) = .ok () :=
    if_neg (Date.not_lt.mpr le)
  refine h.listShifts_eq_ok_iff.mpr ⟨in_order, registered, ?_⟩
  have by_date : (store.ledger.shifts.filter fun shift => shift.employee = employee ∧
      (some (first, last)).all fun ends => dateTextBetween ends.1 ends.2 shift.date.text) =
      (store.ledger.shifts.filter fun shift => shift.employee = employee).filter fun shift =>
        first ≤ shift.date ∧ shift.date ≤ last := by
    rw [List.filter_filter]
    refine List.filter_congr fun shift mem => ?_
    rw [Bool.eq_iff_iff]
    simp only [decide_eq_true_eq, Option.all_some, Bool.and_eq_true]
    rw [and_comm]
    refine and_congr_left fun own => ?_
    exact dateTextBetween_text_iff (plain shift mem own) (Date.isPlain_iff.mp hf).2 hl
  rw [by_date, shiftsOf]
  refine (mergeSort_filter Assignment.listLe_trans Assignment.listLe_total ?_ _).symm
  intro a ha b hb
  simp only [List.mem_filter, decide_eq_true_eq] at ha hb
  exact h.eq_of_listLe ha.1 hb.1 (ha.2.trans hb.2.symm)

/-- For such an employee, the list of a range is that of its days up to one of them, and then that
of the days after it. -/
theorem exists_listShifts_append (h : store.ledger.Consistent)
    (registered : ∃ member ∈ store.ledger.staff, member.id = employee)
    (plain : ∀ shift ∈ store.ledger.shifts, shift.employee = employee → shift.date.IsPlain)
    {first middle last : Date} (hf : first.IsPlain) (hl : last.IsPlain) (le : first ≤ middle)
    (lt : middle < last) :
    ∃ next earlier later, middle.next? = some next ∧
      store.listShifts employee (some (first, middle)) = .ok earlier ∧
      store.listShifts employee (some (next, last)) = .ok later ∧
      store.listShifts employee (some (first, last)) = .ok (earlier ++ later) := by
  obtain ⟨next, is_next, after⟩ := Date.exists_next lt
  have le_last : middle ≤ last := Int.le_of_lt lt
  have next_le : next ≤ last := (after last).mpr lt
  have lt_next : middle < next := (after next).mp (Int.le_refl _)
  have le_next : first ≤ next := Int.le_trans le (Int.le_of_lt lt_next)
  have hm : middle.IsPlain := hf.of_between hl le le_last
  have hn : next.IsPlain := hf.of_between hl le_next next_le
  refine ⟨next, _, _, is_next, h.listShifts_range_eq registered plain hf hm le,
    h.listShifts_range_eq registered plain hn hl next_le, ?_⟩
  rw [← filter_range_eq_append (h.pairwise_shiftsOf plain) le lt after]
  exact h.listShifts_range_eq registered plain hf hl (Int.le_trans le le_last)

end Consistent

end Ledger

namespace Session

/-- The scheduler answers with a list of shifts, and nothing changes. -/
def Lists (session : Session) (employee : EmployeeId) (range : Option (Date × Date))
    (shifts : List Assignment) : Prop :=
  session.step (.list employee range) = (.ok (.assignments shifts), session)

/-- The scheduler answers with the list that it finds in the store. -/
theorem lists_iff {session : Session} {employee : EmployeeId} {range : Option (Date × Date)}
    {shifts : List Assignment} :
    session.Lists employee range shifts ↔ session.store.listShifts employee range = .ok shifts := by
  simp only [Lists, step, Prod.mk.injEq, and_true]
  constructor
  · intro answered
    unfold ofRequest at answered
    split at answered
    case h_1 eq => cases answered; exact eq
    case h_2 => cases answered
    case h_3 => cases answered
  · intro eq
    rw [eq, ofRequest]

/-- In every session that is reached from an empty store without stored values being overwritten,
the list of a member of staff is made of the rows of that employee, each of them read with its slot
and none of them left out or shown twice. If it has shifts in plain years only, it is in strictly
ascending order of day and slot; a range whose ends are in plain years takes from it what lies
between them, both ends included; and the lists of two ranges that follow each other, one after the
other, are the list of both together. A range that ends before it starts is refused as wrong input,
whoever is asked about. -/
theorem run_list_is_exact {start : Session} {operations : List Operation}
    (empty : start.store.ledger = {})
    (intact : ∀ operation ∈ operations, operation.isIntact = true) :
    let session := (start.run operations).2
    (∀ member ∈ membersOf (start.roll [] operations), ∃ all,
      session.Lists member.id none all ∧
      (∃ rows, rows.Perm
          (session.store.ledger.assignments.filter fun row => row.employee = member.id) ∧
        List.Forall₂ session.store.ledger.Shows rows all) ∧
      ((∀ shift ∈ all, shift.date.IsPlain) →
        all.Pairwise Assignment.Precedes ∧
        (∀ first last : Date, first.IsPlain → last.IsPlain → first ≤ last →
          session.Lists member.id (some (first, last))
            (all.filter fun shift => first ≤ shift.date ∧ shift.date ≤ last)) ∧
        ∀ first middle last : Date, first.IsPlain → last.IsPlain → first ≤ middle →
          middle < last → ∃ next earlier later, middle.next? = some next ∧
            session.Lists member.id (some (first, middle)) earlier ∧
            session.Lists member.id (some (next, last)) later ∧
            session.Lists member.id (some (first, last)) (earlier ++ later))) ∧
    ∀ employee first last, last < first →
      session.step (.list employee (some (first, last))) =
        (.error (.request (.rangeReversed first last)), session) ∧
      (SchedulingError.rangeReversed first last).errorClass = .input := by
  intro session
  have consistent : session.store.ledger.Consistent := run_consistent_of_intact empty intact
  have enrolled : session.store.ledger.Enrolled (start.roll [] operations) :=
    run_enrolled (by rw [empty]; exact ⟨rfl, rfl⟩) intact
  constructor
  · intro member mem
    rw [← enrolled.staff] at mem
    have registered : ∃ other ∈ session.store.ledger.staff, other.id = member.id :=
      ⟨member, mem, rfl⟩
    have listed : session.store.listShifts member.id none =
        .ok (session.store.ledger.shiftsOf member.id) := by
      refine consistent.listShifts_eq_ok_iff.mpr ⟨rfl, registered, ?_⟩
      simp only [Option.all_none, and_true, Ledger.shiftsOf]
    refine ⟨_, lists_iff.mpr listed, consistent.exists_rows_shiftsOf member.id, ?_⟩
    intro all_plain
    have plain : ∀ shift ∈ session.store.ledger.shifts, shift.employee = member.id →
        shift.date.IsPlain :=
      fun shift held own => all_plain shift (Ledger.mem_shiftsOf.mpr ⟨held, own⟩)
    refine ⟨consistent.pairwise_shiftsOf plain, ?_, ?_⟩
    · intro first last hf hl le
      exact lists_iff.mpr (consistent.listShifts_range_eq registered plain hf hl le)
    · intro first middle last hf hl le lt
      simp only [lists_iff]
      exact consistent.exists_listShifts_append registered plain hf hl le lt
  · intro employee first last reversed
    have refused : session.store.listShifts employee (some (first, last)) =
        .error (.rangeReversed first last) := by
      simp only [Store.listShifts, Store.checkRange, if_pos reversed]
      rfl
    exact ⟨by simp only [step, refused, ofRequest], rfl⟩

/-- A medic books four slots in no particular order and gives one of them back. The other three are
listed in the order of the calendar, and a range is listed as its first day and then the other
days. -/
theorem run_list_is_exact_of_medic :
    let operations : List Operation := [.register "Ada" "medic", .assign ⟨1⟩ "2020-08-20" 1,
      .assign ⟨1⟩ "2020-08-01" 3, .assign ⟨1⟩ "2020-08-10" 1, .assign ⟨1⟩ "2020-08-01" 1,
      .remove ⟨1⟩ "2020-08-10" 1]
    let session := (sample.run operations).2
    let later_day : Date := ⟨738022, by decide, by decide⟩
    ((∀ operation ∈ operations, operation.isIntact = true) ∧
      ⟨⟨1⟩, "Ada", .medic⟩ ∈ membersOf (sample.roll [] operations) ∧
      (∀ shift ∈ session.store.ledger.shifts, shift.date.IsPlain) ∧
      sampleDay.IsPlain ∧ later_day.IsPlain ∧ sampleDay < later_day) ∧
    (∃ all, session.Lists ⟨1⟩ none all ∧ all.length = 3 ∧ all.Pairwise Assignment.Precedes ∧
      ∃ next earlier later, sampleDay.next? = some next ∧
        session.Lists ⟨1⟩ (some (sampleDay, sampleDay)) earlier ∧
        session.Lists ⟨1⟩ (some (next, later_day)) later ∧
        session.Lists ⟨1⟩ (some (sampleDay, later_day)) (earlier ++ later)) ∧
    session.step (.list ⟨7⟩ (some (later_day, sampleDay))) =
      (.error (.request (.rangeReversed later_day sampleDay)), session) := by
  intro operations session later_day
  have empty : sample.store.ledger = {} := rfl
  have intact : ∀ operation ∈ operations, operation.isIntact = true := by decide
  have registered : ⟨⟨1⟩, "Ada", .medic⟩ ∈ membersOf (sample.roll [] operations) := by
    decide +kernel
  have plain : ∀ shift ∈ session.store.ledger.shifts, shift.date.IsPlain := by decide +kernel
  have first_plain : sampleDay.IsPlain := by decide +kernel
  have last_plain : later_day.IsPlain := by decide +kernel
  have lt : sampleDay < later_day := by decide
  have three :
      (session.store.ledger.assignments.filter fun row => row.employee = ⟨1⟩).length = 3 := by
    decide +kernel
  obtain ⟨members, reversed⟩ := run_list_is_exact empty intact
  obtain ⟨all, listed, ⟨rows, perm, shows⟩, in_plain_years⟩ := members _ registered
  have all_plain : ∀ shift ∈ all, shift.date.IsPlain := by
    intro shift mem
    have held : shift ∈ session.store.ledger.shifts := by
      obtain ⟨-, -, -, own⟩ :=
        (run_consistent_of_intact empty intact).of_listShifts (lists_iff.mp listed)
      exact ((own shift).mp mem).1
    exact plain shift held
  obtain ⟨sorted, -, cut⟩ := in_plain_years all_plain
  refine ⟨⟨intact, registered, plain, first_plain, last_plain, lt⟩,
    ⟨all, listed, ?_, sorted, ?_⟩, (reversed ⟨7⟩ later_day sampleDay lt).1⟩
  · rw [← shows.length_eq, perm.length_eq, three]
  · exact cut sampleDay sampleDay later_day first_plain last_plain (Int.le_refl _) lt

end Session

end DutyRoster
