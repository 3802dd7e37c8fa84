import DutyRoster.Scheduler.Assign
import DutyRoster.Proofs.Store.Listing
import DutyRoster.Proofs.Rules.ConsecutiveDuty

/-!
# What is checked before a slot is booked

`vetting` is the decision on a request to assign as it is meant: the first check that fails decides,
and the checks look at the staff, the request, the window of dates and the length of a run of days.
The scheduler decides in the same way, with the run that it finds among the days which it reads from
the store (`Ledger.Consistent.vetRequest_eq`).

It reads only the days around the candidate, and the store selects them by comparing texts. As long
as all dates are plain, these are the right days (`Ledger.Consistent.knowsAround`), so the run that
is found stands for the run among all days on duty.
-/

set_option autoImplicit false

namespace DutyRoster

/-- The decision on a request before it goes to the store, given the length of the run of days that
an employee would come to: the first of the checks that fails, or what the request stands for. -/
def vetting (staff : List Employee) (options : Options) (today : Date)
    (run : EmployeeId → Date → Nat) (employee : EmployeeId) (date : String) (slot : Nat) :
    Except SchedulingError (Employee × Date × SlotNumber) :=
  match staff.find? fun member => member.id = employee with
  | none => .error (.unknownEmployee employee)
  | some member =>
    match requestDate date with
    | .error cause => .error cause
    | .ok day =>
      match SlotNumber.ofNumber? slot with
      | none => .error (.invalidSlot slot)
      | some number =>
        let limit := bookingLimit today options.bookingHorizonMonths.toNat
        let max := options.maxConsecutiveDays.toNat
        if day < today then .error (.pastDate day today)
        else if limit < day then .error (.tooFarAhead day limit)
        else if max < run member.id day then .error (.consecutiveLimit (run member.id day) max)
        else .ok (member, day, number)

section Vetting

variable {staff : List Employee} {options : Options} {today : Date}
  {run run' : EmployeeId → Date → Nat} {employee : EmployeeId} {date : String} {slot : Nat}

/-- A request passes exactly if it passes every check. -/
theorem vetting_eq_ok_iff {member : Employee} {day : Date} {number : SlotNumber} :
    vetting staff options today run employee date slot = .ok (member, day, number) ↔
      (staff.find? fun member => member.id = employee) = some member ∧
      requestDate date = .ok day ∧ SlotNumber.ofNumber? slot = some number ∧ today ≤ day ∧
      day ≤ bookingLimit today options.bookingHorizonMonths.toNat ∧
      run member.id day ≤ options.maxConsecutiveDays.toNat := by
  unfold vetting
  cases staff.find? fun member => member.id = employee with
  | none => simp
  | some found =>
    cases requestDate date with
    | error cause => simp
    | ok read =>
      cases SlotNumber.ofNumber? slot with
      | none => simp
      | some slot =>
        simp only [Option.some.injEq, Except.ok.injEq]
        constructor
        · intro passed
          split_ifs at passed with past late long
          simp only [Except.ok.injEq, Prod.mk.injEq] at passed
          obtain ⟨rfl, rfl, rfl⟩ := passed
          exact ⟨rfl, rfl, rfl, Date.not_lt.mp past, Date.not_lt.mp late, Nat.not_lt.mp long⟩
        · rintro ⟨rfl, rfl, rfl, not_past, not_late, within⟩
          rw [if_neg (Date.not_lt.mpr not_past), if_neg (Date.not_lt.mpr not_late),
            if_neg (Nat.not_lt.mpr within)]

/-- Only the run of the employee matters, on days that can be booked. -/
theorem vetting_congr (agree : ∀ day, today ≤ day →
      day ≤ bookingLimit today options.bookingHorizonMonths.toNat →
      run employee day = run' employee day) :
    vetting staff options today run employee date slot =
      vetting staff options today run' employee date slot := by
  unfold vetting
  cases found : staff.find? fun member => member.id = employee with
  | none => rfl
  | some member =>
    have own := List.find?_some found
    rw [decide_eq_true_eq] at own
    subst own
    cases requestDate date with
    | error cause => rfl
    | ok day =>
      cases SlotNumber.ofNumber? slot with
      | none => rfl
      | some number =>
        dsimp only
        by_cases past : day < today
        · rw [if_pos past, if_pos past]
        · by_cases late : bookingLimit today options.bookingHorizonMonths.toNat < day
          · rw [if_neg past, if_neg past, if_pos late, if_pos late]
          · rw [agree day (Date.not_lt.mp past) (Date.not_lt.mp late)]

end Vetting

/-- Around a day in the years from 0 to 9999, the range that is asked for selects the plain dates up
to the radius. It may begin before these years, and even where the calendar begins. -/
theorem dateTextBetween_surroundings_iff {date d : Date} {radius : Nat} (hd : d.IsPlain)
    (low : daysBeforeYear 0 ≤ date.number) (high : date.number + radius < daysBeforeYear 10000) :
    dateTextBetween (surroundings date radius).1 (surroundings date radius).2 d.text = true ↔
      date.number - radius ≤ d.number ∧ d.number ≤ date.number + radius := by
  obtain ⟨first_le, le_last⟩ := (@surroundings_iff date date radius).mpr (by omega)
  rw [Date.le_iff] at first_le le_last
  have reach : (surroundings date radius).2.number ≤ date.number + radius := by
    refine ((@surroundings_iff date _ radius).mp ⟨?_, ?_⟩).2
    · rw [Date.le_iff]
      omega
    · rw [Date.le_iff]
  have plain_end : (surroundings date radius).2.IsPlain := Date.isPlain_iff.mpr (by omega)
  rw [dateTextBetween_text_iff hd (by omega) plain_end, surroundings_iff]

/-- All dates of a ledger have plain years, from 0 to 9999. -/
def Ledger.Plain (ledger : Ledger) : Prop :=
  ∀ shift ∈ ledger.shifts, shift.date.IsPlain

/-- The days on duty around a date that a store knows of; none if it cannot tell. -/
def Store.knownDays (store : Store) (employee : EmployeeId) (date : Date) (radius : Nat) :
    List Date :=
  (store.dutyDaysAround employee date radius).toOption.getD []

namespace Ledger.Consistent

variable {store : Store}

/-- An employee who makes a request is looked for among the staff. -/
theorem requestEmployee_eq (h : store.ledger.Consistent) (id : EmployeeId) :
    store.requestEmployee id =
      match store.ledger.staff.find? fun member => member.id = id with
      | some member => .ok member
      | none => .error (.unknownEmployee id) := by
  unfold Store.requestEmployee Store.asRefusal
  rw [h.findEmployee_eq]
  cases store.ledger.staff.find? fun member => member.id = id <;> rfl

/-- The days on duty that are asked for are those of the shifts in the range by their text. -/
theorem dutyDaysAround_eq (h : store.ledger.Consistent) (employee : EmployeeId) (date : Date)
    (radius : Nat) :
    store.dutyDaysAround employee date radius = .ok (store.knownDays employee date radius) ∧
    ∀ n, Covers (store.knownDays employee date radius) n ↔
      ∃ shift ∈ store.ledger.shifts, shift.employee = employee ∧
        dateTextBetween (surroundings date radius).1 (surroundings date radius).2 shift.date.text ∧
        shift.date.number = n := by
  obtain ⟨list, eq, perm⟩ := h.listAssignments_perm employee (some (surroundings date radius))
  simp only [Option.all_some] at perm
  have answer : store.dutyDaysAround employee date radius = .ok (list.map (·.date)) := by
    simp only [Store.dutyDaysAround, Store.asRefusal, eq, Except.mapError, bind, Except.bind]
  have known : store.knownDays employee date radius = list.map (·.date) := by
    rw [Store.knownDays, answer]
    rfl
  rw [known]
  refine ⟨answer, ?_⟩
  intro n
  simp only [Covers, List.mem_map]
  constructor
  · rintro ⟨day, ⟨shift, mem, rfl⟩, number⟩
    rw [perm.mem_iff, List.mem_filter, decide_eq_true_eq] at mem
    exact ⟨shift, mem.1, mem.2.1, mem.2.2, number⟩
  · rintro ⟨shift, mem, own, selected, number⟩
    refine ⟨shift.date, ⟨shift, ?_, rfl⟩, number⟩
    rw [perm.mem_iff, List.mem_filter, decide_eq_true_eq]
    exact ⟨mem, own, selected⟩

/-- The scheduler decides as it is meant to, with the run that it finds among the days it knows. -/
theorem vetRequest_eq (h : store.ledger.Consistent) (options : Options) (today : Date)
    (employee : EmployeeId) (date : String) (slot : Nat) :
    store.vetRequest options today employee date slot =
      vetting store.ledger.staff options today (fun id day => consecutiveRun
        (store.knownDays id day options.maxConsecutiveDays.toNat) day) employee date slot := by
  simp only [Store.vetRequest, vetting, h.requestEmployee_eq, bind, Except.bind]
  cases store.ledger.staff.find? fun member => member.id = employee with
  | none => rfl
  | some member =>
    dsimp only
    cases requestDate date with
    | error cause => rfl
    | ok day =>
      simp only [requestSlot]
      cases SlotNumber.ofNumber? slot with
      | none => rfl
      | some number =>
        dsimp only [checkBookingWindow]
        by_cases past : day < today
        · rw [if_pos past, if_pos past]
        · rw [if_neg past, if_neg past]
          by_cases late : bookingLimit today options.bookingHorizonMonths.toNat < day
          · rw [if_pos late, if_pos late]
          · rw [if_neg late, if_neg late]
            dsimp only
            rw [(h.dutyDaysAround_eq member.id day _).1]
            dsimp only [checkConsecutive]
            split_ifs <;> rfl

/-- The days around a date that a store knows of are the right ones if all dates are plain: no day
within the radius is missing and none is made up. -/
theorem knowsAround (h : store.ledger.Consistent) (plain : store.ledger.Plain) (id : EmployeeId)
    {date : Date} {radius : Nat} (low : daysBeforeYear 0 ≤ date.number)
    (high : date.number + radius < daysBeforeYear 10000) :
    KnowsAround (store.knownDays id date radius) (store.ledger.dutyDays id) date.number radius := by
  obtain ⟨-, known⟩ := h.dutyDaysAround_eq id date radius
  constructor
  · intro n covered
    obtain ⟨shift, mem, own, -, number⟩ := (known n).mp covered
    exact ⟨shift.date, mem_dutyDays.mpr ⟨shift, mem, own, rfl⟩, number⟩
  · rintro n near_low near_high ⟨day, on_duty, rfl⟩
    obtain ⟨shift, mem, own, rfl⟩ := mem_dutyDays.mp on_duty
    have selected := (dateTextBetween_surroundings_iff (plain shift mem) low high).mpr
      ⟨near_low, near_high⟩
    exact (known _).mpr ⟨shift, mem, own, selected, rfl⟩

end Ledger.Consistent

end DutyRoster
