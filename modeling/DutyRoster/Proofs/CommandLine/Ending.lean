import DutyRoster.CommandLine.Run
import DutyRoster.Proofs.Session.WithinCalendar

/-!
# How a command ends

A request to assign is rejected by a rule of the roster (`SchedulingError.ByRule`) or refused for
another cause. Only the first is told apart from the other failures of commands
(`Desk.execute_eq_rejected_iff`); all of the others end in the same way (`Desk.Fails.ending`). No
command but the one that tells who is on call leaves the calendar, if the dates that it finds are of
short years (`Desk.execute_ends_within_calendar`).
-/

set_option autoImplicit false

namespace DutyRoster

section Rules

/-- The refusals by a rule of the roster: the day is in the past or beyond the horizon, the days on
duty in a row are too many, the employee holds the slot, or its places are taken. -/
inductive SchedulingError.ByRule : SchedulingError → Prop where
  | pastDate (date today : Date) : ByRule (.pastDate date today)
  | tooFarAhead (date limit : Date) : ByRule (.tooFarAhead date limit)
  | consecutiveLimit (run max : Nat) : ByRule (.consecutiveLimit run max)
  | alreadyAssigned (employee : EmployeeId) (date : Date) (slot : SlotNumber) :
      ByRule (.alreadyAssigned employee date slot)
  | capacityReached (role : Role) (date : Date) (slot : SlotNumber) (capacity : UInt32) :
      ByRule (.capacityReached role date slot capacity)

/-- The errors that are told apart as rejections are the refusals by a rule of the roster. -/
theorem SchedulingError.errorClass_eq_rejection_iff {e : SchedulingError} :
    e.errorClass = .rejection ↔ e.ByRule := by
  constructor
  · intro rejected
    cases e with
    | pastDate date today => exact .pastDate date today
    | tooFarAhead date limit => exact .tooFarAhead date limit
    | consecutiveLimit run max => exact .consecutiveLimit run max
    | alreadyAssigned employee date slot => exact .alreadyAssigned employee date slot
    | capacityReached role date slot capacity => exact .capacityReached role date slot capacity
    | _ => cases rejected
  · rintro ⟨⟩ <;> rfl

namespace Ending

variable {e cause : SchedulingError}

/-- A refusal that has nothing to do with the end of the calendar fails like any other. -/
theorem ofRefusal_eq_failed (within : ∀ date number, e ≠ .windowBeyondCalendar date number) :
    Ending.ofRefusal e = .failed e.causes := by
  cases e with
  | windowBeyondCalendar date number => exact absurd rfl (within date number)
  | _ => rfl

/-- A refusal that is reported like any failure is no rejection. -/
theorem ofRefusal_ne_rejected : Ending.ofRefusal e ≠ .rejected cause := by
  cases e <;> exact nofun

/-- A request to assign ends in a rejection exactly if a rule of the roster refuses it. -/
theorem ofAssignment_eq_rejected_iff :
    Ending.ofAssignment e = .rejected cause ↔ e = cause ∧ cause.ByRule := by
  unfold ofAssignment
  rw [← SchedulingError.errorClass_eq_rejection_iff]
  split
  · rename_i by_rule
    rw [Ending.rejected.injEq]
    exact ⟨fun eq => ⟨eq, eq ▸ by_rule⟩, And.left⟩
  · rename_i other
    exact ⟨fun eq => absurd eq ofRefusal_ne_rejected, fun ⟨eq, by_rule⟩ =>
      absurd (eq ▸ by_rule) other⟩

/-- A request to assign that is refused for another cause ends like any other refusal. -/
theorem ofAssignment_of_not_byRule (other : ¬ e.ByRule) :
    Ending.ofAssignment e = Ending.ofRefusal e :=
  if_neg fun rejected => other (SchedulingError.errorClass_eq_rejection_iff.mp rejected)

end Ending

end Rules

section Calendar

/-- The answer of the scheduler does not report the end of the calendar. -/
def StaysWithin {α : Type} (answer : Except SchedulingError α) : Prop :=
  ∀ date number, answer ≠ .error (.windowBeyondCalendar date number)

namespace StaysWithin

variable {α β : Type} {answer : Except SchedulingError α}

/-- A value reports nothing. -/
theorem ok (value : α) : StaysWithin (.ok value) :=
  fun _ _ => nofun

/-- An answer that is refused for the same cause does not report the end of the calendar either. -/
theorem of_error (within : StaysWithin answer) {cause : SchedulingError}
    (refused : answer = .error cause) : StaysWithin (.error cause : Except SchedulingError β) := by
  rintro date number eq
  rw [Except.error.injEq] at eq
  exact within date number (eq ▸ refused)

/-- Two steps do not report the end of the calendar if neither of them does. -/
theorem bind {next : α → Except SchedulingError β} (first : StaysWithin answer)
    (then_ : ∀ value, StaysWithin (next value)) : StaysWithin (answer >>= next) := by
  intro date number refused
  rcases error_of_bind refused with failed | ⟨value, -, failed⟩
  · exact first date number failed
  · exact then_ value date number failed

/-- A failure of the store is none of the calendar. -/
theorem asRefusal (answer : Except StoreError α) : StaysWithin (Store.asRefusal answer) := by
  cases answer <;> exact fun _ _ => nofun

/-- The text of a date that cannot be read is no end of the calendar. -/
theorem requestDate (text : String) : StaysWithin (requestDate text) := by
  unfold DutyRoster.requestDate
  split
  · cases Date.read false text.toList <;> exact fun _ _ => nofun
  · exact fun _ _ => nofun

/-- The number of a slot that cannot be read is no end of the calendar. -/
theorem requestSlot (number : Nat) : StaysWithin (requestSlot number) := by
  unfold DutyRoster.requestSlot
  split <;> exact fun _ _ => nofun

variable (store : Store) (options : Options) (today : Date) (employee : EmployeeId) (date : String)
  (slot : Nat)

/-- Looking for an employee does not come upon the end of the calendar. -/
theorem requestEmployee : StaysWithin (store.requestEmployee employee) := by
  refine (asRefusal _).bind fun found => ?_
  cases found <;> exact fun _ _ => nofun

/-- Checking a request to assign does not come upon the end of the calendar. -/
theorem vetRequest : StaysWithin (store.vetRequest options today employee date slot) := by
  refine (requestEmployee store employee).bind fun member => ?_
  refine (requestDate date).bind fun day => (requestSlot slot).bind fun number => ?_
  refine StaysWithin.bind ?_ fun _ => StaysWithin.bind ?_ fun onDuty => ?_
  · unfold checkBookingWindow
    dsimp only
    split_ifs <;> exact fun _ _ => nofun
  · exact (asRefusal _).bind fun _ => ok _
  · split <;> exact fun _ _ => nofun

/-- Neither does the receipt for one, whatever the store has answered. -/
theorem receipt (member : Employee) (day : Date) (number : SlotNumber) (capacity : UInt32)
    (outcome : Except StoreError CommitOutcome) :
    StaysWithin (Store.receipt member day number capacity outcome) := by
  rcases outcome with cause | outcome
  · exact fun _ _ => nofun
  · cases outcome <;> exact fun _ _ => nofun

/-- A request to assign does not come upon the end of the calendar. -/
theorem assign : StaysWithin (store.assign options today employee date slot).1 := by
  unfold Store.assign
  split
  · rename_i refused
    exact (vetRequest store options today employee date slot).of_error refused
  · exact receipt _ _ _ _ _

/-- Neither does the answer to a request to remove, whatever the store has answered. -/
theorem removalAnswer (answer : Except StoreError Unit) :
    StaysWithin (Store.removalAnswer answer) := by
  unfold Store.removalAnswer
  split <;> exact fun _ _ => nofun

/-- A request to remove does not come upon the end of the calendar. -/
theorem remove : StaysWithin (store.remove employee date slot).1 := by
  unfold Store.remove
  split
  · rename_i refused
    exact ((requestDate date).bind fun _ => (requestSlot slot).bind fun _ => ok _).of_error refused
  · exact removalAnswer _

/-- A grid that goes beyond the end of the calendar is refused for its days, and not for a window.
-/
theorem availability (days : Nat) : StaysWithin (store.availability options date days) := by
  refine StaysWithin.bind ?_ fun _ => (requestDate date).bind fun first =>
    StaysWithin.bind ?_ fun last => (asRefusal _).bind fun counts => ok _
  · unfold checkDayCount
    split_ifs <;> exact fun _ _ => nofun
  · unfold lastOfRange
    split <;> exact fun _ _ => nofun

end StaysWithin

/-- The windows of listed shifts can be told. -/
theorem Ledger.ShortYears.windows {store : Store} (short : store.ledger.ShortYears)
    {employee : EmployeeId} {range : Option (Date × Date)} {shifts : List Assignment}
    (listed : store.listShifts employee range = .ok shifts) :
    ∀ shift ∈ shifts, ∃ start stop, shift.number.window? shift.date = some (start, stop) := by
  obtain ⟨own, eq⟩ := Session.exists_listAssignments_of_listShifts listed
  exact fun shift mem => (short.of_listAssignments eq shift mem).exists_window shift.number

end Calendar

section Commands

/-- The ending has nothing to do with the rules of the roster. -/
inductive Ending.IsPlain : Ending → Prop where
  | success : IsPlain .success
  | failed (causes : List String) : IsPlain (.failed causes)
  | windowBeyondCalendar : IsPlain .windowBeyondCalendar

/-- A refusal has nothing to do with the rules of the roster if it is reported like any failure. -/
theorem Ending.isPlain_ofRefusal (e : SchedulingError) : (Ending.ofRefusal e).IsPlain := by
  cases e with
  | windowBeyondCalendar => exact .windowBeyondCalendar
  | _ => exact .failed _

namespace Desk

/-- The failures of a command: members of staff cannot be registered or listed, a staff file is not
in order, a request is refused for another cause than a rule of the roster, or a file that was asked
for cannot be written. -/
inductive Fails (desk : Desk) (workspace : Workspace) : Command → Prop where
  | addEmployee {name : String} {role : Role} {cause : StoreError}
      (refused : (desk.store.write (Ledger.registerEmployee name role)).1 = .error cause) :
      Fails desk workspace (.addEmployee name role)
  | staffFile {file : String} {cause : ImportError}
      (refused : loadStaff (workspace.readFile file) = .error cause) :
      Fails desk workspace (.importEmployees file)
  | importEmployees {file : String} {staff : List NewEmployee} {cause : StoreError}
      (loaded : loadStaff (workspace.readFile file) = .ok staff)
      (refused : (desk.store.registerAll staff).1 = .error cause) :
      Fails desk workspace (.importEmployees file)
  | employees {cause : StoreError} (refused : desk.ledger.listEmployees = .error cause) :
      Fails desk workspace .employees
  | assign {employee : EmployeeId} {date : String} {slot : Nat} {cause : SchedulingError}
      (refused : (desk.store.assign desk.options desk.now.date employee date slot).1 =
        .error cause) (other : ¬ cause.ByRule) : Fails desk workspace (.assign employee date slot)
  | remove {employee : EmployeeId} {date : String} {slot : Nat} {cause : SchedulingError}
      (refused : (desk.store.remove employee date slot).1 = .error cause) :
      Fails desk workspace (.remove employee date slot)
  | shifts {employee : EmployeeId} {range : Option (Date × Date)} {file : Option String}
      {cause : SchedulingError} (refused : desk.store.listShifts employee range = .error cause) :
      Fails desk workspace (.shifts employee range file)
  | shiftFile {employee : EmployeeId} {range : Option (Date × Date)} {file : String}
      {shifts : List Assignment} {text : List Char} {causes : List String}
      (listed : desk.store.listShifts employee range = .ok shifts)
      (prepared : desk.shiftText (some file) shifts = .ok text)
      (refused : workspace.writeFile file (Text.encode text) = .error causes) :
      Fails desk workspace (.shifts employee range (some file))
  | availability {start : String} {days : Nat} {file : Option String} {cause : SchedulingError}
      (refused : desk.store.availability desk.options start days = .error cause) :
      Fails desk workspace (.availability start days file)
  | availabilityFile {start file : String} {days : Nat} {grid : List DayAvailability}
      {causes : List String} (shown : desk.store.availability desk.options start days = .ok grid)
      (refused : workspace.writeFile file (Text.encode (availabilityFile grid)) =
        .error causes) : Fails desk workspace (.availability start days (some file))

variable {desk : Desk} {workspace : Workspace} {command : Command}

section Finish

variable {α ε : Type} {answer : Except ε α × Store} {ending : ε → Ending} {output : α → String}

/-- What is refused ends in the way that is told for its cause. -/
theorem finish_of_error {e : ε} (refused : answer.1 = .error e) :
    (desk.finish workspace answer ending output).1.ending = ending e := by
  obtain ⟨result, store⟩ := answer
  obtain rfl : result = .error e := refused
  rfl

/-- The end of a run that changed the database or tried to: it succeeded, or it was refused. -/
theorem finish_cases (desk : Desk) (workspace : Workspace) (answer : Except ε α × Store)
    (ending : ε → Ending) (output : α → String) :
    (∃ value, answer.1 = .ok value ∧
      (desk.finish workspace answer ending output).1.ending = .success) ∨
    ∃ e, answer.1 = .error e ∧
      (desk.finish workspace answer ending output).1.ending = ending e := by
  obtain ⟨result, store⟩ := answer
  cases result with
  | ok value => exact .inl ⟨value, rfl, rfl⟩
  | error e => exact .inr ⟨e, rfl, rfl⟩

end Finish

/-- All failures end in the same way. -/
theorem Fails.ending (fails : desk.Fails workspace command) :
    ∃ causes, (desk.execute workspace command).1.ending = .failed causes := by
  cases fails with
  | addEmployee refused => exact ⟨_, finish_of_error refused⟩
  | staffFile refused => exact ⟨_, by rw [execute, Desk.importEmployees, refused]⟩
  | @importEmployees _ _ cause loaded refused =>
    refine ⟨[cause.message], ?_⟩
    rw [execute, Desk.importEmployees, loaded]
    exact finish_of_error refused
  | employees refused => exact ⟨_, by rw [execute, refused]⟩
  | @assign employee date slot cause refused other =>
    have within := (StaysWithin.assign desk.store desk.options desk.now.date employee date slot)
    refine ⟨cause.causes, (finish_of_error refused).trans ?_⟩
    rw [Ending.ofAssignment_of_not_byRule other, Ending.ofRefusal_eq_failed]
    exact fun day number eq => within day number (eq ▸ refused)
  | @remove employee date slot cause refused =>
    have within := (StaysWithin.remove desk.store employee date slot)
    refine ⟨cause.causes, (finish_of_error refused).trans ?_⟩
    rw [Ending.ofRefusal_eq_failed]
    exact fun day number eq => within day number (eq ▸ refused)
  | @shifts employee range file cause refused =>
    have within := desk.store.listShifts_ne_windowBeyondCalendar employee range
    refine ⟨cause.causes, ?_⟩
    rw [execute, Desk.shifts, refused]
    exact Ending.ofRefusal_eq_failed fun day number eq => within day number (eq ▸ refused)
  | @shiftFile _ _ _ _ _ causes listed prepared refused =>
    refine ⟨causes, ?_⟩
    simp only [execute, Desk.shifts, listed, prepared, Workspace.writeIfAsked, refused]
  | @availability start days file cause refused =>
    have within := StaysWithin.availability desk.store desk.options start days
    refine ⟨cause.causes, ?_⟩
    rw [execute, Desk.availability, refused]
    exact Ending.ofRefusal_eq_failed fun day number eq => within day number (eq ▸ refused)
  | @availabilityFile _ _ _ _ causes shown refused =>
    refine ⟨causes, ?_⟩
    simp only [execute, Desk.availability, shown, Workspace.writeIfAsked, refused]

/-- What may change the database has nothing to do with the rules of the roster if none of the
endings for its causes has. -/
theorem isPlain_of_finish {α ε : Type} {answer : Except ε α × Store} {ending : ε → Ending}
    {output : α → String} (plain : ∀ e, (ending e).IsPlain) :
    (desk.finish workspace answer ending output).1.ending.IsPlain := by
  rcases desk.finish_cases workspace answer ending output with
    ⟨value, -, eq⟩ | ⟨e, -, eq⟩ <;> rw [eq]
  · exact .success
  · exact plain e

/-- Neither has the text of a shift file that cannot be written. -/
theorem isPlain_of_shiftText {file : Option String} {shifts : List Assignment} {ending : Ending}
    (refused : desk.shiftText file shifts = .error ending) : ending.IsPlain := by
  unfold shiftText at refused
  split at refused
  · cases refused
  · split at refused
    · cases refused
      exact .failed _
    · rename_i employees _
      cases written : shiftFile shifts employees with
      | ok text =>
        rw [written] at refused
        cases refused
      | error e =>
        rw [written] at refused
        cases refused
        exact Ending.isPlain_ofRefusal e

/-- Listing shifts has nothing to do with the rules of the roster. -/
theorem isPlain_shifts (desk : Desk) (workspace : Workspace) (employee : EmployeeId)
    (range : Option (Date × Date)) (file : Option String) :
    (desk.shifts workspace employee range file).1.ending.IsPlain := by
  unfold Desk.shifts
  split
  · exact Ending.isPlain_ofRefusal _
  · split
    · rename_i refused
      exact isPlain_of_shiftText refused
    · split
      · exact .failed _
      · split
        · exact Ending.isPlain_ofRefusal _
        · exact .success

/-- Showing a grid has nothing to do with the rules of the roster. -/
theorem isPlain_availability (desk : Desk) (workspace : Workspace) (start : String) (days : Nat)
    (file : Option String) : (desk.availability workspace start days file).1.ending.IsPlain := by
  unfold Desk.availability
  split
  · exact Ending.isPlain_ofRefusal _
  · split
    · exact .failed _
    · exact .success

/-- Telling who is on call has nothing to do with the rules of the roster. -/
theorem isPlain_onCall (desk : Desk) (instant : Option Instant) (buffer : Int) :
    (desk.onCall instant buffer).ending.IsPlain := by
  unfold Desk.onCall
  split
  · exact .failed _
  · split
    · exact Ending.isPlain_ofRefusal _
    · exact .success
    · exact .success

/-- A command other than a request to assign does not come upon the rules of the roster. -/
theorem isPlain_execute (desk : Desk) (workspace : Workspace)
    (other : ∀ employee date slot, command ≠ .assign employee date slot) :
    (desk.execute workspace command).1.ending.IsPlain := by
  cases command with
  | assign employee date slot => exact absurd rfl (other employee date slot)
  | addEmployee name role => exact isPlain_of_finish fun _ => .failed _
  | importEmployees file =>
    rw [execute, importEmployees]
    split
    · exact .failed _
    · exact isPlain_of_finish fun _ => .failed _
  | employees =>
    rw [execute]
    split
    · exact .failed _
    · exact .success
  | remove employee date slot => exact isPlain_of_finish Ending.isPlain_ofRefusal
  | shifts employee range file => exact isPlain_shifts ..
  | availability start days file => exact isPlain_availability ..
  | onCall instant buffer => exact isPlain_onCall ..

/-- Just the requests to assign that a rule of the roster refuses are rejected. -/
theorem execute_eq_rejected_iff {cause : SchedulingError} :
    (desk.execute workspace command).1.ending = .rejected cause ↔
      ∃ employee date slot, command = .assign employee date slot ∧
        (desk.store.assign desk.options desk.now.date employee date slot).1 = .error cause ∧
        cause.ByRule := by
  constructor
  · intro rejected
    by_cases request : ∃ employee date slot, command = .assign employee date slot
    · obtain ⟨employee, date, slot, rfl⟩ := request
      refine ⟨employee, date, slot, rfl, ?_⟩
      rcases desk.finish_cases workspace
          (desk.store.assign desk.options desk.now.date employee date slot) Ending.ofAssignment
          receiptLine with ⟨receipt, -, eq⟩ | ⟨e, refused, eq⟩
      · cases eq.symm.trans rejected
      · obtain ⟨rfl, by_rule⟩ := Ending.ofAssignment_eq_rejected_iff.mp (eq.symm.trans rejected)
        exact ⟨refused, by_rule⟩
    · have plain := desk.isPlain_execute workspace fun employee date slot eq =>
        request ⟨employee, date, slot, eq⟩
      rw [rejected] at plain
      cases plain
  · rintro ⟨employee, date, slot, rfl, refused, by_rule⟩
    exact (finish_of_error refused).trans (Ending.ofAssignment_eq_rejected_iff.mpr ⟨rfl, by_rule⟩)

/-- A request to assign succeeds, or is refused and ends accordingly. -/
theorem execute_assign_cases (desk : Desk) (workspace : Workspace) (employee : EmployeeId)
    (date : String) (slot : Nat) :
    (desk.execute workspace (.assign employee date slot)).1.ending = .success ∨
    (∃ cause, (desk.execute workspace (.assign employee date slot)).1.ending = .rejected cause) ∨
    ∃ causes, (desk.execute workspace (.assign employee date slot)).1.ending = .failed causes := by
  rcases desk.finish_cases workspace
      (desk.store.assign desk.options desk.now.date employee date slot) Ending.ofAssignment
      receiptLine with ⟨receipt, -, eq⟩ | ⟨cause, refused, eq⟩
  · exact .inl eq
  · by_cases by_rule : cause.ByRule
    · exact .inr (.inl ⟨cause, eq.trans (Ending.ofAssignment_eq_rejected_iff.mpr ⟨rfl, by_rule⟩)⟩)
    · exact .inr (.inr (Fails.assign refused by_rule).ending)

/-- If the dates that a command finds are of short years, only the command that tells who is on call
can leave the calendar. -/
theorem execute_ends_within_calendar (workspace : Workspace) (short : desk.ledger.ShortYears)
    (other : ∀ instant minutes, command ≠ .onCall instant minutes) :
    (desk.execute workspace command).1.ending ≠ .windowBeyondCalendar := by
  have finished {α ε : Type} {answer : Except ε α × Store} {ending : ε → Ending}
      {output : α → String}
      (within : ∀ e, answer.1 = .error e → ending e ≠ .windowBeyondCalendar) :
      (desk.finish workspace answer ending output).1.ending ≠ .windowBeyondCalendar := by
    rcases desk.finish_cases workspace answer ending output with
      ⟨value, -, eq⟩ | ⟨e, refused, eq⟩ <;> rw [eq]
    · exact nofun
    · exact within e refused
  cases command with
  | addEmployee name role => exact finished fun _ _ => nofun
  | importEmployees file =>
    rw [execute, importEmployees]
    split
    · exact nofun
    · exact finished fun _ _ => nofun
  | employees =>
    rw [execute]
    split <;> exact nofun
  | assign employee date slot =>
    rcases desk.execute_assign_cases workspace employee date slot with
      eq | ⟨cause, eq⟩ | ⟨causes, eq⟩ <;> rw [eq] <;> exact nofun
  | remove employee date slot =>
    refine finished fun e refused => Ending.ofRefusal_ne_windowBeyondCalendar ?_
    exact fun day number eq => StaysWithin.remove _ _ _ _ day number (eq ▸ refused)
  | shifts employee range file =>
    have short : desk.store.ledger.ShortYears := short
    exact desk.shifts_ne_windowBeyondCalendar workspace file fun shifts => short.windows
  | availability start days file =>
    rw [execute, Desk.availability]
    split
    · rename_i refused
      refine Ending.ofRefusal_ne_windowBeyondCalendar fun day number eq => ?_
      exact StaysWithin.availability _ _ _ _ day number (eq ▸ refused)
    · split <;> exact nofun
  | onCall instant minutes => exact absurd rfl (other instant minutes)

end Desk

end Commands

end DutyRoster
