import DutyRoster.CommandLine.Run
import DutyRoster.Proofs.Exchange.ShiftFile
import DutyRoster.Proofs.Scheduler.ShortYears
import DutyRoster.Proofs.Session.Origin
import DutyRoster.Proofs.Session.SlotIds

/-!
# Nothing leaves the calendar

Dates reach the store in the rows of slots. If these are written for requests to assign only, all of
them are of short years after any run (`Session.run_shortYears`), and so are the dates of the shifts
in every list, which are read from these rows. That is enough for the windows of these shifts, for
the files and lines that show them, and for telling who is on call during one of them
(`Session.run_stays_within_calendar`).

Of what is stored only dates matter. Other values may be overwritten on the way, and then a list may
fail to be read, but not for a time outside the calendar.
-/

set_option autoImplicit false

namespace DutyRoster

section Invariant

/-- All dates in the table of slots are of short years. -/
def Ledger.ShortYears (ledger : Ledger) : Prop :=
  ∀ row ∈ ledger.slots, ∃ date : Date, row.date = date.text ∧ date.HasShortYear

/-- The operation writes no date into the table of slots, unless it is a request to assign. -/
def Operation.datesByRequest : Operation → Bool
  | .slot .. => false
  | .commit .. => false
  | .overwrite _ (.slotDate _) => false
  | _ => true

/-- The date of a request that has passed the checks is what its text was read as. -/
theorem requestDate_of_vetRequest {store : Store} {options : Options} {today day : Date}
    {employee : EmployeeId} {text : String} {slot : Nat} {member : Employee} {number : SlotNumber}
    (passed : store.vetRequest options today employee text slot = .ok (member, day, number)) :
    requestDate text = .ok day := by
  obtain ⟨found, -, passed⟩ := exists_of_bind passed
  obtain ⟨read_day, read, passed⟩ := exists_of_bind passed
  obtain ⟨slot, -, passed⟩ := exists_of_bind passed
  obtain ⟨-, -, passed⟩ := exists_of_bind passed
  obtain ⟨onDuty, -, passed⟩ := exists_of_bind passed
  split at passed
  · cases passed
  · simp only [Except.ok.injEq, Prod.mk.injEq] at passed
    rw [read, passed.2.1]

/-- Overwriting anything but dates leaves the dates as they are. -/
theorem Ledger.ShortYears.overwrite {ledger : Ledger} (h : ledger.ShortYears) (id : Int)
    {value : StoredValue} (by_request : (Operation.overwrite id value).datesByRequest = true) :
    (ledger.overwrite id value).2.ShortYears := by
  cases value with
  | employeeRole text => exact h
  | assignmentRole text => exact h
  | slotDate text => simp [Operation.datesByRequest] at by_request
  | slotNumber cell =>
    simp only [Ledger.overwrite, Ledger.overwriteSlot]
    split
    · exact h
    · intro row mem
      obtain ⟨old, on_table, rfl⟩ := List.mem_map.mp mem
      obtain ⟨date, written, short⟩ := h old on_table
      refine ⟨date, ?_, short⟩
      split <;> exact written

namespace Session

variable {session : Session} {operation : Operation}

/-- The slots that such operations ask for are on dates of short years. -/
theorem hasShortYear_of_slotRequest? {date : Date} {number : SlotNumber}
    (asked : session.slotRequest? operation = some (date, number))
    (by_request : operation.datesByRequest = true) : date.HasShortYear := by
  cases operation with
  | slot => simp [Operation.datesByRequest] at by_request
  | commit => simp [Operation.datesByRequest] at by_request
  | assign employee text slot =>
    obtain ⟨request, booking, named⟩ := Option.map_eq_some_iff.mp asked
    obtain ⟨employee, text, slot, member, day, number, -, passed, rfl⟩ :=
      bookingRequest?_of_isVetted booking rfl
    rw [Prod.mk.injEq] at named
    rw [← named.1]
    exact requestDate_hasShortYear (requestDate_of_vetRequest passed)
  | _ => simp [slotRequest?, bookingRequest?] at asked

/-- Such an operation leaves all dates in the table of slots in short years. -/
theorem step_shortYears (h : session.store.ledger.ShortYears)
    (by_request : operation.datesByRequest = true) :
    (session.step operation).2.store.ledger.ShortYears := by
  have effect := session.step_effect operation
  by_cases intact : operation.isIntact = true
  · intro row mem
    rcases effect.slot_origin intact row mem with old | ⟨date, number, asked, names⟩
    · exact h row old
    · exact ⟨date, names.1, hasShortYear_of_slotRequest? asked by_request⟩
  · cases operation with
    | overwrite id value => exact h.overwrite id by_request
    | _ => exact absurd rfl intact

/-- All along a run in which only requests to assign write dates into the table of slots, these are
of short years. -/
theorem run_shortYears {start : Session} {operations : List Operation}
    (empty : start.store.ledger = {})
    (by_request : ∀ operation ∈ operations, operation.datesByRequest = true) :
    (start.run operations).2.store.ledger.ShortYears := by
  refine run_invariant (fun session => session.store.ledger.ShortYears) ?_ ?_
    (start.throughout_of_forall by_request)
  · exact fun session operation h by_request => step_shortYears h by_request
  · rw [empty]
    exact nofun

end Session

end Invariant

section Lists

variable {ledger : Ledger} {employee : EmployeeId} {range : Option (Date × Date)}
  {shifts : List Assignment}

/-- The date of an assignment is what the text in the row of its slot is read as. -/
theorem dateAt_of_readAssignment {row : AssignmentRow} {slot : SlotRow} {shift : Assignment}
    (read : readAssignment (row, slot) = .ok shift) : dateAt 3 slot.date = .ok shift.date := by
  obtain ⟨date, told, read⟩ := exists_of_bind read
  obtain ⟨number, -, read⟩ := exists_of_bind read
  obtain ⟨role, -, read⟩ := exists_of_bind read
  rw [Except.ok.injEq] at read
  rw [told, ← read]

/-- Listed shifts are on dates of the table of slots. -/
theorem Ledger.ShortYears.of_listAssignments (h : ledger.ShortYears)
    (listed : ledger.listAssignments employee range = .ok shifts) :
    ∀ shift ∈ shifts, shift.date.HasShortYear := by
  intro shift mem
  obtain ⟨⟨row, slot⟩, on_list, read⟩ := exists_of_mapM_eq_ok listed shift mem
  rw [List.mem_mergeSort] at on_list
  have joined : (row, slot) ∈ ledger.bookings := List.mem_of_mem_filter on_list
  obtain ⟨date, written, short⟩ := h slot (mem_bookings.mp joined).2.1
  have told := dateAt_of_readAssignment read
  rw [written, dateAt, Date.read_text, Except.mapError, Except.ok.injEq] at told
  rwa [← told]

end Lists

section Answers

variable {shifts : List Assignment} {employee : EmployeeId} {range : Option (Date × Date)}

/-- The lines of shifts can be written if their windows can be told. -/
theorem exists_shiftLines (windows : ∀ shift ∈ shifts, ∃ start stop,
    shift.number.window? shift.date = some (start, stop)) :
    ∃ lines, shifts.mapM shiftLine = .ok lines := by
  refine ⟨_, mapM_eq_ok_filterMap fun shift mem => ?_⟩
  obtain ⟨start, stop, window⟩ := windows shift mem
  exact ⟨_, by rw [shiftLine, window]⟩

/-- A range is refused only because it ends before it starts. -/
theorem Store.checkRange_error {cause : SchedulingError}
    (refused : Store.checkRange range = .error cause) :
    ∃ first last, cause = .rangeReversed first last := by
  unfold checkRange at refused
  split at refused
  · cases refused
  · split at refused
    · exact ⟨_, _, (Except.error.inj refused).symm⟩
    · cases refused

/-- A list is never refused for the window of a shift. -/
theorem Store.listShifts_ne_windowBeyondCalendar (store : Store) (employee : EmployeeId)
    (range : Option (Date × Date)) (date : Date) (number : SlotNumber) :
    store.listShifts employee range ≠ .error (.windowBeyondCalendar date number) := by
  intro refused
  rcases error_of_bind refused with checked | ⟨⟨⟩, -, refused⟩
  · obtain ⟨first, last, eq⟩ := checkRange_error checked
    cases eq
  rcases error_of_bind refused with unknown | ⟨member, -, refused⟩
  · rcases error_of_bind unknown with failed | ⟨found, -, missing⟩
    · obtain ⟨fault, eq⟩ := eq_storage_of_asRefusal failed
      cases eq
    · cases found <;> cases missing
  · obtain ⟨fault, eq⟩ := eq_storage_of_asRefusal refused
    cases eq

/-- What is refused for another cause than a window beyond the calendar does not end in that way. -/
theorem Ending.ofRefusal_ne_windowBeyondCalendar {cause : SchedulingError}
    (other : ∀ date number, cause ≠ .windowBeyondCalendar date number) :
    Ending.ofRefusal cause ≠ .windowBeyondCalendar := by
  cases cause with
  | windowBeyondCalendar date number => exact absurd rfl (other date number)
  | _ => exact nofun

/-- Exporting a list whose windows can be told does not leave the calendar. -/
theorem Session.exportShifts_ne_windowBeyondCalendar {session : Session}
    (windows : ∀ shifts, session.store.listShifts employee range = .ok shifts →
      ∀ shift ∈ shifts, ∃ start stop, shift.number.window? shift.date = some (start, stop)) :
    session.exportShifts employee range ≠ .error .windowBeyondCalendar := by
  unfold exportShifts
  cases listed : session.store.listShifts employee range with
  | error cause => exact nofun
  | ok shifts =>
    cases session.store.ledger.listEmployees with
    | error cause => exact nofun
    | ok employees =>
      obtain ⟨text, written⟩ := exists_shiftFile employees (windows shifts listed)
      simp only [written, ofRequest]
      exact nofun

/-- Showing a list whose windows can be told does not leave the calendar, with a file or without
one. -/
theorem Desk.shifts_ne_windowBeyondCalendar {desk : Desk} (workspace : Workspace)
    (file : Option String)
    (windows : ∀ shifts, desk.store.listShifts employee range = .ok shifts →
      ∀ shift ∈ shifts, ∃ start stop, shift.number.window? shift.date = some (start, stop)) :
    (desk.shifts workspace employee range file).1.ending ≠ .windowBeyondCalendar := by
  unfold Desk.shifts
  cases listed : desk.store.listShifts employee range with
  | error cause =>
    refine Ending.ofRefusal_ne_windowBeyondCalendar fun date number eq => ?_
    rw [eq] at listed
    exact desk.store.listShifts_ne_windowBeyondCalendar employee range date number listed
  | ok shifts =>
    obtain ⟨lines, told⟩ := exists_shiftLines (windows shifts listed)
    have file_text : ∀ ending, desk.shiftText file shifts = .error ending →
        ending ≠ .windowBeyondCalendar := by
      intro ending refused
      unfold Desk.shiftText at refused
      cases file with
      | none => cases refused
      | some name =>
        cases employees : desk.ledger.listEmployees with
        | error cause =>
          simp only [employees, Except.error.injEq] at refused
          rw [← refused]
          exact nofun
        | ok employees' =>
          obtain ⟨text, written⟩ := exists_shiftFile employees' (windows shifts listed)
          simp [employees, written, Except.mapError] at refused
    dsimp only
    cases prepared : desk.shiftText file shifts with
    | error ending => exact file_text ending prepared
    | ok text =>
      dsimp only
      cases workspace.writeIfAsked file text with
      | error causes => simp
      | ok workspace => simp [told]

end Answers

namespace Session

/-- A date that is read from a request has a year of five digits at most, and so no grid that is
asked for leaves the calendar. In every session that is reached from an empty store with slots
written for requests to assign only, under whatever limits, it is so for all dates of the table of
slots and of every list: each of their slots has a window, at every instant of which it can be told
who is on call; the file of a list can be written, and its lines too. Neither an export nor the
command that shows the shifts of an employee ever fails for a time outside the calendar. -/
theorem run_stays_within_calendar {start : Session} {operations : List Operation}
    (empty : start.store.ledger = {})
    (by_request : ∀ operation ∈ operations, operation.datesByRequest = true) :
    let session := (start.run operations).2
    (∀ text day, requestDate text = .ok day → day.HasShortYear ∧
      ∀ days, checkDayCount days = .ok () → ∃ last, lastOfRange day days = .ok last) ∧
    (∀ options text days first,
      session.store.availability options text days ≠ .error (.rangeBeyondCalendar first)) ∧
    (∀ row ∈ session.store.ledger.slots, ∀ date number, row.Names date number →
      date.HasShortYear ∧ session.store.AnswersDuring date number) ∧
    (∀ employee range shifts, session.store.listShifts employee range = .ok shifts →
      (∀ shift ∈ shifts, shift.date.HasShortYear ∧
        session.store.AnswersDuring shift.date shift.number) ∧
      (∀ employees, ∃ text, shiftFile shifts employees = .ok text) ∧
      ∃ lines, shifts.mapM shiftLine = .ok lines) ∧
    (∀ employee range,
      (session.step (.exportShifts employee range)).1 ≠ .error .windowBeyondCalendar) ∧
    ∀ (desk : Desk) workspace employee range file, desk.ledger = session.store.ledger →
      (desk.shifts workspace employee range file).1.ending ≠ .windowBeyondCalendar := by
  intro session
  have short : session.store.ledger.ShortYears := run_shortYears empty by_request
  have listed_short {store : Store} (same : store.ledger = session.store.ledger)
      {employee : EmployeeId} {range : Option (Date × Date)} {shifts : List Assignment}
      (listed : store.listShifts employee range = .ok shifts) :
      ∀ shift ∈ shifts, shift.date.HasShortYear := by
    obtain ⟨own, eq⟩ := exists_listAssignments_of_listShifts listed
    rw [same] at eq
    exact short.of_listAssignments eq
  have windows (store : Store) (same : store.ledger = session.store.ledger)
      {employee : EmployeeId} {range : Option (Date × Date)} (shifts : List Assignment)
      (listed : store.listShifts employee range = .ok shifts) :
      ∀ shift ∈ shifts, ∃ start stop, shift.number.window? shift.date = some (start, stop) :=
    fun shift mem => (listed_short same listed shift mem).exists_window shift.number
  refine ⟨?_, fun options text days first => ?_, ?_, ?_, ?_, ?_⟩
  · intro text day read
    exact ⟨requestDate_hasShortYear read, fun days counted => exists_lastOfRange read counted⟩
  · exact session.store.availability_ne_rangeBeyondCalendar options text days first
  · intro row mem date number names
    obtain ⟨date', written, year⟩ := short row mem
    rw [names.1] at written
    rw [Date.text_injective written]
    exact ⟨year, year.answersDuring session.store number⟩
  · intro employee range shifts listed
    refine ⟨fun shift mem => ?_, fun employees => ?_, ?_⟩
    · have year := listed_short rfl listed shift mem
      exact ⟨year, year.answersDuring session.store shift.number⟩
    · exact exists_shiftFile employees (windows session.store rfl shifts listed)
    · exact exists_shiftLines (windows session.store rfl shifts listed)
  · intro employee range
    exact exportShifts_ne_windowBeyondCalendar (windows session.store rfl)
  · intro desk workspace employee range file same
    exact desk.shifts_ne_windowBeyondCalendar workspace file (windows desk.store same)

/-- Under the widest horizon there is, a medic books the night of the first day of year 99999. The
shift is listed, its window can be told, and it can be exported. -/
theorem run_stays_within_calendar_of_last_short_year :
    let start : Session := { sample with options := { bookingHorizonMonths := 4294967295 } }
    let operations : List Operation := [.register "Ada" "medic", .assign ⟨1⟩ "+99999-1-1" 3]
    let session := (start.run operations).2
    let day : Date := ⟨36523885, by decide, by decide⟩
    let shift : Assignment := ⟨⟨1⟩, ⟨1⟩, ⟨1⟩, day, .night, .medic⟩
    (∀ operation ∈ operations, operation.datesByRequest = true) ∧
      requestDate "+99999-1-1" = .ok day ∧ day.civil.year = 99999 ∧
      session.store.listShifts ⟨1⟩ none = .ok [shift] ∧
    day.HasShortYear ∧ session.store.AnswersDuring day .night ∧
      (∃ lines, [shift].mapM shiftLine = .ok lines) ∧
      (session.step (.exportShifts ⟨1⟩ none)).1 ≠ .error .windowBeyondCalendar := by
  intro start operations session day shift
  have empty : start.store.ledger = {} := rfl
  have by_request : ∀ operation ∈ operations, operation.datesByRequest = true := by decide
  have read : requestDate "+99999-1-1" = .ok day := by decide +kernel
  have year : day.civil.year = 99999 := by decide +kernel
  have listed : session.store.listShifts ⟨1⟩ none = .ok [shift] := by decide +kernel
  obtain ⟨dates, -, -, lists, exports, -⟩ := run_stays_within_calendar empty by_request
  obtain ⟨told, -, lines⟩ := lists ⟨1⟩ none [shift] listed
  exact ⟨by_request, read, year, listed, (dates _ day read).1,
    (told shift List.mem_cons_self).2, lines, exports ⟨1⟩ none⟩

end Session

end DutyRoster
