import DutyRoster.CommandLine.Run
import DutyRoster.Proofs.Exchange.StaffFile
import DutyRoster.Proofs.Session.Removal
import DutyRoster.Proofs.Session.WithinCalendar
import DutyRoster.Proofs.Workspace.Connect

/-!
# What a command does to the database

A command that is granted makes one change of the ledger, which is its `Command.Effect`, and a
request that is refused makes none. If the command works on a database in a file
(`Desk.WorksOn`), that change is kept there; in all other cases the files of the database hold
afterwards what they held before (`Desk.WorksOn.leaves_execute`).
-/

set_option autoImplicit false

namespace DutyRoster

/-- The files that a command writes, by name. -/
def Command.exports : Command → List String
  | .shifts _ _ file => file.toList
  | .availability _ _ file => file.toList
  | _ => []

/-- The file of a database and those beside it that go with it. -/
def FilePath.databaseFiles (path : FilePath) : List FilePath :=
  [path, path.log, path.index, path.journal, path.lockFile]

/-- What a command does to the ledger of a database in a file when it succeeds: one member of staff
is added, or one for each record of the file after its heading, with the next identifiers in turn;
one assignment is added, and at most one slot for it; one assignment is taken away; or nothing
changes. -/
def Command.Effect (workspace : Workspace) (before after : Ledger) : Command → Prop
  | .addEmployee name role => after = before.withStaff (before.newRows [⟨name, role⟩])
  | .importEmployees file => ∃ octets staff, workspace.readFile file = .ok octets ∧
      readStaffFile octets = .ok staff ∧ staff.length = (fileRecords octets).tail.length ∧
      after = before.withStaff (before.newRows staff)
  | .assign employee _ _ => ∃ row slots, row.employee = employee ∧ slots.length ≤ 1 ∧
      after = { before with
        slots := before.slots ++ slots
        slotsIssued := before.slotsIssued + 1
        assignments := before.assignments ++ [row]
        assignmentsIssued := before.assignmentsIssued + 1 }
  | .remove employee _ _ => ∃ earlier row later, row.employee = employee ∧
      before.assignments = earlier ++ row :: later ∧
      after = { before with assignments := earlier ++ later }
  | _ => after = before

section Exports

variable {workspace after : Workspace} {home path : FilePath} {ledger : Ledger}

/-- Writing a file that is none of a database leaves these as they are. -/
theorem Workspace.alike_of_writeFile {name : String} {octets : List UInt8}
    (outside : (FileName.ofText name).path workspace.home ∉ path.databaseFiles)
    (written : workspace.writeFile name octets = .ok after) : Alike path workspace after := by
  unfold writeFile at written
  dsimp only at written
  split at written
  · cases written
  · split at written
    · cases written
    · rename_i target found
      cases written
      rw [← path_of_target found] at outside
      simp only [FilePath.databaseFiles, List.mem_cons, not_or] at outside
      exact Alike.put (Ne.symm outside.1) (Ne.symm outside.2.1) (Ne.symm outside.2.2.2.1)

/-- A database holds what it held before when a file that is none of its own is written, if one is
asked for. -/
theorem Workspace.Keeps.writeIfAsked (keeps : workspace.Keeps home path ledger)
    {file : Option String} {text : List Char}
    (outside : ∀ name ∈ file, (FileName.ofText name).path home ∉ path.databaseFiles)
    (written : workspace.writeIfAsked file text = .ok after) : after.Keeps home path ledger := by
  cases file with
  | none =>
    cases written
    exact keeps
  | some name =>
    have outside := outside name rfl
    rw [← keeps.home_eq] at outside
    exact (alike_of_writeFile outside written).keeps keeps

end Exports

section Changes

/-- A ledger that only the program has written: its rows go together, and its dates are of short
years. -/
structure Ledger.Orderly (ledger : Ledger) : Prop where
  consistent : ledger.Consistent
  short_years : ledger.ShortYears

namespace Ledger

variable {ledger : Ledger}

/-- An empty ledger is one that only the program has written. -/
theorem Orderly.empty : Orderly {} :=
  ⟨.empty, nofun⟩

/-- Members of staff who are registered leave the ledger such as the program writes it. -/
theorem Orderly.enrol (orderly : ledger.Orderly) (staff : List NewEmployee) :
    (ledger.enrol staff).Orderly where
  consistent :=
    enrol_induction (fun _ name role h => h.registerEmployee name role) orderly.consistent staff
  short_years := by
    unfold ShortYears
    rw [slots_enrol]
    exact orderly.short_years

/-- So does every operation with checks, if its dates are read from requests. -/
theorem Orderly.step (session : Session) (orderly : session.store.ledger.Orderly)
    (operation : Operation) (intact : operation.isIntact = true)
    (by_request : operation.datesByRequest = true) :
    (session.step operation).2.store.ledger.Orderly :=
  ⟨(session.step_effect operation).consistent intact orderly.consistent,
    Session.step_shortYears orderly.short_years by_request⟩

/-- Ensuring a slot adds at most one row. -/
theorem exists_ensureSlot (ledger : Ledger) (date : Date) (number : SlotNumber) :
    ∃ slots, slots.length ≤ 1 ∧ (ledger.ensureSlot date number).2 = { ledger with
      slots := ledger.slots ++ slots
      slotsIssued := ledger.slotsIssued + 1 } := by
  rcases ledger.ensureSlot_cases date number with ⟨found, -, -, eq⟩ | ⟨-, eq⟩ <;> rw [eq]
  · exact ⟨[], Nat.zero_le 1, by rw [List.append_nil]⟩
  · exact ⟨[⟨⟨(ledger.slotsIssued + 1 : Nat)⟩, date.text, .integer number.number⟩],
      Nat.le_refl 1, rfl⟩

/-- A booking adds one assignment, and at most one slot for it. -/
theorem exists_withBooking (ledger : Ledger) (employee : EmployeeId) (date : Date)
    (number : SlotNumber) (role : Role) : ∃ row slots, row.employee = employee ∧
      slots.length ≤ 1 ∧ ledger.withBooking employee date number role = { ledger with
        slots := ledger.slots ++ slots
        slotsIssued := ledger.slotsIssued + 1
        assignments := ledger.assignments ++ [row]
        assignmentsIssued := ledger.assignmentsIssued + 1 } := by
  obtain ⟨slots, few, eq⟩ := ledger.exists_ensureSlot date number
  let row : AssignmentRow := ⟨⟨(ledger.assignmentsIssued + 1 : Nat)⟩, employee,
    (ledger.ensureSlot date number).1.id, role.name⟩
  refine ⟨row, slots, rfl, few, ?_⟩
  rw [withBooking, eq]
  rfl

end Ledger

namespace Store

variable {store : Store} {options : Options} {now : Instant} {employee : EmployeeId} {date : String}
  {slot : Nat}

/-- A request to assign is granted only while the lock is free. -/
theorem lock_of_assign_eq_ok {today : Date} {receipt : Receipt}
    (granted : (store.assign options today employee date slot).1 = .ok receipt) :
    store.lock = .free := by
  unfold assign at granted
  split at granted
  · cases granted
  · rename_i member day number _
    dsimp only at granted
    cases written : (store.write (Ledger.commitAssignment member.id day number member.role
      (options.capacity.capacity member.role))).1 with
    | ok outcome => exact lock_of_write written
    | error cause =>
      rw [written] at granted
      cases granted

/-- What has changed if a request to assign is granted. -/
theorem of_assign_eq_ok (orderly : store.ledger.Orderly) {receipt : Receipt}
    (granted : (store.assign options now.date employee date slot).1 = .ok receipt) :
    (store.assign options now.date employee date slot).2.ledger.Orderly ∧
      ∃ day number role, (store.assign options now.date employee date slot).2.ledger =
        store.ledger.withBooking employee day number role := by
  let session : Session := { store, now, options }
  have step : (session.step (.assign employee date slot)).1 = .ok (.receipt receipt) := by
    change Session.ofRequest .receipt (store.assign options now.date employee date slot).1 = _
    rw [granted]
    rfl
  have after_orderly := Ledger.Orderly.step session orderly (.assign employee date slot) rfl rfl
  obtain ⟨-, member, -, day, number, -, -, -, -, -, after⟩ :=
    Session.of_step_assign orderly.consistent step
  exact ⟨after_orderly, day, number, member.role, congrArg (·.store.ledger) after⟩

/-- A request to remove is granted only while the lock is free. -/
theorem lock_of_remove_eq_ok (granted : (store.remove employee date slot).1 = .ok ()) :
    store.lock = .free := by
  unfold remove at granted
  split at granted
  · cases granted
  · rename_i day number _
    cases written : (store.write (Ledger.removeAssignment employee day number)).1 with
    | ok done => exact lock_of_write written
    | error cause =>
      dsimp only at granted
      rw [written] at granted
      cases cause <;> cases granted

/-- What has changed if a request to remove is granted. -/
theorem of_remove_eq_ok (orderly : store.ledger.Orderly)
    (granted : (store.remove employee date slot).1 = .ok ()) :
    (store.remove employee date slot).2.ledger.Orderly ∧
      ∃ day number, store.ledger.Holds employee day number ∧
        (store.remove employee date slot).2.ledger =
          store.ledger.withoutBooking employee day number := by
  let session : Session := { Session.sample with store }
  have step : (session.step (.remove employee date slot)).1 = .ok .done := by
    change Session.ofRequest (fun () => .done) (store.remove employee date slot).1 = _
    rw [granted]
    rfl
  have after_orderly := Ledger.Orderly.step session orderly (.remove employee date slot) rfl rfl
  obtain ⟨day, number, -, -, holds, after⟩ := Session.of_step_remove orderly.consistent step
  exact ⟨after_orderly, day, number, holds,
    congrArg (·.store.ledger) after⟩

end Store

end Changes

section Desks

namespace Desk

/-- What a command works with, seen from a database in a file: either that database, which has been
made ready for use, or another one that has no file and is empty. -/
inductive WorksOn (desk : Desk) (workspace : Workspace) (home path : FilePath) (ledger : Ledger) :
    Prop where
  | transient (no_file : desk.connection.path = none) (empty : desk.ledger = {})
      (keeps : workspace.Keeps home path ledger)
  | stored (found : desk.connection.path = some path) (nonempty : path ≠ [])
      (has_file : desk.connection.database.isTransient = false)
      (prepared : Preparation.Prepared home path ledger desk.connection.database desk.ledger
        (desk.use, workspace))

variable {desk : Desk} {workspace : Workspace} {home path : FilePath} {ledger : Ledger}

/-- The lock is free for a command exactly if the database can be changed. -/
theorem store_lock_eq_free_iff : desk.store.lock = .free ↔ desk.use.changeable = true := by
  unfold store
  cases desk.use.changeable <;> simp

namespace WorksOn

/-- While a command works, the database in the file holds what it held before. -/
theorem keeps (works_on : desk.WorksOn workspace home path ledger) :
    workspace.Keeps home path ledger := by
  cases works_on with
  | transient _ _ keeps => exact keeps
  | stored _ _ _ prepared => exact prepared.keeps

/-- The dates that the command finds are of short years if those of the database are. -/
theorem short_years (works_on : desk.WorksOn workspace home path ledger)
    (orderly : ledger.Orderly) : desk.ledger.ShortYears := by
  cases works_on with
  | transient _ empty => exact empty ▸ Ledger.Orderly.empty.short_years
  | stored _ _ _ prepared => exact fun row mem => orderly.short_years row (prepared.older mem)

/-- A database in a file that can be changed is seen as it is, and its changes find their place. -/
theorem of_changeable (works_on : desk.WorksOn workspace home path ledger)
    (changeable : desk.use.changeable = true) (in_file : desk.connection.path ≠ none) :
    desk.ledger = ledger ∧ Preparation.Records path (desk.use, workspace) := by
  cases works_on with
  | transient no_file => exact absurd no_file in_file
  | stored _ _ has_file prepared =>
    have able := prepared.changeable_eq.symm.trans changeable
    rw [Bool.and_eq_true, Bool.not_eq_true', Bool.and_eq_false_iff] at able
    have unfrozen : desk.connection.database.frozen = false := by
      by_contra frozen
      have read_only := DatabaseName.isWritable_of_frozen has_file (by simpa using frozen)
      rw [read_only] at able
      exact absurd able.1 Bool.false_ne_true
    refine ⟨prepared.answer_eq unfrozen, prepared.records able.1 fun ⟨logging, borrowed⟩ => ?_⟩
    rcases able.2 with closed | own
    · exact absurd (logging.symm.trans closed) (by decide)
    · exact absurd (borrowed.symm.trans own) (by decide)

end WorksOn

end Desk

end Desks

section Commands

/-- A change of a ledger by a command, of such a kind that it can be kept. -/
structure Command.Changes (command : Command) (workspace : Workspace) (before after : Ledger) :
    Prop where
  orderly : after.Orderly
  staff : after.employees = before.employees ∨ ∃ rows, after = before.withStaff rows
  grown : before.slots ⊆ after.slots
  effect : command.Effect workspace before after

namespace Command

variable {workspace : Workspace} {ledger : Ledger}

/-- Registering staff is a change that can be kept. -/
theorem changes_enrol (orderly : ledger.Orderly) {command : Command} {staff : List NewEmployee}
    (effect : command.Effect workspace ledger (ledger.enrol staff)) :
    command.Changes workspace ledger (ledger.enrol staff) where
  orderly := orderly.enrol staff
  staff := .inr ⟨_, ledger.enrol_eq_withStaff staff⟩
  grown := by
    rw [Ledger.slots_enrol]
    exact fun _ => id
  effect := effect

/-- A request to assign that is granted makes a change that can be kept. -/
theorem changes_assign (store : Store) (orderly : store.ledger.Orderly) {options : Options}
    {now : Instant} {employee : EmployeeId} {date : String} {slot : Nat} {receipt : Receipt}
    (granted : (store.assign options now.date employee date slot).1 = .ok receipt) :
    (Command.assign employee date slot).Changes workspace store.ledger
      (store.assign options now.date employee date slot).2.ledger := by
  obtain ⟨after_orderly, day, number, role, after⟩ := Store.of_assign_eq_ok orderly granted
  obtain ⟨row, slots, own, few, eq⟩ := store.ledger.exists_withBooking employee day number role
  rw [after] at after_orderly ⊢
  refine ⟨after_orderly, .inl ?_, ?_, row, slots, own, few, eq⟩
  · rw [eq]
  · rw [eq]
    exact List.subset_append_left _ _

/-- A request to remove that is granted makes a change that can be kept. -/
theorem changes_remove (store : Store) (orderly : store.ledger.Orderly) {employee : EmployeeId}
    {date : String} {slot : Nat} (granted : (store.remove employee date slot).1 = .ok ()) :
    (Command.remove employee date slot).Changes workspace store.ledger
      (store.remove employee date slot).2.ledger := by
  obtain ⟨after_orderly, day, number, holds, after⟩ := Store.of_remove_eq_ok orderly granted
  obtain ⟨earlier, row, later, split, named, eq⟩ := orderly.consistent.exists_withoutBooking holds
  have mem : row ∈ store.ledger.assignments := by rw [split]; simp
  have own : row.employee = employee := by
    have hit := (named row mem).mpr rfl
    simp only [Ledger.IsFor, decide_eq_true_eq] at hit
    exact hit.1
  rw [after] at after_orderly ⊢
  refine ⟨after_orderly, .inl ?_, ?_, earlier, row, later, own, split, eq⟩
  · rw [eq]
  · rw [eq]
    exact fun _ => id

end Command

namespace Store

variable {store : Store}

/-- Nobody is registered while the lock is not free. -/
theorem registerAll_of_not_free (held : store.lock ≠ .free) {staff : List NewEmployee}
    (done : (store.registerAll staff).1 = .ok ()) : staff = [] := by
  cases staff with
  | nil => rfl
  | cons member rest =>
    rcases store.write_cases (Ledger.registerEmployee member.name member.role) with
      ⟨free, -⟩ | ⟨-, cause, refused⟩
    · exact absurd free held
    · rw [registerAll, refused] at done
      cases done

end Store

/-- A staff file that is loaded has been found and read. -/
theorem exists_of_loadStaff {file : Except FileFault (List UInt8)} {staff : List NewEmployee}
    (loaded : loadStaff file = .ok staff) :
    ∃ octets, file = .ok octets ∧ readStaffFile octets = .ok staff := by
  cases file with
  | error fault => cases loaded
  | ok octets => exact ⟨octets, rfl, loaded⟩

end Commands

section Execution

/-- A refusal is no success. -/
theorem Ending.ofRefusal_ne_success (e : SchedulingError) : Ending.ofRefusal e ≠ .success := by
  cases e <;> exact nofun

/-- A refusal of a request to assign is no success. -/
theorem Ending.ofAssignment_ne_success (e : SchedulingError) :
    Ending.ofAssignment e ≠ .success := by
  unfold ofAssignment
  split
  · exact nofun
  · exact ofRefusal_ne_success e

namespace Desk

/-- What a command leaves in a database: what was there, which has to be its effect if it has
succeeded and works on that database; or else its effect, and then it has succeeded. -/
inductive Leaves (desk : Desk) (workspace : Workspace) (home path : FilePath) (ledger : Ledger)
    (command : Command) (result : Outcome × Workspace) : Prop where
  | unchanged (keeps : result.2.Keeps home path ledger)
      (effect : result.1.ending = .success → desk.connection.path ≠ none →
        command.Effect workspace ledger ledger)
  | changed {kept : Ledger} (success : result.1.ending = .success)
      (in_file : desk.connection.path ≠ none) (keeps : result.2.Keeps home path kept)
      (orderly : kept.Orderly) (effect : command.Effect workspace ledger kept)

variable {desk : Desk} {workspace : Workspace} {home path : FilePath} {ledger : Ledger}

/-- A question leaves everything as it was, but for the file that it is to write. -/
theorem keeps_shifts (keeps : workspace.Keeps home path ledger) {file : Option String}
    (outside : ∀ name ∈ file, (FileName.ofText name).path home ∉ path.databaseFiles)
    (employee : EmployeeId) (range : Option (Date × Date)) :
    (desk.shifts workspace employee range file).2.Keeps home path ledger := by
  unfold Desk.shifts
  cases desk.store.listShifts employee range with
  | error e => exact keeps
  | ok shifts =>
    dsimp only
    cases desk.shiftText file shifts with
    | error ending => exact keeps
    | ok text =>
      dsimp only
      cases written : workspace.writeIfAsked file text with
      | error causes => exact keeps
      | ok after =>
        have keeps' := keeps.writeIfAsked outside written
        dsimp only
        cases shifts.mapM shiftLine with
        | error e => exact keeps'
        | ok lines => exact keeps'

/-- Showing a grid leaves the database as it was, and so does writing it to a file that is none of
the database. -/
theorem keeps_availability (keeps : workspace.Keeps home path ledger) {file : Option String}
    (outside : ∀ name ∈ file, (FileName.ofText name).path home ∉ path.databaseFiles)
    (start : String) (days : Nat) :
    (desk.availability workspace start days file).2.Keeps home path ledger := by
  unfold Desk.availability
  cases desk.store.availability desk.options start days with
  | error e => exact keeps
  | ok grid =>
    dsimp only
    cases written : workspace.writeIfAsked file (availabilityFile grid) with
    | error causes => exact keeps
    | ok after => exact keeps.writeIfAsked outside written

namespace WorksOn

/-- A command whose database is in a file works on the database in question. -/
theorem at_path (works_on : desk.WorksOn workspace home path ledger)
    (in_file : desk.connection.path ≠ none) : desk.connection.path = some path ∧ path ≠ [] := by
  cases works_on with
  | transient no_file => exact absurd no_file in_file
  | stored found nonempty => exact ⟨found, nonempty⟩

variable {command : Command}

/-- A command that is granted keeps what it has changed. -/
theorem leaves_finish (works_on : desk.WorksOn workspace home path ledger) {α ε : Type}
    {answer : Except ε α × Store} {ending : ε → Ending} {output : α → String}
    (failure : ∀ e, ending e ≠ .success)
    (granted : ∀ value, answer.1 = .ok value →
      answer.2.ledger = desk.ledger ∧ command.Effect workspace ledger ledger ∨
      desk.use.changeable = true ∧
        (desk.ledger = ledger → command.Changes workspace ledger answer.2.ledger)) :
    desk.Leaves workspace home path ledger command
      (desk.finish workspace answer ending output) := by
  obtain ⟨result, store⟩ := answer
  cases result with
  | error e => exact .unchanged works_on.keeps fun success => absurd success (failure e)
  | ok value =>
    have left : (desk.finish workspace (.ok value, store) ending output).2 =
        workspace.record desk.connection desk.use desk.ledger store.ledger := rfl
    by_cases no_file : desk.connection.path = none
    · refine .unchanged ?_ fun _ in_file => absurd no_file in_file
      rw [left, Workspace.record_of_no_file no_file]
      exact works_on.keeps
    · rcases granted value rfl with ⟨same, effect⟩ | ⟨changeable, change⟩
      · refine .unchanged ?_ fun _ _ => effect
        rw [left, same, Workspace.record_of_same]
        exact works_on.keeps
      · obtain ⟨seen, records⟩ := works_on.of_changeable changeable no_file
        obtain ⟨found, nonempty⟩ := works_on.at_path no_file
        have change := change seen
        refine .changed rfl no_file ?_ change.orderly change.effect
        rw [left, seen]
        exact works_on.keeps.record nonempty records change.staff change.grown found

/-- Importing a staff file leaves the database as it was, or succeeds and registers all of its
staff. -/
theorem leaves_import (works_on : desk.WorksOn workspace home path ledger)
    (orderly : ledger.Orderly) (file : String) :
    desk.Leaves workspace home path ledger (.importEmployees file)
      (desk.importEmployees workspace file) := by
  unfold importEmployees
  cases loaded : loadStaff (workspace.readFile file) with
  | error e => exact .unchanged works_on.keeps nofun
  | ok staff =>
    obtain ⟨octets, found, read⟩ := exists_of_loadStaff loaded
    refine works_on.leaves_finish (fun _ => nofun) fun _ done => ?_
    by_cases free : desk.store.lock = .free
    · refine .inr ⟨store_lock_eq_free_iff.mp free, fun seen => ?_⟩
      rcases desk.store.registerAll_cases staff with eq | ⟨held, -⟩
      · have eq : (desk.store.registerAll staff).2.ledger = ledger.enrol staff := by
          rw [eq, ← seen]
          rfl
        rw [eq]
        exact Command.changes_enrol orderly ⟨octets, staff, found, read,
          length_of_readStaffFile read, ledger.enrol_eq_withStaff staff⟩
      · exact absurd free held
    · obtain rfl := Store.registerAll_of_not_free free done
      exact .inl ⟨rfl, octets, [], found, read, length_of_readStaffFile read,
        ledger.enrol_eq_withStaff []⟩

/-- A command either leaves a database as it was or succeeds and does to it what it should. -/
theorem leaves_execute (works_on : desk.WorksOn workspace home path ledger)
    (orderly : ledger.Orderly)
    (outside : ∀ name ∈ command.exports, (FileName.ofText name).path home ∉ path.databaseFiles) :
    desk.Leaves workspace home path ledger command (desk.execute workspace command) := by
  cases command with
  | addEmployee name role =>
    refine works_on.leaves_finish (fun _ => nofun) fun employee done => ?_
    rcases desk.store.write_cases (Ledger.registerEmployee name role) with
      ⟨free, eq⟩ | ⟨-, cause, refused⟩
    · refine .inr ⟨store_lock_eq_free_iff.mp free, fun seen => ?_⟩
      have eq : (desk.store.write (Ledger.registerEmployee name role)).2.ledger =
          ledger.enrol [⟨name, role⟩] := by
        rw [eq, ← seen]
        rfl
      rw [eq]
      exact Command.changes_enrol orderly (ledger.enrol_eq_withStaff _)
    · rw [refused] at done
      cases done
  | importEmployees file => exact works_on.leaves_import orderly file
  | employees =>
    refine .unchanged ?_ fun _ _ => rfl
    rw [execute]
    cases desk.ledger.listEmployees <;> exact works_on.keeps
  | assign employee date slot =>
    refine works_on.leaves_finish Ending.ofAssignment_ne_success fun receipt granted => ?_
    refine .inr ⟨store_lock_eq_free_iff.mp (Store.lock_of_assign_eq_ok granted), fun seen => ?_⟩
    rw [← seen] at orderly ⊢
    exact Command.changes_assign desk.store orderly granted
  | remove employee date slot =>
    refine works_on.leaves_finish Ending.ofRefusal_ne_success fun _ granted => ?_
    refine .inr ⟨store_lock_eq_free_iff.mp (Store.lock_of_remove_eq_ok granted), fun seen => ?_⟩
    rw [← seen] at orderly ⊢
    exact Command.changes_remove desk.store orderly granted
  | shifts employee range file =>
    have outside_file : ∀ name ∈ file, (FileName.ofText name).path home ∉ path.databaseFiles := by
      simpa [Command.exports] using outside
    exact .unchanged (keeps_shifts works_on.keeps outside_file employee range) fun _ _ => rfl
  | availability start days file =>
    have outside_file : ∀ name ∈ file, (FileName.ofText name).path home ∉ path.databaseFiles := by
      simpa [Command.exports] using outside
    exact .unchanged (keeps_availability works_on.keeps outside_file start days) fun _ _ => rfl
  | onCall instant buffer => exact .unchanged works_on.keeps fun _ _ => rfl

end WorksOn

end Desk

end Execution

end DutyRoster
