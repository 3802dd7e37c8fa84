import DutyRoster.CommandLine.Arguments
import DutyRoster.Exchange.ConfigFile
import DutyRoster.Exchange.ShiftFile
import DutyRoster.Session
import DutyRoster.Workspace.Keep

/-!
# Running the program

`CommandLine.run` carries out a command line: the settings are loaded, then the database is opened,
then the command does its work, and last the database is settled if that went wrong. What the
command has to tell goes to the output, and how it ended decides the exit code: 0 for success, 2 for
a request that the rules of the roster reject and for a command line that is not in order, 101 for a
time that cannot be reckoned with, and 1 for every other failure.
-/

set_option autoImplicit false

namespace DutyRoster

/-- How a run of the program ends. A failure comes with the wordings of what led to it, outermost
first. -/
inductive Ending where
  | success
  | rejected (cause : SchedulingError)
  | failed (causes : List String)
  | misused
  | windowBeyondCalendar
  | waitTooLong
deriving DecidableEq

/-- The exit code of a run. -/
def Ending.code : Ending → UInt32
  | .success => 0
  | .rejected _ => 2
  | .failed _ => 1
  | .misused => 2
  | .windowBeyondCalendar => 101
  | .waitTooLong => 101

/-- Whether the database is settled after a run. A run that does what it was asked to, or that the
rules of the roster reject, leaves at once. -/
def Ending.settles : Ending → Bool
  | .success => false
  | .rejected _ => false
  | _ => true

/-- A text with something put before its first line and something else before the others. -/
def hang (before others : String) (text : String) : String :=
  before ++ ("\n" ++ others).intercalate (text.splitOn "\n")

/-- The causes behind a failure, one on a line, numbered if there are several. -/
def causeLines (causes : List String) : String :=
  match causes with
  | [cause] => "\n" ++ hang "    " "    " cause
  | causes => String.join (causes.zipIdx.map fun (cause, i) =>
      let number := toString i
      let space := String.ofList (List.replicate (5 - number.length) ' ')
      "\n" ++ hang (space ++ number ++ ": ") "       " cause)

/-- The report of a failure: what failed, and the causes behind it. -/
def failureReport : List String → String
  | [] => "Error: \n"
  | [cause] => "Error: " ++ cause ++ "\n"
  | cause :: causes => "Error: " ++ cause ++ "\n\nCaused by:" ++ causeLines causes ++ "\n"

/-- What the program says about a run that did not succeed. -/
def Ending.report : Ending → String
  | .success => ""
  | .rejected cause => "rejected: " ++ cause.message ++ "\n"
  | .failed causes => failureReport causes
  | .misused => "error: the command line is not in order\n\nFor more information, try '--help'.\n"
  | .windowBeyondCalendar => "the slot ends after the last day of the calendar\n"
  | .waitTooLong => "nothing can wait that long for the storage\n"

/-- What a run leaves: how it ended and what it printed. -/
structure Outcome where
  ending : Ending
  output : String := ""
deriving DecidableEq

/-- The wordings of a refusal by the scheduler and of its cause. -/
def SchedulingError.causes (e : SchedulingError) : List String :=
  match e with
  | .storage cause => [e.message, cause.message]
  | _ => [e.message]

/-- How a run ends that fails by a refusal of the scheduler. -/
def Ending.ofRefusal (e : SchedulingError) : Ending :=
  match e with
  | .windowBeyondCalendar .. => .windowBeyondCalendar
  | _ => .failed e.causes

/-- How a run ends that was to assign a slot: what the rules of the roster reject is no failure. -/
def Ending.ofAssignment (e : SchedulingError) : Ending :=
  if e.errorClass = .rejection then .rejected e else .ofRefusal e

/-- A member of staff on a line. -/
def employeeLine (employee : Employee) : String :=
  s!"{employee.id} | {employee.name} | {employee.role}\n"

/-- A shift on a line. -/
def shiftLine (a : Assignment) : Except SchedulingError String :=
  match a.number.window? a.date with
  | none => .error (.windowBeyondCalendar a.date a.number)
  | some (start, stop) => .ok s!"{a.date} | slot {a.number} | {start} → {stop} | {a.role}\n"

/-- A slot of an availability grid on a line: the places left, by role. -/
def slotLine (date : Date) (slot : SlotAvailability) : String :=
  let cells := slot.roles.map fun cell => s!"{cell.role}={cell.remaining}"
  s!"{date} | slot {slot.slot} | " ++ " ".intercalate cells ++ "\n"

/-- An availability grid, one slot on a line. -/
def gridLines (grid : List DayAvailability) : String :=
  String.join (grid.flatMap fun day => day.slots.map (slotLine day.date))

/-- The largest number of minutes that a buffer may have, forwards or backwards: a number of
milliseconds has to fit into 64 bits. -/
def maxBufferMinutes : Nat := 153722867280912

/-- Writes a file if one is asked for. -/
def Workspace.writeIfAsked (workspace : Workspace) (file : Option String)
    (text : List Char) : Except (List String) Workspace :=
  match file with
  | none => .ok workspace
  | some name => workspace.writeFile name (Text.encode text)

/-- What a command works with: the database that is in use and what it holds, the limits, and the
time. -/
structure Desk where
  connection : Connection
  use : DatabaseUse
  ledger : Ledger
  options : Options
  now : Instant

namespace Desk

/-- The store that the command works on, which nobody else has locked. -/
def store (desk : Desk) : Store :=
  { ledger := desk.ledger, lock := if desk.use.changeable then .free else .readOnly }

/-- The end of a run that changed the database or tried to. -/
def finish {α ε : Type} (desk : Desk) (workspace : Workspace) (answer : Except ε α × Store)
    (ending : ε → Ending) (output : α → String) : Outcome × Workspace :=
  match answer with
  | (.ok value, store) =>
    (⟨.success, output value⟩,
      workspace.record desk.connection desk.use desk.ledger store.ledger)
  | (.error e, _) => (⟨ending e, ""⟩, workspace)

/-- The line that reports an assignment. -/
def receiptLine (receipt : Receipt) : String :=
  s!"assignment {receipt.id.number} : {receipt.date} slot {receipt.slot} → " ++
    s!"employee {receipt.employee}\n"

/-- Imports a staff file. -/
def importEmployees (desk : Desk) (workspace : Workspace) (file : String) : Outcome × Workspace :=
  match loadStaff (workspace.readFile file) with
  | .error e => (⟨.failed e.causes, ""⟩, workspace)
  | .ok rows =>
    desk.finish workspace (desk.store.registerAll rows) (fun e => .failed [e.message])
      fun () => s!"imported {rows.length} employee(s)\n"

/-- The names in a shift file, which are needed only if one is asked for. -/
def shiftText (desk : Desk) (file : Option String) (shifts : List Assignment) :
    Except Ending (List Char) :=
  match file with
  | none => .ok []
  | some _ =>
    match desk.ledger.listEmployees with
    | .error e => .error (.failed [e.message])
    | .ok employees => (shiftFile shifts employees).mapError .ofRefusal

/-- Lists the shifts of an employee, after writing them to a file if one is asked for. -/
def shifts (desk : Desk) (workspace : Workspace) (employee : EmployeeId)
    (range : Option (Date × Date)) (file : Option String) : Outcome × Workspace :=
  match desk.store.listShifts employee range with
  | .error e => (⟨.ofRefusal e, ""⟩, workspace)
  | .ok shifts =>
    match desk.shiftText file shifts with
    | .error ending => (⟨ending, ""⟩, workspace)
    | .ok text =>
      match workspace.writeIfAsked file text with
      | .error causes => (⟨.failed causes, ""⟩, workspace)
      | .ok workspace =>
        match shifts.mapM shiftLine with
        | .error e => (⟨.ofRefusal e, ""⟩, workspace)
        | .ok lines => (⟨.success, String.join lines⟩, workspace)

/-- Shows an availability grid, after writing it to a file if one is asked for. -/
def availability (desk : Desk) (workspace : Workspace) (start : String) (days : Nat)
    (file : Option String) : Outcome × Workspace :=
  match desk.store.availability desk.options start days with
  | .error e => (⟨.ofRefusal e, ""⟩, workspace)
  | .ok grid =>
    match workspace.writeIfAsked file (availabilityFile grid) with
    | .error causes => (⟨.failed causes, ""⟩, workspace)
    | .ok workspace => (⟨.success, gridLines grid⟩, workspace)

/-- Shows the staff on call, at the present time unless another is given. -/
def onCall (desk : Desk) (instant : Option Instant) (bufferMinutes : Int) : Outcome :=
  if maxBufferMinutes < bufferMinutes.natAbs then
    ⟨.failed ["--buffer-minutes out of range"], ""⟩
  else
    match desk.store.onCall (instant.getD desk.now) (bufferMinutes * 60000 * nanosPerMilli) with
    | .error e => ⟨.ofRefusal e, ""⟩
    | .ok [] => ⟨.success, "nobody on duty\n"⟩
    | .ok staff => ⟨.success, String.join (staff.map employeeLine)⟩

/-- Carries out a command. -/
def execute (desk : Desk) (workspace : Workspace) : Command → Outcome × Workspace
  | .addEmployee name role =>
    desk.finish workspace (desk.store.write (Ledger.registerEmployee name role))
      (fun e => .failed [e.message])
      fun employee => s!"{employee.id} {employee.name} ({employee.role})\n"
  | .importEmployees file => desk.importEmployees workspace file
  | .employees =>
    match desk.ledger.listEmployees with
    | .error e => (⟨.failed [e.message], ""⟩, workspace)
    | .ok staff => (⟨.success, String.join (staff.map employeeLine)⟩, workspace)
  | .assign employee date slot =>
    desk.finish workspace (desk.store.assign desk.options desk.now.date employee date slot)
      .ofAssignment receiptLine
  | .remove employee date slot =>
    desk.finish workspace (desk.store.remove employee date slot) .ofRefusal fun () => "removed\n"
  | .shifts employee range file => desk.shifts workspace employee range file
  | .availability start days file => desk.availability workspace start days file
  | .onCall instant bufferMinutes => (desk.onCall instant bufferMinutes, workspace)

end Desk

namespace CommandLine

/-- The settings that an invocation asks for, or the defaults. -/
def settings (invocation : Invocation) (workspace : Workspace) :
    Except (List String) RosterConfig :=
  match invocation.config with
  | none => .ok {}
  | some name => (loadConfig (workspace.readFile name)).mapError (ConfigError.causes name)

/-- Carries out an invocation. -/
def perform (now : Instant) (invocation : Invocation) (workspace : Workspace) :
    Outcome × Workspace :=
  match settings invocation workspace with
  | .error causes => (⟨.failed causes, ""⟩, workspace)
  | .ok config =>
    match workspace.connect invocation.database with
    | .error causes => (⟨.failed causes, ""⟩, workspace)
    | .ok (connection, workspace) =>
      if !config.canWait then (⟨.waitTooLong, ""⟩, workspace)
      else
        let (ledger, use, workspace) := workspace.prepare connection
        let (outcome, workspace) : Outcome × Workspace := match ledger with
          | .error fault =>
            (⟨.failed (openFailure invocation.database fault.message), ""⟩, workspace)
          | .ok ledger =>
            let desk : Desk := ⟨connection, use, ledger, config.options, now⟩
            desk.execute workspace invocation.command
        (outcome, if outcome.ending.settles then workspace.settle connection use else workspace)

/-- A summary of the commands. -/
def helpText : String :=
  "Usage: duty-roster [--log] [--db FILE] [--config FILE] COMMAND\n\n" ++
  "Commands:\n" ++
  "  add-employee --name NAME --role ROLE\n" ++
  "  import-employees --csv FILE\n" ++
  "  employees\n" ++
  "  assign --employee ID --date DATE --slot SLOT\n" ++
  "  remove --employee ID --date DATE --slot SLOT\n" ++
  "  shifts --employee ID [--from DATE --to DATE] [--out-csv FILE]\n" ++
  "  availability --start DATE [--days DAYS] [--out-json FILE]\n" ++
  "  on-call [--at INSTANT] [--buffer-minutes MINUTES]\n"

/-- The name and the version of the program. -/
def versionText : String :=
  "duty-roster 0.1.0\n"

/-- Carries out a command line. -/
def run (now : Instant) (words : List String) (workspace : Workspace) : Outcome × Workspace :=
  match Arguments.read words with
  | .error .help => (⟨.success, helpText⟩, workspace)
  | .error .version => (⟨.success, versionText⟩, workspace)
  | .error .misuse => (⟨.misused, ""⟩, workspace)
  | .ok invocation => perform now invocation workspace

end CommandLine

end DutyRoster
