import DutyRoster.Workspace.Prepare

/-!
# Keeping a changed ledger

`Workspace.record` keeps the changes that a run has made. They go to the log if one is open, and to
the file otherwise. A log that has grown to `ChangeLog.fullSize` pages is brought into the file, and
begins anew with the change after that. `Workspace.settle` brings the log into the file at the end
of a run that failed, and takes the log and its index away; other runs leave them to the next one.
-/

set_option autoImplicit false

namespace DutyRoster

/-- A change that is kept: the ledger after it, the number of pages that it touches, and whether the
database has grown by it. -/
structure RecordedChange where
  ledger : Ledger
  touched : Nat
  grown : Bool
deriving DecidableEq

namespace Ledger

/-- The changes by which members of staff are added one at a time to a ledger, given the extent of
its table of staff. -/
def staffChanges : Ledger → StaffExtent → List EmployeeRow → List RecordedChange
  | _, _, [] => []
  | ledger, extent, row :: rest =>
    let after : Ledger :=
      { ledger with
        employees := ledger.employees ++ [row], employeesIssued := ledger.employeesIssued + 1 }
    let next := extent.add row
    ⟨after, extent.touched next, extent.pages < next.pages⟩ :: staffChanges after next rest

/-- The changes that have led from a ledger to another one. Members of staff are added one at a
time, and nothing else is changed in more than one step. -/
def changesTo (before after : Ledger) : List RecordedChange :=
  if before = after then []
  else
    match after.employees.drop before.employees.length with
    | [] => [⟨after, before.pagesTouched after, false⟩]
    | rows => before.staffChanges before.staffExtent rows

end Ledger

namespace ChangeLog

/-- The number of pages from which on a log is brought into the file. -/
def fullSize : Nat := 1000

end ChangeLog

/-- Changes on their way into a log: the log as far as they have been added, and the database that
has been brought into the file last. If that is all of the log, the next change begins it anew. -/
structure Recording where
  log : ChangeLog
  settled : Option DatabaseImage := none
  renews : Bool := false
deriving DecidableEq

namespace Recording

/-- Adds a change. The first page is written again if the database grows; however often that happens
in one run, it counts as once, from `changes` on. -/
def add (changes : Nat) (recording : Recording) (change : RecordedChange) : Recording :=
  let before := recording.log.image
  let image : DatabaseImage :=
    { before with
      ledger := change.ledger
      changes := if change.grown then max before.changes (changes + 1) else before.changes }
  let log : ChangeLog :=
    if recording.renews then ⟨image, change.touched, false⟩
    else ⟨image, recording.log.size + change.touched, recording.log.complete⟩
  if ChangeLog.fullSize ≤ log.size then ⟨log, some image, true⟩ else ⟨log, recording.settled, false⟩

end Recording

namespace FileContent

/-- What becomes of a file into which the pages of a log are brought that does not hold the first
one: the place of that page keeps what was there. -/
def spoiled (content : FileContent) : FileContent :=
  let first := content.octets.take DatabasePage.size
  .plain (DatabasePage.padded first DatabasePage.size ++ DatabaseImage.heading)

end FileContent

namespace Workspace

/-- The log of a database as it is before anything is added to it. -/
def logToExtend? (workspace : Workspace) (path : FilePath) : Option ChangeLog :=
  match workspace.log? path, workspace.contentAt path with
  | some log, _ => some log
  | none, .database image => some ⟨image, 0, false⟩
  | none, _ => none

/-- Adds changes to the log of a database. -/
def recordInLog (workspace : Workspace) (path : FilePath) (changes : Nat)
    (recorded : List RecordedChange) : Workspace :=
  match workspace.logToExtend? path with
  | none => workspace
  | some log =>
    let recording := recorded.foldl (Recording.add changes) { log }
    let workspace := workspace.put path.log (.log recording.log)
    match recording.settled with
    | some image => workspace.put path (.database image)
    | none => workspace

/-- Makes changes in the file of a database. -/
def recordInFile (workspace : Workspace) (path : FilePath) (recorded : List RecordedChange) :
    Workspace :=
  match workspace.contentAt path, recorded.getLast? with
  | .database image, some last =>
    let changes := image.changes + recorded.length
    (workspace.put path (.database { image with ledger := last.ledger, changes })).remove
      path.journal
  | _, _ => workspace

/-- Keeps the changes that have led from a ledger to another one. -/
def record (workspace : Workspace) (connection : Connection) (use : DatabaseUse)
    (before after : Ledger) : Workspace :=
  match connection.path, before.changesTo after with
  | none, _ => workspace
  | some _, [] => workspace
  | some path, recorded =>
    if use.logging then workspace.recordInLog path use.changes recorded
    else workspace.recordInFile path recorded

/-- Brings the log of a database into its file. -/
def settleFile (workspace : Workspace) (path : FilePath) : Workspace :=
  match workspace.log? path, workspace.contentAt path with
  | none, _ => workspace
  | some log, .database _ => workspace.put path (.database log.image)
  | some log, content =>
    workspace.put path (if log.complete then .database log.image else content.spoiled)

/-- Brings the log of a database into its file and takes it away, provided that it is open and that
all can be changed. -/
def settle (workspace : Workspace) (connection : Connection) (use : DatabaseUse) : Workspace :=
  match connection.path with
  | none => workspace
  | some path =>
    if use.logging ∧ !use.indexReadOnly ∧ use.database.isWritable then
      let workspace := (workspace.settleFile path).remove path.log
      if use.database.keepsIndexInMemory then workspace else workspace.remove path.index
    else workspace

end Workspace

end DutyRoster
