import DutyRoster.Workspace.Connect

/-!
# Making a database ready for use

Before the ledger of a database can be used, the files beside its file are looked at. A journal is
what is left of a change that broke off; it is used up. The log holds changes that are not in the
file yet, and an index goes with it. A database that is new gets its tables, and one that has kept
no log so far keeps one from now on, unless the way in which it is locked rules that out or its name
says that it may not be changed.

`Workspace.prepare` does all of this. It can fail at any step, and what was done before stays done.
-/

set_option autoImplicit false

namespace DutyRoster

namespace FilePath

/-- The log of the database in a file. -/
def log (path : FilePath) : FilePath :=
  path.beside "-wal"

/-- The index of the log. -/
def index (path : FilePath) : FilePath :=
  path.beside "-shm"

/-- The journal of a change that is under way. -/
def journal (path : FilePath) : FilePath :=
  path.beside "-journal"

/-- The second file that keeps other users out. -/
def lockFile (path : FilePath) : FilePath :=
  path.beside ".lock"

end FilePath

/-- A database in use: whether its log is open, whether the index of the log can only be read,
whether the database itself can, and how often its first page had been written before. -/
structure DatabaseUse where
  database : DatabaseName
  logging : Bool := false
  indexReadOnly : Bool := false
  changeable : Bool := true
  changes : Nat := 0
deriving DecidableEq

/-- What a database is found to hold: no page at all, pages without any table, or its tables. -/
inductive Holding where
  | nothing
  | blank (page : BlankPage)
  | tables (image : DatabaseImage)
deriving DecidableEq

namespace FileContent

/-- What a file holds if it is taken for a database. -/
def holding : FileContent → Except DatabaseFault Holding
  | .plain (first :: second :: rest) =>
    match BlankPage.read? (first :: second :: rest) with
    | some page => .ok (.blank page)
    | none => .error .noDatabase
  | .plain _ => .ok .nothing
  | .device => .ok .nothing
  | .database image => .ok (.tables image)
  | .log _ => .error .noDatabase
  | .index => .error .noDatabase

/-- The size of the header that every log has. -/
def logHeaderSize : Nat := 32

/-- The log that a file holds, if it holds one. -/
def log? : FileContent → Option ChangeLog
  | .log kept => some kept
  | _ => none

end FileContent

namespace Workspace

/-- What is at the end of a way, if there is anything; an empty file is as good as none. -/
def present? (workspace : Workspace) (path : FilePath) : Option Place :=
  match workspace.reach path with
  | .ok (.file path content) =>
    if content = .plain [] then none else some (.file path content)
  | .ok (.directory path) => some (.directory path)
  | _ => none

/-- Whether a file is or can be at the end of a way. -/
def hasRoom (workspace : Workspace) (path : FilePath) : Bool :=
  match workspace.reach path with
  | .ok (.file ..) => true
  | .ok (.vacant _) => true
  | _ => false

/-- The content of a file; one that is not there is as good as an empty one. -/
def contentAt (workspace : Workspace) (path : FilePath) : FileContent :=
  (workspace.content? path).getD (.plain [])

/-- The log that goes with the file of a database. -/
def log? (workspace : Workspace) (path : FilePath) : Option ChangeLog :=
  (workspace.contentAt path.log).log?

/-- What a database holds, given whether its log is open. A log that does not hold all of it needs
the rest to be in the file. -/
def holding (workspace : Workspace) (path : FilePath) (logging : Bool) :
    Except DatabaseFault Holding :=
  let content := workspace.contentAt path
  match if logging then workspace.log? path else none, content with
  | some log, .database _ => .ok (.tables log.image)
  | some log, _ => if log.complete then .ok (.tables log.image) else .error .noDatabase
  | none, _ => content.holding

end Workspace

/-- A step on the way to a database that is ready for use. It may fail, and what has been changed
until then stays. -/
abbrev Preparation := ExceptT DatabaseFault (StateM (DatabaseUse × Workspace))

namespace Preparation

/-- The database, as far as it has been made ready. -/
def use : Preparation DatabaseUse := do
  return (← get).1

/-- The workspace as it is. -/
def workspace : Preparation Workspace := do
  return (← get).2

/-- Changes what is known about the database. -/
def note (change : DatabaseUse → DatabaseUse) : Preparation Unit :=
  modify fun (use, workspace) => (change use, workspace)

/-- Puts content into a file. -/
def put (path : FilePath) (content : FileContent) : Preparation Unit :=
  modify fun (use, workspace) => (use, workspace.put path content)

/-- Takes a file away. -/
def remove (path : FilePath) : Preparation Unit :=
  modify fun (use, workspace) => (use, workspace.remove path)

/-- Fails if another user has locked the database. -/
def awaitLock (path : FilePath) : Preparation Unit := do
  if (← use).database.locking = .lockFile then
    match (← workspace).reach path.lockFile with
    | .ok (.vacant _) => pure ()
    | .ok _ => throw .locked
    | .error _ => throw .inputOutput

/-- Uses up a journal. No change can have broken off if the file has no pages, and a journal that
begins with a zero is closed; any other is undone, which has to be allowed. A journal that this
program can find has nothing in it to be undone. A lock by a second file looks like a change that is
still under way. -/
def useUpJournal (path : FilePath) : Preparation Unit := do
  let database := (← use).database
  let journal := (← workspace).present? path.journal
  match if database.locking = .lockFile then none else journal with
  | none => pure ()
  | some (.file _ content) =>
    if ((← workspace).contentAt path).hasNoPages then
      if database.access ≠ .readOnly ∨ !database.locking.allowsLog then remove path.journal
    else if content.octets.head? = some 0 then pure ()
    else if database.access = .readOnly then throw .readOnly
    else remove path.journal
  | some _ =>
    unless ((← workspace).contentAt path).hasNoPages do throw .inputOutput

/-- Takes the index of the log as it is found. Without a log the file can do without it, but another
file in the place of the log never comes to rest. -/
def borrowIndex (path : FilePath) : Preparation Unit := do
  let log := (← workspace).contentAt path.log
  if log.log?.isNone ∧ FileContent.logHeaderSize ≤ log.octets.length then throw .unsettling
  note ({ · with indexReadOnly := true })

/-- Opens the index of the log. -/
def openIndex (path : FilePath) : Preparation Unit := do
  let database := (← use).database
  match (← workspace).reach path.index with
  | .ok (.directory _) => borrowIndex path
  | .ok (.file ..) => if database.indexReadOnly then borrowIndex path else put path.index .index
  | .ok (.vacant _) => if database.indexReadOnly then throw .noRoom else put path.index .index
  | .error _ => throw .noRoom

/-- Opens the log, which is created if need be, and its index. -/
def openLog (path : FilePath) : Preparation Unit := do
  let database := (← use).database
  if database.locking.allowsLog ∧ (← workspace).hasRoom path.log then
    if ((← workspace).content? path.log).isNone then put path.log (.plain [])
    unless database.keepsIndexInMemory do openIndex path
    note ({ · with logging := true })
  else throw .noRoom

/-- Opens the log if there is one already. A file without pages cannot have a log. -/
def openFoundLog (path : FilePath) : Preparation Unit := do
  match (← workspace).present? path.log with
  | none => pure ()
  | some place =>
    if ((← workspace).contentAt path).hasNoPages then
      match place with
      | .file .. => remove path.log
      | _ => throw .inputOutput
    else openLog path

/-- Whether changes of the file itself can be made, which need a journal. -/
def canJournal (path : FilePath) : Preparation Bool := do
  return (← workspace).hasRoom path.journal

/-- Whether the database keeps no log yet but can keep one from now on. -/
def canBeginLog (path : FilePath) : Preparation Bool := do
  let use ← use
  return !use.logging ∧ use.database.isWritable ∧ use.database.locking.allowsLog ∧
    (← canJournal path)

/-- Begins to keep a log: the file says so from now on. -/
def beginLog (path : FilePath) (content : FileContent) : Preparation Unit := do
  put path content
  remove path.journal
  openLog path

/-- Makes the tables, given how often the first page has been written and whether it says that a log
is kept. -/
def makeTables (path : FilePath) (changes : Nat) (logged : Bool) : Preparation Ledger := do
  let use ← use
  if !use.database.isWritable ∨ use.logging ∧ use.indexReadOnly then throw .readOnly
  else if use.logging then
    put path.log (.log ⟨⟨{}, logged, changes + 1⟩, Ledger.pagesTouchedAtFirst, true⟩)
    return {}
  else if ← canJournal path then
    put path (.database ⟨{}, false, changes + 4⟩)
    remove path.journal
    return {}
  else throw .noRoom

/-- Makes a database out of a file without pages. -/
def found (path : FilePath) : Preparation Ledger := do
  if (← workspace).contentAt path = .device ∧ (← use).database.isWritable then throw .inputOutput
  else if ← canBeginLog path then
    beginLog path (.plain blankPage)
    makeTables path 1 true
  else makeTables path 0 false

/-- Makes the tables of a database that has none. -/
def complete (path : FilePath) (page : BlankPage) : Preparation Ledger := do
  if page.isLogged ∧ !(← use).logging ∧ !(← use).database.frozen then openLog path
  match page.fault? with
  | some fault => throw fault
  | none => pure ()
  if !page.isWritable ∨ !(← use).database.isWritable then throw .readOnly
  let page ←
    if page.allowsNewHeader ∧ (← canBeginLog path) then
      let page := page.turnedToLog
      beginLog path (.plain page.octets)
      pure page
    else pure page
  if !(← use).logging ∧ !(← canJournal path) then throw .noRoom
  if (← use).logging ∧ (← use).indexReadOnly then throw .readOnly
  if page.isSound then makeTables path page.changes page.isLogged
  else
    unless (← use).logging do remove path.journal
    throw .malformed

/-- Takes the ledger of a database that has its tables. -/
def take (path : FilePath) (image : DatabaseImage) : Preparation Ledger := do
  if image.logged then
    unless (← use).logging ∨ (← use).database.frozen do openLog path
  else if ← canBeginLog path then
    beginLog path (.database { image with logged := true, changes := image.changes + 1 })
  note ({ · with changes := image.changes })
  return image.ledger

/-- Makes the database in a file ready for use. One that is frozen consists of the file alone. -/
def prepare (path : FilePath) : Preparation Ledger := do
  unless (← use).database.frozen do
    awaitLock path
    useUpJournal path
    openFoundLog path
  let holding ← MonadExcept.ofExcept ((← workspace).holding path (← use).logging)
  let ledger ←
    match holding with
    | .nothing => found path
    | .blank page => complete path page
    | .tables image => take path image
  note fun use =>
    { use with changeable := use.database.isWritable && !(use.logging && use.indexReadOnly) }
  return ledger

end Preparation

namespace Workspace

/-- Makes a database ready for use. One that has no file is new. -/
def prepare (workspace : Workspace) (connection : Connection) :
    Except DatabaseFault Ledger × DatabaseUse × Workspace :=
  let use : DatabaseUse := { database := connection.database }
  match connection.path with
  | none =>
    (if connection.database.isWritable then .ok {} else .error .readOnly, use, workspace)
  | some path => (Preparation.prepare path).run.run (use, workspace)

end Workspace

end DutyRoster
