import DutyRoster.CommandLine.Run
import Std.Time.DateTime.Timestamp

/-!
# The program

`main` looks up the files that the command line names, lets `CommandLine.run` work on them at the
present time, and puts back those that have changed. It decides nothing itself.
-/

set_option autoImplicit false

namespace DutyRoster.Program

/-- The present time. -/
def now : IO Instant := do
  let count := (← Std.Time.Timestamp.now).toNanosecondsSinceUnixEpoch.val
  match Instant.ofClockCount? count with
  | some instant => return instant
  | none => throw (IO.userError "the clock shows no time of the calendar")

/-- What looking for a file finds; anything but a file or a directory that can be read counts as
missing. -/
def octets (name : String) : IO (Except FileFault (List UInt8)) := do
  match ← (IO.FS.readBinFile name).toBaseIO with
  | .ok octets => return .ok octets.toList
  | .error (.inappropriateType ..) => return .error .isDirectory
  | .error _ => return .error .notFound

/-- The working directory. -/
def home : IO FilePath := do
  return (FileName.ofText (← IO.currentDir).toString).parts

/-- Adds to a workspace what is found at the end of a way. -/
def look (workspace : Workspace) (path : FilePath) : IO Workspace := do
  match ← octets path.name with
  | .ok octets => return workspace.put path (.ofOctets octets)
  | .error .isDirectory =>
    return { workspace with directories := path :: workspace.directories }
  | .error _ => return workspace

/-- The ways that may be taken on the way to a name. -/
def stops (home : FilePath) (name : FileName) : List FilePath :=
  (name.start home).stops name.parts

/-- The ways that may be taken to the files of a database. -/
def databaseStops (home : FilePath) (name : String) : List FilePath :=
  match DatabaseName.read name with
  | .error _ => []
  | .ok database =>
    if database.isTransient then []
    else
      let paths := stops home (.ofOctets database.file)
      paths ++ paths.flatMap (fun path => [path.log, path.index, path.journal, path.lockFile]) ++
        (database.likeFile.toList.map FileName.ofOctets).flatMap (stops home)

/-- The workspace as far as an invocation names it: what is found at each stop of each name. -/
def workspace (invocation : Invocation) : IO Workspace := do
  let home ← home
  let files := (invocation.files.map FileName.ofText).flatMap (stops home)
  (databaseStops home invocation.database ++ files).eraseDups.foldlM look { home }

/-- Replaces a file if its content has changed, by way of a second one beside it. -/
def putBack (before : Workspace) (path : FilePath) (content : FileContent) : IO Unit := do
  unless before.content? path = some content do
    IO.FS.writeBinFile (path.name ++ ".new") ⟨content.octets.toArray⟩
    IO.FS.rename (path.name ++ ".new") path.name

/-- Takes away a file that is there no more. -/
def takeAway (after : Workspace) (path : FilePath) : IO Unit := do
  if (after.content? path).isNone then IO.FS.removeFile path.name

/-- Runs the program and returns its exit code. -/
def run (words : List String) : IO UInt32 := do
  let before ← match Arguments.read words with
    | .ok invocation => workspace invocation
    | .error _ => pure {}
  let (outcome, after) := CommandLine.run (← now) words before
  after.files.forM fun (path, content) => putBack before path content
  before.files.forM fun (path, _) => takeAway after path
  IO.print outcome.output
  IO.eprint outcome.ending.report
  return outcome.ending.code

end DutyRoster.Program

/-- Runs the program on a command line. -/
def main (words : List String) : IO UInt32 :=
  DutyRoster.Program.run words
