import DutyRoster.Database.Name
import DutyRoster.Workspace.Files

/-!
# Finding the file of a database

`Workspace.connect` finds the file that the name of a database leads to, or creates an empty one. It
does not look at what the file holds. What keeps a database from being opened is told in two
wordings: which database it is, and what is in the way.
-/

set_option autoImplicit false

namespace DutyRoster

/-- A database that has been found: its name, and the way to its file unless it has none. -/
structure Connection where
  database : DatabaseName
  path : Option FilePath
deriving DecidableEq

/-- The wordings of a failure to open a database. -/
def openFailure (name reason : String) : List String :=
  ["opening roster database " ++ name, reason]

namespace FilePath

/-- The largest size of the way to a database. -/
def maxDatabaseSize : Nat := 504

/-- The largest size of a way that is taken while a database is looked for. -/
def maxDetourSize : Nat := 511

end FilePath

namespace Workspace

/-- Follows one part of the name of a database. Nothing need be there, but no file may be in the
way. -/
def detour (workspace : Workspace) (path : FilePath) (part : PathPart) : Option FilePath :=
  let next := path.step part
  if FilePath.maxDetourSize < next.size then none
  else
    match workspace.reach next with
    | .ok _ => some next
    | .error .notFound => some next
    | .error _ => none

/-- The way to the file of a database. Unlike in other names, two dots lead back from a directory
that is not there, and a slash at the end means nothing. -/
def databasePath? (workspace : Workspace) (name : FileName) : Option FilePath :=
  (name.parts.foldlM workspace.detour (name.start workspace.home)).filter fun path =>
    path ≠ [] ∧ path.size ≤ FilePath.maxDatabaseSize

/-- Whether the file that a database is to be made like is there. -/
def hasModel (workspace : Workspace) (database : DatabaseName) : Bool :=
  match database.likeFile.map fun octets => workspace.locate (.ofOctets octets) with
  | none => true
  | some (.ok (.vacant _)) => false
  | some (.ok _) => true
  | some (.error _) => false

/-- Opens the file of a database, which is created if need be. A directory can be opened to be read,
but nothing is read from it. -/
def openFile (workspace : Workspace) (path : FilePath) (access : DatabaseAccess) :
    Except DatabaseFault Workspace :=
  match workspace.reach path, access with
  | .ok (.file ..), _ => .ok workspace
  | .ok (.vacant _), .creating => .ok (workspace.put path (.plain []))
  | .ok (.directory _), .readOnly => .error .inputOutput
  | _, _ => .error .noRoom

/-- Finds a database, whatever its file holds. -/
def findDatabase (workspace : Workspace) (database : DatabaseName) :
    Except DatabaseFault (Connection × Workspace) :=
  if database.isTransient then .ok (⟨database, none⟩, workspace)
  else
    match workspace.databasePath? (.ofOctets database.file) with
    | none => .error .noRoom
    | some path =>
      if workspace.hasModel database then
        (workspace.openFile path database.access).map fun workspace =>
          (⟨database, some path⟩, workspace)
      else .error .inputOutput

/-- Opens a database by its name. -/
def connect (workspace : Workspace) (name : String) :
    Except (List String) (Connection × Workspace) :=
  match DatabaseName.read name with
  | .error fault => .error (openFailure name ("database error: " ++ fault.message))
  | .ok database =>
    match workspace.findDatabase database with
    | .ok found => .ok found
    | .error .noRoom =>
      .error (openFailure name (DatabaseFault.noRoom.message ++ ": " ++ name))
    | .error fault => .error (openFailure name fault.message)

end Workspace

end DutyRoster
