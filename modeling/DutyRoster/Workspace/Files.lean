import DutyRoster.Exchange.FileFault
import DutyRoster.Workspace.Content
import DutyRoster.Workspace.Path

/-!
# The files that the program works on

A workspace is a list of files, each with the way that leads to it. A directory is there if it is
listed, if a file lies in it, or if the working directory does. `Workspace.find` follows a name and
says what it leads to or why it leads nowhere, `Workspace.readFile` reads what it finds, and
`Workspace.writeFile` replaces it.
-/

set_option autoImplicit false

namespace DutyRoster

/-- What a way leads to. -/
inductive Place where
  | file (path : FilePath) (content : FileContent)
  | directory (path : FilePath)
  | vacant (path : FilePath)
deriving DecidableEq

/-- The files around a working directory, and the directories that may be empty. -/
structure Workspace where
  home : FilePath := []
  files : List (FilePath × FileContent) := []
  directories : List FilePath := []
deriving DecidableEq

namespace Workspace

/-- The content of a file. -/
def content? (workspace : Workspace) (path : FilePath) : Option FileContent :=
  (workspace.files.find? fun entry => entry.1 = path).map (·.2)

/-- Whether a directory exists. The root does, and so do the working directory and all above it. -/
def hasDirectory (workspace : Workspace) (path : FilePath) : Bool :=
  path.isPrefixOf workspace.home ||
    (workspace.directories.any fun directory => path.isPrefixOf directory) ||
    workspace.files.any fun entry => path.isPrefixOf entry.1.dropLast

/-- What is found under a part of a name in a directory. -/
def look (workspace : Workspace) (directory : FilePath) (part : PathPart) :
    Except FileFault Place :=
  let path := directory.step part
  if part = .here ∨ part = .above then .ok (.directory path)
  else if PathPart.maxSize < part.length then .error .nameTooLong
  else
    match workspace.content? path with
    | some content => .ok (.file path content)
    | none => .ok (if workspace.hasDirectory path then .directory path else .vacant path)

/-- Goes from a directory to the one under a part of a name. -/
def enter (workspace : Workspace) (directory : FilePath) (part : PathPart) :
    Except FileFault FilePath :=
  match workspace.look directory part with
  | .error fault => .error fault
  | .ok (.directory path) => .ok path
  | .ok (.file ..) => .error .notDirectory
  | .ok (.vacant _) => .error .notFound

/-- Goes from a directory through others. -/
def walk (workspace : Workspace) : FilePath → List PathPart → Except FileFault FilePath
  | directory, [] => .ok directory
  | directory, part :: rest =>
    match workspace.enter directory part with
    | .error fault => .error fault
    | .ok next => workspace.walk next rest

/-- What a way leads to. -/
def reach (workspace : Workspace) (path : FilePath) : Except FileFault Place :=
  match path.getLast? with
  | none => .ok (.directory [])
  | some part =>
    (workspace.walk [] path.dropLast).bind fun directory => workspace.look directory part

/-- The directory in which the last part of a name is looked for, and that part; there is none in
the name of the root. An empty name leads nowhere. -/
def approach (workspace : Workspace) (name : FileName) :
    Except FileFault (FilePath × Option PathPart) :=
  if name.size = 0 then .error .notFound
  else if FileName.maxSize < name.size then .error .nameTooLong
  else
    (workspace.walk (name.start workspace.home) name.parts.dropLast).map fun directory =>
      (directory, name.parts.getLast?)

/-- What a name leads to. -/
def locate (workspace : Workspace) (name : FileName) : Except FileFault Place :=
  match workspace.approach name with
  | .error fault => .error fault
  | .ok (_, none) => .ok (.directory [])
  | .ok (directory, some part) =>
    match workspace.look directory part with
    | .ok (.file path content) =>
      if name.closed then .error .notDirectory else .ok (.file path content)
    | place => place

/-- The content of the file that a name leads to. -/
def find (workspace : Workspace) (name : FileName) : Except FileFault FileContent :=
  match workspace.locate name with
  | .error fault => .error fault
  | .ok (.directory _) => .error .isDirectory
  | .ok (.vacant _) => .error .notFound
  | .ok (.file _ content) => .ok content

/-- Reads a file. -/
def readFile (workspace : Workspace) (name : String) : Except FileFault (List UInt8) :=
  (workspace.find (.ofText name)).map FileContent.octets

/-- Puts content into a file that can be there. -/
def put (workspace : Workspace) (path : FilePath) (content : FileContent) : Workspace :=
  { workspace with
    files := workspace.files.filter (fun entry => entry.1 ≠ path) ++ [(path, content)] }

/-- Takes a file away. -/
def remove (workspace : Workspace) (path : FilePath) : Workspace :=
  { workspace with files := workspace.files.filter fun entry => entry.1 ≠ path }

/-- The way to the file that another can be moved to under a name. What is moved there is no
directory, so the name may not be one that only a directory can have. -/
def target (workspace : Workspace) (name : FileName) : Except FileFault FilePath :=
  match workspace.approach name with
  | .error fault => .error fault
  | .ok (_, none) => .error .busy
  | .ok (directory, some part) =>
    if part = .here ∨ part = .above then .error .busy
    else
      match workspace.look directory part with
      | .error fault => .error fault
      | .ok (.directory _) => .error (if name.closed then .notDirectory else .isDirectory)
      | .ok (.vacant path) => if name.closed then .error .notDirectory else .ok path
      | .ok (.file path _) => if name.closed then .error .notDirectory else .ok path

/-- Replaces a file by way of a second one beside it, which is written first and then moved. The
wordings of what went wrong come outermost first. -/
def writeFile (workspace : Workspace) (name : String) (octets : List UInt8) :
    Except (List String) Workspace :=
  let parsed := FileName.ofText name
  match workspace.walk (parsed.start workspace.home) parsed.partsBeside with
  | .error fault => .error ["creating temp file", fault.message]
  | .ok _ =>
    match workspace.target parsed with
    | .error fault =>
      .error ["atomic rename to " ++ name, "failed to persist temporary file: " ++ fault.message,
        fault.message]
    | .ok path => .ok (workspace.put path (.plain octets))

end Workspace

end DutyRoster
