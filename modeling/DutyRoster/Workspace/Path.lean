import DutyRoster.Text.Octets

/-!
# Names and ways

A name leads to a file part by part, with slashes between the parts. It is followed from the working
directory, or from the root of all files if it begins with a slash. A `FilePath` is the way from the
root that a name stands for: there are no dots in it, so only one way leads to a place.
-/

set_option autoImplicit false

namespace DutyRoster

/-- What a file or directory is called in its directory. -/
abbrev PathPart := List UInt8

/-- The way from the root of all files, one part after the other. -/
abbrev FilePath := List PathPart

/-- The part that stands for the directory reached so far. -/
def PathPart.here : PathPart := [0x2E]

/-- The part that stands for the directory above the one reached so far. -/
def PathPart.above : PathPart := [0x2E, 0x2E]

/-- The largest number of octets that a part may have. -/
def PathPart.maxSize : Nat := 255

namespace FilePath

/-- The number of octets of the name that leads along a way. -/
def size (path : FilePath) : Nat :=
  path.foldr (fun part size => part.length + 1 + size) 0

/-- The way that goes one part further. The root is the directory above itself. -/
def step (path : FilePath) (part : PathPart) : FilePath :=
  if part = .here then path
  else if part = .above then path.dropLast
  else path ++ [part]

/-- All ways that are taken when parts are followed one after the other without a look at what is
there. -/
def stops (path : FilePath) : List PathPart → List FilePath
  | [] => []
  | part :: rest => path.step part :: stops (path.step part) rest

/-- The way to a file beside another one, whose name it takes up and goes on with an ending. -/
def beside (path : FilePath) (ending : String) : FilePath :=
  path.dropLast ++ path.getLast?.toList.map fun part => part ++ Text.encode ending.toList

/-- The name that leads along a way. -/
def name (path : FilePath) : String :=
  "/" ++ "/".intercalate (path.map Text.shown)

end FilePath

/-- A name taken apart. It is `closed` if it ends with a slash, so that it can only mean a
directory. -/
structure FileName where
  rooted : Bool
  parts : List PathPart
  closed : Bool
  size : Nat
deriving DecidableEq

namespace FileName

/-- The largest number of octets that a name may have. -/
def maxSize : Nat := 4095

/-- Takes a name apart. Two slashes in a row are as good as one. -/
def ofOctets (octets : List UInt8) : FileName :=
  { rooted := octets.head? = some 0x2F
    parts := (Text.split 0x2F octets).filter fun part => part ≠ []
    closed := octets.getLast? = some 0x2F
    size := octets.length }

/-- Takes apart a name that is given as text. -/
def ofText (name : String) : FileName :=
  ofOctets (Text.encode name.toList)

/-- The way that a name is followed from, given the working directory. -/
def start (name : FileName) (home : FilePath) : FilePath :=
  if name.rooted then [] else home

/-- The way that a name stands for if nothing is in its way. -/
def path (name : FileName) (home : FilePath) : FilePath :=
  name.parts.foldl FilePath.step (name.start home)

/-- The parts that lead to the directory in which a second file can be put beside the named one. -/
def partsBeside (name : FileName) : List PathPart :=
  (name.parts.filter fun part => part ≠ .here).dropLast

end FileName

end DutyRoster
