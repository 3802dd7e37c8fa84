import DutyRoster.Database.Image

/-!
# What files hold

Most files hold plain octets. The files of a database that this library keeps are known for what
they are: `FileContent.ofOctets` makes them out and `FileContent.octets` is how they are written.
-/

set_option autoImplicit false

namespace DutyRoster

/-- What a file holds: plain octets, a database, its log, or the index of a log. A device is always
empty and keeps nothing that is written to it. -/
inductive FileContent where
  | plain (octets : List UInt8)
  | device
  | database (image : DatabaseImage)
  | log (log : ChangeLog)
  | index
deriving DecidableEq

namespace FileContent

/-- The content of a file as octets. -/
def octets : FileContent → List UInt8
  | .plain octets => octets
  | .device => []
  | .database image => image.octets
  | .log kept => kept.octets
  | .index => ChangeLog.indexMark

/-- What octets stand for. -/
def ofOctets (octets : List UInt8) : FileContent :=
  if octets = ChangeLog.indexMark then .index
  else
    match DatabaseImage.ofOctets? octets, ChangeLog.ofOctets? octets with
    | some image, _ => .database image
    | none, some kept => .log kept
    | none, none => .plain octets

/-- Whether a file has no pages if it is taken for a database; one octet makes no page. -/
def hasNoPages : FileContent → Bool
  | .plain [] => true
  | .plain [_] => true
  | .device => true
  | _ => false

end FileContent

end DutyRoster
