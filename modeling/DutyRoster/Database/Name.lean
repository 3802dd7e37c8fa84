import DutyRoster.Text.Octets
import DutyRoster.Text.PercentEscape

/-!
# Names of databases

A database is named by its file, or by an address that begins with `file:`. An address can be
followed by options, after a question mark and with `&` between them, and everything after a `#`
means nothing. The options say how the database is to be used; those that are not known mean nothing
either. An address that makes no sense is refused, and `DatabaseNameFault` lists the reasons.

A database without a file is transient: it is new in every run and kept nowhere.
-/

set_option autoImplicit false

namespace DutyRoster

/-- How a database is to be used: only read, changed if it exists, created if need be, or kept
nowhere. -/
inductive DatabaseAccess where
  | readOnly
  | existing
  | creating
  | transient
deriving DecidableEq, Repr

/-- Whether an option may ask for an access after another one has been settled on. It may not go
further, but a transient database leaves everything open. -/
def DatabaseAccess.allows (granted asked : DatabaseAccess) : Bool :=
  match granted, asked with
  | .creating, _ => true
  | .transient, _ => true
  | _, .creating => false
  | .readOnly, .existing => false
  | _, _ => true

/-- How other users of a database are kept out: by locks on ranges of its file, by the same locks
held as if there were no other user at all, by a second file, or not. -/
inductive Locking where
  | ranges
  | alone
  | lockFile
  | unlocked
deriving DecidableEq, Repr

/-- Whether changes can be kept in a log beside the file. -/
def Locking.allowsLog : Locking → Bool
  | .ranges => true
  | .alone => true
  | _ => false

/-- The database that a name stands for. One that is not `stored` has no file, whatever it is
called. What a `frozen` one holds is taken from its file alone and cannot be changed. With
`indexReadOnly` the index of its log is used as it is found, and `likeFile`, if it is given, names a
file whose owner and permissions the files of the database are to have. -/
structure DatabaseName where
  file : List UInt8
  access : DatabaseAccess := .creating
  stored : Bool := true
  locking : Locking := .ranges
  frozen : Bool := false
  indexReadOnly : Bool := false
  likeFile : Option (List UInt8) := none
deriving DecidableEq

/-- The reasons for which an address makes no sense. -/
inductive DatabaseNameFault where
  | host (text : String)
  | cacheMode (text : String)
  | accessMode (text : String)
  | accessBeyond (text : String)
  | storageKind (text : String)
deriving DecidableEq, Repr

/-- The wording of a fault. -/
def DatabaseNameFault.message : DatabaseNameFault → String
  | .host text => "invalid uri authority: " ++ text
  | .cacheMode text => "no such cache mode: " ++ text
  | .accessMode text => "no such access mode: " ++ text
  | .accessBeyond text => "access mode not allowed: " ++ text
  | .storageKind text => "no such vfs: " ++ text

namespace DatabaseName

/-- The octets of a word of an address. -/
def word (text : String) : List UInt8 :=
  Text.encode text.toList

/-- The accesses that can be asked for, by name. -/
def accessModes : List (List UInt8 × DatabaseAccess) :=
  [(word "ro", .readOnly), (word "rw", .existing), (word "rwc", .creating),
    (word "memory", .transient)]

/-- The ways of sharing what has been read, which make no difference to a single run. -/
def cacheModes : List (List UInt8) :=
  [word "shared", word "private"]

/-- The ways of storing a database, by name. All but one store it in a file. -/
def storageKinds : List (List UInt8 × Option Locking) :=
  [(word "unix", some .ranges), (word "unix-excl", some .alone), (word "unix-none", some .unlocked),
    (word "unix-dotfile", some .lockFile), (word "memdb", none)]

/-- The words that an option says yes with. -/
def affirmations : List String :=
  ["on", "yes", "true"]

/-- Whether a name names nothing: a database opened by it is new and is lost in the end, however
databases are stored. -/
def isNameless (name : DatabaseName) : Bool :=
  name.access = .transient || name.file = [] || name.file = word ":memory:"

/-- Whether no file belongs to a name. -/
def isTransient (name : DatabaseName) : Bool :=
  !name.stored || name.isNameless

/-- Whether a database can be changed as far as its name says. Only one with a name can be
frozen. -/
def isWritable (name : DatabaseName) : Bool :=
  name.access ≠ .readOnly && !(name.frozen && !name.isNameless)

/-- Whether the index of the log is kept nowhere because there is no other user. Who only reads
cannot keep others out. -/
def keepsIndexInMemory (name : DatabaseName) : Bool :=
  name.locking = .alone && name.access ≠ .readOnly

/-- What follows the place where an address may name a host, which has to be this one. -/
def dropHost (octets : List UInt8) : Except DatabaseNameFault (List UInt8) :=
  match (word "//").isPrefixOf? octets with
  | none => .ok octets
  | some rest =>
    let host := rest.takeWhile fun octet => octet != 0x2F
    if host = [] ∨ host = word "localhost" then .ok (rest.drop host.length)
    else .error (.host (Text.shown host))

/-- Whether an octet is a decimal digit. -/
def isDigit (octet : UInt8) : Bool :=
  0x30 ≤ octet ∧ octet ≤ 0x39

/-- Splits octets at the first place of a separator, which belongs to neither part. -/
def cut (separator : UInt8) (octets : List UInt8) : List UInt8 × List UInt8 :=
  (octets.takeWhile fun octet => octet != separator,
    (octets.dropWhile fun octet => octet != separator).drop 1)

/-- Reads an option, a name and its value. One without a name means nothing. -/
def readOption? (octets : List UInt8) : Option (List UInt8 × List UInt8) :=
  let (name, value) := cut 0x3D octets
  if Text.readEscaped name = [] then none
  else some (Text.readEscaped name, Text.readEscaped value)

/-- The access that is left after an option. -/
def heed (access : DatabaseAccess) (option : List UInt8 × List UInt8) :
    Except DatabaseNameFault DatabaseAccess :=
  let (name, value) := option
  if name = word "cache" then
    if value ∈ cacheModes then .ok access else .error (.cacheMode (Text.shown value))
  else if name = word "mode" then
    match accessModes.find? fun mode => mode.1 = value with
    | none => .error (.accessMode (Text.shown value))
    | some (_, asked) =>
      if access.allows asked then .ok asked else .error (.accessBeyond (Text.shown value))
  else .ok access

/-- The value of a digit, decimal or hexadecimal. -/
def digitValue (octet : UInt8) : Nat :=
  ((Text.hexValue? octet).getD 0).toNat

/-- The value of a run of digits, zero if it is so long or so large that no word of 32 bits with a
sign holds it. -/
def wordValue (base maxLength : Nat) (digits : List UInt8) : Nat :=
  let digits := digits.dropWhile fun digit => digit = 0x30
  let value := digits.foldl (fun value digit => base * value + digitValue digit) 0
  if maxLength < digits.length ∨ 2147483647 < value then 0 else value

/-- The number that a value begins with, in decimal digits or, after a zero and an x, in hexadecimal
ones. -/
def leadingNumber : List UInt8 → Nat
  | 0x30 :: x :: rest =>
    if (x = 0x78 ∨ x = 0x58) ∧ (rest.head?.bind Text.hexValue?).isSome then
      wordValue 16 8 (rest.takeWhile fun octet => (Text.hexValue? octet).isSome)
    else wordValue 10 10 ((x :: rest).takeWhile isDigit)
  | octets => wordValue 10 10 (octets.takeWhile isDigit)

/-- Whether the value of an option says yes: a number does unless its last octet is zero. -/
def saysYes (value : List UInt8) : Bool :=
  match value with
  | [] => false
  | first :: _ =>
    if isDigit first then leadingNumber value % 256 ≠ 0
    else String.ofList ((Text.shown value).toList.map Char.toLower) ∈ affirmations

/-- The value of the first option of a given name. -/
def firstValue? (options : List (List UInt8 × List UInt8)) (name : String) :
    Option (List UInt8) :=
  (options.find? fun option => option.1 = word name).map (·.2)

/-- Whether the first option of a given name says yes. -/
def affirms (options : List (List UInt8 × List UInt8)) (name : String) : Bool :=
  (firstValue? options name).any saysYes

/-- The locking that the last option to choose a way of storing leaves to the database, or none if
that leaves it no file. -/
def storage (options : List (List UInt8 × List UInt8)) :
    Except DatabaseNameFault (Option Locking) :=
  match (options.filter fun option => option.1 = word "vfs").getLast? with
  | none => .ok (some .ranges)
  | some (_, kind) =>
    match storageKinds.find? fun known => known.1 = kind with
    | some (_, locking) => .ok locking
    | none => .error (.storageKind (Text.shown kind))

/-- Reads an address, without the `file:` that it begins with. -/
def ofAddress (octets : List UInt8) : Except DatabaseNameFault DatabaseName := do
  let (file, query) := cut 0x3F (cut 0x23 (← dropHost octets)).1
  let options := (Text.split 0x26 query).filterMap readOption?
  let access ← options.foldlM heed .creating
  let locking ← storage options
  .ok {
    file := Text.readEscaped file
    access
    stored := locking.isSome
    locking := if affirms options "nolock" then .unlocked else locking.getD .ranges
    frozen := affirms options "immutable"
    indexReadOnly := affirms options "readonly_shm"
    likeFile := firstValue? options "modeof" }

/-- Reads the name of a database. -/
def read (name : String) : Except DatabaseNameFault DatabaseName :=
  match (word "file:").isPrefixOf? (word name) with
  | some address => ofAddress address
  | none => .ok { file := word name }

end DatabaseName

end DutyRoster
