import DutyRoster.Csv.Reader
import DutyRoster.Text.Octets
import DutyRoster.Roster.Role
import DutyRoster.Exchange.FileFault

/-!
# Importing staff

A staff file is a file of records with a heading. Each further record has as many fields as the
heading; its first field is a name and its second a role, both read without surrounding blanks. The
file is taken as a whole: the first record that is not in order refuses all of it.
-/

set_option autoImplicit false

namespace DutyRoster

/-- A member of staff who has not been registered yet. -/
structure NewEmployee where
  name : String
  role : Role
deriving DecidableEq, Repr

/-- The reasons for which a staff file is refused. Records are counted from 0, the heading
included, in the first two of those that name one, and from 1 without the heading in
`emptyName`. No record is without any field, so that `missingName` is never the reason. -/
inductive ImportError where
  | file (fault : FileFault)
  | fieldCount (record : Nat) (position : Csv.Position) (expected found : Nat)
  | malformedText (record : Nat) (position : Csv.Position) (field validOctets : Nat)
  | missingName
  | missingRole
  | emptyName (row : Nat)
  | unknownRole (name : String) (fault : UnknownRole)
deriving DecidableEq

/-- The wording of a refusal, followed by the wordings of what led to it. -/
def ImportError.causes : ImportError → List String
  | .file fault => [fault.message]
  | .fieldCount record position expected found =>
    [s!"CSV error: record {record} (line: {position.line}, byte: {position.offset}): " ++
      s!"found record with {found} fields, but the previous record has {expected} fields"]
  | .malformedText record position field validOctets =>
    [s!"CSV parse error: record {record} (line {position.line}, field: {field}, " ++
      s!"byte: {position.offset}): invalid utf-8: " ++
      s!"invalid UTF-8 in field {field} near byte index {validOctets}"]
  | .missingName => ["missing name"]
  | .missingRole => ["missing role"]
  | .emptyName row => [s!"invalid employee row {row} (empty name)"]
  | .unknownRole name fault => ["invalid role for " ++ name, fault.message]

/-- The mark that a file may begin with to say that it is UTF-8. -/
def byteOrderMark : List UInt8 := [0xEF, 0xBB, 0xBF]

/-- The records of a file, which may begin with `byteOrderMark`. -/
def fileRecords (octets : List UInt8) : List (Csv.Record UInt8) :=
  if octets.take 3 = byteOrderMark then Csv.records Csv.octetMark ⟨1, 3⟩ (octets.drop 3)
  else Csv.records Csv.octetMark .start octets

/-- The fields of a record as text; otherwise the index of the first field that is not well formed
and the number of octets before its first malformed one. -/
def readFields (index : Nat) : List (List UInt8) → Except (Nat × Nat) (List (List Char))
  | [] => .ok []
  | field :: rest =>
    let decoded := Text.decode field
    match Text.wellFormed? decoded with
    | some text => (readFields (index + 1) rest).map (text :: ·)
    | none => .error (index, Text.validPrefixSize decoded)

/-- A row of a staff file, given its fields as text. Rows are counted from 1. -/
def readStaffRow (row : Nat) : List (List Char) → Except ImportError NewEmployee
  | [] => .error .missingName
  | [_] => .error .missingRole
  | name :: role :: _ =>
    let name := String.ofList (Text.trim name)
    if name.isEmpty then .error (.emptyName row)
    else
      match Role.read (String.ofList role) with
      | .ok role => .ok ⟨name, role⟩
      | .error fault => .error (.unknownRole name fault)

/-- The number of records before the point from which a row is read, and that point. The heading is
read along with the first row, so that the first row is read from the start of the file. -/
def readFrom (row : Nat) (record : Csv.Record UInt8) : Nat × Csv.Position :=
  if row = 1 then (0, .start) else (row, record.position)

/-- Reads a record that has to have `expected` fields. Rows are counted from 1. A row of another
width is reported where it stands, and a malformed one where it was read from. -/
def readStaffRecord (expected row : Nat) (record : Csv.Record UInt8) :
    Except ImportError NewEmployee :=
  if record.fields.length ≠ expected then
    .error (.fieldCount row record.position expected record.fields.length)
  else
    match readFields 0 record.fields with
    | .error (field, valid) =>
      .error (.malformedText (readFrom row record).1 (readFrom row record).2 field valid)
    | .ok fields => readStaffRow row fields

/-- Reads the records after the heading, of which the first is row `row`. -/
def readStaffRecords (expected : Nat) :
    Nat → List (Csv.Record UInt8) → Except ImportError (List NewEmployee)
  | _, [] => .ok []
  | row, record :: rest => do
    let employee ← readStaffRecord expected row record
    let others ← readStaffRecords expected (row + 1) rest
    .ok (employee :: others)

/-- Reads a staff file. -/
def readStaffFile (octets : List UInt8) : Except ImportError (List NewEmployee) :=
  match fileRecords octets with
  | [] => .ok []
  | heading :: rows => readStaffRecords heading.fields.length 1 rows

/-- Loads a staff file, given what looking for it found. -/
def loadStaff (file : Except FileFault (List UInt8)) : Except ImportError (List NewEmployee) :=
  (file.mapError .file).bind readStaffFile

end DutyRoster
