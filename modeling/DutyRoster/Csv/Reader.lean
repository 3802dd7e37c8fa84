/-!
# Reading comma-separated records

A file of records is read symbol by symbol, whether its symbols are characters or octets: `Mark`
tells the five of them that mean something. Fields are separated by commas. A record ends at a line
feed, a carriage return, or the end of the file; further line ends before the next record are
skipped, so empty lines are not records. A field that begins with a quote goes on to the next single
quote, whatever it contains, and a doubled quote in it stands for one; after the closing quote, and
in a field that does not begin with a quote, all other symbols stand for themselves.
-/

set_option autoImplicit false

namespace DutyRoster.Csv

/-- The meaning of a symbol in a file of records. -/
inductive Mark where
  | comma
  | quote
  | lineFeed
  | carriageReturn
  | plain
deriving DecidableEq, Repr

/-- The meaning of a character. -/
def charMark (c : Char) : Mark :=
  if c = ',' then .comma
  else if c = '"' then .quote
  else if c = '\n' then .lineFeed
  else if c = '\r' then .carriageReturn
  else .plain

/-- The meaning of an octet. -/
def octetMark (octet : UInt8) : Mark :=
  if octet = 0x2C then .comma
  else if octet = 0x22 then .quote
  else if octet = 0x0A then .lineFeed
  else if octet = 0x0D then .carriageReturn
  else .plain

/-- A position in a file: the line, counted from 1 by line feeds, and the number of symbols before
it. -/
structure Position where
  line : Nat
  offset : Nat
deriving DecidableEq, Repr

/-- The start of a file. -/
def Position.start : Position := ⟨1, 0⟩

/-- The position after a symbol. -/
def Position.after (position : Position) (mark : Mark) : Position :=
  ⟨if mark = .lineFeed then position.line + 1 else position.line, position.offset + 1⟩

/-- A record: its fields and the position right after the record before it. -/
structure Record (σ : Type) where
  position : Position
  fields : List (List σ)

/-- Where a reader stands: before a record, at the start of a field, in a field without quotes, in a
quoted field, or after a quote in a quoted field. -/
inductive Place where
  | betweenRecords
  | fieldStart
  | bare
  | quoted
  | afterQuote
deriving DecidableEq, Repr

variable {σ : Type}

/-- Reads records from a given place on. `position` is where the present record began and `cursor`
where the reader is; `field` and `fields` hold what has been read of the record, last things
first. -/
def recordsFrom (mark : σ → Mark) (place : Place) (position cursor : Position) (field : List σ)
    (fields : List (List σ)) : List σ → List (Record σ)
  | [] =>
    if place = .betweenRecords then [] else [⟨position, (field.reverse :: fields).reverse⟩]
  | symbol :: rest =>
    let next := cursor.after (mark symbol)
    match place, mark symbol with
    | .betweenRecords, .lineFeed => recordsFrom mark .betweenRecords position next [] [] rest
    | .betweenRecords, .carriageReturn => recordsFrom mark .betweenRecords position next [] [] rest
    | .betweenRecords, .quote => recordsFrom mark .quoted position next [] [] rest
    | .fieldStart, .quote => recordsFrom mark .quoted position next [] fields rest
    | .quoted, .quote => recordsFrom mark .afterQuote position next field fields rest
    | .quoted, _ => recordsFrom mark .quoted position next (symbol :: field) fields rest
    | .afterQuote, .quote => recordsFrom mark .quoted position next (symbol :: field) fields rest
    | _, .comma => recordsFrom mark .fieldStart position next [] (field.reverse :: fields) rest
    | _, .lineFeed =>
      ⟨position, (field.reverse :: fields).reverse⟩ ::
        recordsFrom mark .betweenRecords next next [] [] rest
    | _, .carriageReturn =>
      ⟨position, (field.reverse :: fields).reverse⟩ ::
        recordsFrom mark .betweenRecords next next [] [] rest
    | _, _ => recordsFrom mark .bare position next (symbol :: field) fields rest

/-- The records of a file whose first symbol stands at `origin`. -/
def records (mark : σ → Mark) (origin : Position) (file : List σ) : List (Record σ) :=
  recordsFrom mark .betweenRecords origin origin [] [] file

end DutyRoster.Csv
