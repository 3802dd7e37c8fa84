import DutyRoster.Text.Octets

/-!
# The first page of a database file

A database file is a row of pages of one size. The first page begins with a header of 100 octets,
which says how large the pages are and how the file is kept, and goes on with the list of tables.
`PageHeader.octets` writes the header of a file that the program has made. `BlankPage.read?` makes
out whether something else is the file of a database without any table, and `BlankPage.turnedToLog`
turns such a file into one whose changes are logged.
-/

set_option autoImplicit false

namespace DutyRoster

/-- Why the content of a database cannot be used. -/
inductive DatabaseFault where
  | noDatabase
  | malformed
  | unknownFormat
  | readOnly
  | noRoom
  | inputOutput
  | locked
  | unsettling
deriving DecidableEq, Repr

/-- The wording of a fault. -/
def DatabaseFault.message : DatabaseFault → String
  | .noDatabase => "database error: file is not a database"
  | .malformed => "database error: database disk image is malformed"
  | .unknownFormat => "database error: unsupported file format"
  | .readOnly => "database error: attempt to write a readonly database"
  | .noRoom => "database error: unable to open database file"
  | .inputOutput => "database error: disk I/O error"
  | .unsettling => "database error: locking protocol"
  | .locked => "storage timed out waiting for the database lock"

namespace DatabasePage

/-- What every database file begins with. -/
def mark : List UInt8 :=
  Text.encode "SQLite format 3\x00".toList

/-- The size of the pages of a new database. -/
def size : Nat := 4096

/-- The size of the header. -/
def headerSize : Nat := 100

/-- The release of the file format's own program that counts as the last writer of a file. -/
def writerRelease : Nat := 3045000

/-- A number in a given number of octets, the highest first. -/
def number : Nat → Nat → List UInt8
  | 0, _ => []
  | width + 1, n => number width (n / 256) ++ [UInt8.ofNat n]

/-- The octet at a place; beyond the end there are zeros. -/
def octetAt (octets : List UInt8) (place : Nat) : Nat :=
  (octets[place]?.getD 0).toNat

/-- The number in the octets from a place on. -/
def numberAt (octets : List UInt8) (place : Nat) : Nat → Nat
  | 0 => 0
  | width + 1 => 256 * numberAt octets place width + octetAt octets (place + width)

/-- Puts octets into the place of others. -/
def overwrite (octets : List UInt8) (place : Nat) (new : List UInt8) : List UInt8 :=
  octets.take place ++ new ++ octets.drop (place + new.length)

/-- Octets followed by zeros up to a size. -/
def padded (octets : List UInt8) (size : Nat) : List UInt8 :=
  octets ++ List.replicate (size - octets.length) 0

/-- Zeros. -/
def zeros (count : Nat) : List UInt8 :=
  List.replicate count 0

end DatabasePage

open DatabasePage

/-- What the header of a database file says: whether changes are logged, how often the first page
has been written, how many pages there are, and whether there are tables. -/
structure PageHeader where
  logged : Bool
  changes : Nat
  pages : Nat
  hasTables : Bool
deriving DecidableEq

/-- The octets of a header. -/
def PageHeader.octets (header : PageHeader) : List UInt8 :=
  let kind := if header.logged then 2 else 1
  let format := number 4 (if header.hasTables then 4 else 0)
  let encoding := number 4 (if header.hasTables then 1 else 0)
  mark ++ number 2 DatabasePage.size ++ [kind, kind, 0, 64, 32, 32] ++
    number 4 header.changes ++ number 4 header.pages ++ zeros 8 ++ format ++ format ++ zeros 8 ++
    encoding ++ zeros 32 ++ number 4 header.changes ++ number 4 writerRelease

/-- The only page of a database that has no tables yet. -/
def blankPage : List UInt8 :=
  padded (PageHeader.octets ⟨true, 1, 1, false⟩ ++ [13, 0, 0, 0, 0, 16, 0, 0]) DatabasePage.size

/-- The file of a database without tables, as its octets. -/
structure BlankPage where
  octets : List UInt8
deriving DecidableEq

namespace BlankPage

/-- Whether changes are logged. -/
def isLogged (page : BlankPage) : Bool :=
  octetAt page.octets 19 = 2

/-- Whether the file can be changed by the rules known here. -/
def isWritable (page : BlankPage) : Bool :=
  octetAt page.octets 18 ≤ 2

/-- How often the first page has been written. -/
def changes (page : BlankPage) : Nat :=
  numberAt page.octets 24 4

/-- The size of the pages. The largest one has no room in the two octets that are meant for it. -/
def pageSize (page : BlankPage) : Nat :=
  octetAt page.octets 16 * 256 + octetAt page.octets 17 * 65536

/-- The sizes that pages can have. -/
def pageSizes : List Nat :=
  [512, 1024, 2048, 4096, 8192, 16384, 32768, 65536]

/-- The part of a page that is in use. -/
def usableSize (page : BlankPage) : Nat :=
  page.pageSize - octetAt page.octets 20

/-- The number of pages that the file has room for. -/
def pagesThere (page : BlankPage) : Nat :=
  (page.octets.length + page.pageSize - 1) / page.pageSize

/-- The number of pages that the header tells, if it is known to be up to date. -/
def pages (page : BlankPage) : Nat :=
  let told := numberAt page.octets 28 4
  if told = 0 ∨ page.changes ≠ numberAt page.octets 92 4 then page.pagesThere else told

/-- Takes octets for the file of a database, as far as the first look at them tells. -/
def read? (octets : List UInt8) : Option BlankPage :=
  if mark.isPrefixOf octets ∧ octetAt octets 19 ≤ 2 then some ⟨octets⟩ else none

/-- What is found to be wrong when the list of tables is read. -/
def fault? (page : BlankPage) : Option DatabaseFault :=
  if (page.octets.drop 21).take 3 ≠ [64, 32, 32] ∨ page.pageSize ∉ pageSizes then some .noDatabase
  else if page.pagesThere < page.pages then some .malformed
  else if page.usableSize < 480 then some .noDatabase
  else if 4 < octetAt page.octets 47 then some .unknownFormat
  else if octetAt page.octets 100 ≠ 13 ∨ numberAt page.octets 103 2 ≠ 0 then some .malformed
  else none

/-- The last page that a table begins on, in a file that keeps free pages at its end; 0 in
others. -/
def lastRoot (page : BlankPage) : Nat :=
  numberAt page.octets 52 4

/-- Whether tables can be added to the list of tables: no page may be marked as free, the last page
that a table begins on has to be the last of all, and the room on the first page has to be possible.
A second page that only tells where others belong does not count. -/
def isSound (page : BlankPage) : Bool :=
  let room := octetAt page.octets 107 + (numberAt page.octets 105 2 + 65535) % 65536 + 1
  let rootFits := page.lastRoot = 0 ∨ page.lastRoot = page.pages ∨
    page.pages = 2 ∧ page.lastRoot ≤ 2
  numberAt page.octets 36 4 = 0 ∧ rootFits ∧ numberAt page.octets 101 2 = 0 ∧ 108 ≤ room ∧
    room ≤ page.usableSize

/-- Whether the header alone can be changed. A file must not end with a page that tells where others
belong. -/
def allowsNewHeader (page : BlankPage) : Bool :=
  !(page.lastRoot ≠ 0 && page.pages = 2)

/-- The same file with its changes logged from now on. -/
def turnedToLog (page : BlankPage) : BlankPage :=
  let octets := padded page.octets page.pageSize
  let octets := overwrite octets 18 [2, 2]
  let octets := overwrite octets 24 (number 4 (page.changes + 1) ++ number 4 page.pages)
  ⟨overwrite octets 92 (number 4 (page.changes + 1) ++ number 4 writerRelease)⟩

end BlankPage

end DutyRoster
