import DutyRoster.Database.Extent
import DutyRoster.Exchange.LedgerJson

/-!
# Databases and logs as files

A database with tables is kept in its file as a `DatabaseImage`: the ledger and what the header of
the file says. Its log, if it has one, is a second file beside it, a `ChangeLog`; it holds the
database as the changes have left it, wholly or in part. `octets` is the form that either has in its
file and `ofOctets?` reads it. Of the pages that follow the header the files hold none: the ledger
stands there in JSON after a line of text.
-/

set_option autoImplicit false

namespace DutyRoster

open Json (Value)

/-- A database that has its tables: whether its changes are logged, and how often its first page has
been written. -/
structure DatabaseImage where
  ledger : Ledger := {}
  logged : Bool
  changes : Nat
deriving DecidableEq

/-- The log of a database: the database as it is with the changes in the log, the number of pages
that they have filled, and whether the log holds all of the database, so that it can do without the
file. -/
structure ChangeLog where
  image : DatabaseImage
  size : Nat
  complete : Bool
deriving DecidableEq

namespace DatabaseImage

/-- The header of the file. -/
def header (image : DatabaseImage) : PageHeader :=
  ⟨image.logged, image.changes, image.ledger.pages, true⟩

/-- What comes after the header: the beginning of the list of tables, and a line. -/
def heading : List UInt8 :=
  [13, 0x0E, 0xC4, 0, 7, 0x0B, 0x91, 0] ++ Text.encode "duty roster\n".toList

/-- The file of a database. -/
def octets (image : DatabaseImage) : List UInt8 :=
  image.header.octets ++ heading ++ Text.encode image.ledger.toJson.compact

/-- Reads the file of a database. -/
def ofOctets? (octets : List UInt8) : Option DatabaseImage := do
  let json ← heading.isPrefixOf? (octets.drop DatabasePage.headerSize)
  let ledger ← Ledger.ofJson? (← Value.read? (Text.decode json))
  let page ← BlankPage.read? octets
  some ⟨ledger, page.isLogged, page.changes⟩

end DatabaseImage

namespace ChangeLog

/-- What a log begins with. -/
def mark : List UInt8 :=
  [0x37, 0x7F, 0x06, 0x82]

/-- The file of a log. -/
def octets (log : ChangeLog) : List UInt8 :=
  mark ++ Text.encode (Value.compact <| .record [("ledger", log.image.ledger.toJson),
    ("logged", .bool log.image.logged), ("changes", .integer log.image.changes),
    ("size", .integer log.size), ("complete", .bool log.complete)])

/-- Reads the file of a log. -/
def ofOctets? (octets : List UInt8) : Option ChangeLog := do
  let json ← Value.read? (Text.decode (← mark.isPrefixOf? octets))
  match ← json.fields? ["ledger", "logged", "changes", "size", "complete"] with
  | [some ledger, some (.bool logged), some (.integer changes), some (.integer size),
      some (.bool complete)] =>
    some ⟨⟨← Ledger.ofJson? ledger, logged, changes.toNat⟩, size.toNat, complete⟩
  | _ => none

/-- What the index of a log begins with. -/
def indexMark : List UInt8 :=
  [0x18, 0xE2, 0x2D, 0x00]

end ChangeLog

end DutyRoster
