import DutyRoster.Database.Page
import DutyRoster.Store.Table

/-!
# How many pages a ledger takes

A log grows by the pages that a change touches, and once it is long enough its content is brought
into the file. So the number of these pages decides when the file shows what the log holds.
`Ledger.pages` counts the pages of a database and `Ledger.pagesTouched` those that a single change
touches.

Only the table of staff is followed over several pages: its rows come in any number from one import,
while the other tables gain at most one row in a run. Its last page is filled row by row, and a row
that finds no room there begins a new page. As soon as there are two such pages, a page above them
lists them. A row that is too large for a page leaves its end on pages of its own.
-/

set_option autoImplicit false

namespace DutyRoster

namespace Extent

/-- The number of octets of a number that is written with seven bits in each of them. -/
def numberSize (n : Nat) : Nat :=
  if n < 128 then 1 else 1 + numberSize (n / 128)

/-- The octets of a page that can hold rows. -/
def pageRoom : Nat :=
  DatabasePage.size - 8

/-- The largest row that is not continued on other pages. -/
def maxRowSize : Nat :=
  DatabasePage.size - 35

/-- The least part of a longer row that stays with the other rows. -/
def minRowStart : Nat :=
  (DatabasePage.size - 12) * 32 / 255 - 23

/-- The part of a continued row that one further page holds. -/
def continuationRoom : Nat :=
  DatabasePage.size - 4

/-- The part of a row that stays with the other rows. -/
def rowStart (size : Nat) : Nat :=
  if size ≤ maxRowSize then size
  else
    let start := minRowStart + (size - minRowStart) % continuationRoom
    if start ≤ maxRowSize then start else minRowStart

/-- The number of pages on which a row is continued. -/
def continuations (size : Nat) : Nat :=
  (size - rowStart size + continuationRoom - 1) / continuationRoom

/-- The size of a text before the text itself. -/
def textMark (text : String) : Nat :=
  numberSize (2 * text.utf8ByteSize + 13)

/-- The size of a row of the table of staff. -/
def staffRowSize (row : EmployeeRow) : Nat :=
  2 + textMark row.name + textMark row.role + row.name.utf8ByteSize + row.role.utf8ByteSize

/-- The room that a row of the table of staff takes on its page. -/
def staffRowRoom (row : EmployeeRow) : Nat :=
  let size := staffRowSize row
  let continued := if continuations size = 0 then 0 else 4
  numberSize size + numberSize row.id.number.toNat + rowStart size + continued + 2

end Extent

open Extent

/-- The pages of the table of staff: those that hold rows, those that rows are continued on, and the
room that is left on the last one for further rows. -/
structure StaffExtent where
  leaves : Nat := 1
  continued : Nat := 0
  room : Nat := pageRoom
deriving DecidableEq

namespace StaffExtent

/-- Adds a row. -/
def add (extent : StaffExtent) (row : EmployeeRow) : StaffExtent :=
  let room := staffRowRoom row
  let continued := extent.continued + continuations (staffRowSize row)
  if room ≤ extent.room then { extent with continued, room := extent.room - room }
  else ⟨extent.leaves + 1, continued, pageRoom - room⟩

/-- The number of pages. -/
def pages (extent : StaffExtent) : Nat :=
  extent.leaves + extent.continued + if extent.leaves = 1 then 0 else 1

/-- The number of pages that the step from one extent to the next one touches: the page of the new
row and the page with the numbers of rows, those that are new, the page above a new page, the page
that had no page above it so far, and the first page if the database grows. -/
def touched (before after : StaffExtent) : Nat :=
  let added := after.continued - before.continued
  if after.leaves = before.leaves then 2 + added + (if added = 0 then 0 else 1)
  else 4 + added + (if before.leaves = 1 then 1 else 0)

end StaffExtent

namespace Ledger

/-- The pages of the table of staff. -/
def staffExtent (ledger : Ledger) : StaffExtent :=
  ledger.employees.foldl StaffExtent.add {}

/-- The number of pages that a ledger takes at least: the list of tables, the four tables, one of
which counts the rows, and the three indexes. -/
def leastPages : Nat := 8

/-- The number of pages that a ledger takes. -/
def pages (ledger : Ledger) : Nat :=
  leastPages - 1 + ledger.staffExtent.pages

/-- The number of pages that are touched when the tables are made. -/
def pagesTouchedAtFirst : Nat := 11

/-- The number of pages that a change touches which leaves the table of staff as it is. A new slot
has a row and an entry in an index, an assignment has a row and entries in two, and new rows are
counted. -/
def pagesTouched (before after : Ledger) : Nat :=
  if before.slots.length < after.slots.length then 6
  else if before.assignments.length < after.assignments.length then 4
  else 3

end Ledger

end DutyRoster
