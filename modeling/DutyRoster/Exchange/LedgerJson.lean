import DutyRoster.Store.Table
import DutyRoster.Json.Field

/-!
# Ledgers as JSON

A ledger is an object with the rows of each table and the number of identifiers set aside for each,
of which whatever is empty is left out.
-/

set_option autoImplicit false

namespace DutyRoster

open Json (Value)

/-- A cell as JSON. -/
def Cell.toJson : Cell → Value
  | .integer value => .integer value
  | .text content => .str content

/-- Reads a cell. -/
def Cell.ofJson? : Value → Option Cell
  | .integer value => some (.integer value)
  | .string content => content.map .text
  | _ => none

/-- A row of the table of staff as JSON. -/
def EmployeeRow.toJson (row : EmployeeRow) : Value :=
  .array [.integer row.id.number, .str row.name, .str row.role]

/-- Reads a row of the table of staff. -/
def EmployeeRow.ofJson? : Value → Option EmployeeRow
  | .array [.integer id, .string (some name), .string (some role)] => some ⟨⟨id⟩, name, role⟩
  | _ => none

/-- A row of the table of slots as JSON. -/
def SlotRow.toJson (row : SlotRow) : Value :=
  .array [.integer row.id.number, .str row.date, row.number.toJson]

/-- Reads a row of the table of slots. -/
def SlotRow.ofJson? : Value → Option SlotRow
  | .array [.integer id, .string (some date), number] =>
    (Cell.ofJson? number).map fun number => ⟨⟨id⟩, date, number⟩
  | _ => none

/-- A row of the table of assignments as JSON. -/
def AssignmentRow.toJson (row : AssignmentRow) : Value :=
  .array [.integer row.id.number, .integer row.employee.number, .integer row.slot.number,
    .str row.role]

/-- Reads a row of the table of assignments. -/
def AssignmentRow.ofJson? : Value → Option AssignmentRow
  | .array [.integer id, .integer employee, .integer slot, .string (some role)] =>
    some ⟨⟨id⟩, ⟨employee⟩, ⟨slot⟩, role⟩
  | _ => none

/-- Reads the rows of a table. -/
def rowsOfJson? {α : Type} (row : Value → Option α) : Value → Option (List α)
  | .array rows => rows.mapM row
  | _ => none

/-- Reads the number of identifiers set aside for a table. -/
def issuedOfJson? : Value → Option Nat
  | .integer count => some count.toNat
  | _ => none

/-- The rows of a table as a member of a ledger. -/
def tableMember {α : Type} (name : String) (row : α → Value) (rows : List α) :
    List (String × Value) :=
  if rows.isEmpty then [] else [(name, .array (rows.map row))]

/-- The number of identifiers set aside for a table as a member of a ledger. -/
def issuedMember (name : String) (count : Nat) : List (String × Value) :=
  if count = 0 then [] else [(name, .integer count)]

/-- A ledger as JSON. -/
def Ledger.toJson (ledger : Ledger) : Value :=
  .record (tableMember "staff" EmployeeRow.toJson ledger.employees ++
    tableMember "slots" SlotRow.toJson ledger.slots ++
    tableMember "assignments" AssignmentRow.toJson ledger.assignments ++
    issuedMember "staff_issued" ledger.employeesIssued ++
    issuedMember "slots_issued" ledger.slotsIssued ++
    issuedMember "assignments_issued" ledger.assignmentsIssued)

/-- Reads a ledger. -/
def Ledger.ofJson? (value : Value) : Option Ledger := do
  match ← value.fields? ["staff", "slots", "assignments", "staff_issued", "slots_issued",
      "assignments_issued"] with
  | [staff, slots, assignments, m, n, k] =>
    some ⟨← Json.fieldOr [] (rowsOfJson? EmployeeRow.ofJson?) staff,
      ← Json.fieldOr [] (rowsOfJson? SlotRow.ofJson?) slots,
      ← Json.fieldOr [] (rowsOfJson? AssignmentRow.ofJson?) assignments,
      ← Json.fieldOr 0 issuedOfJson? m, ← Json.fieldOr 0 issuedOfJson? n,
      ← Json.fieldOr 0 issuedOfJson? k⟩
  | _ => none

end DutyRoster
