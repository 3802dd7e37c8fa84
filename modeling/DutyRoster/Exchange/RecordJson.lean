import DutyRoster.Json.Field
import DutyRoster.Roster.Records
import DutyRoster.Rules.Options
import DutyRoster.Scheduler.Availability

/-!
# The records of the roster as JSON

Identifiers are numbers of 64 bits, slots their numbers, roles and dates strings, and everything
else objects whose members come in a fixed order. Each kind of value is written by `toJson` and
read by `ofJson?`. Reading is as generous as the form of the record allows (`Json.Field`); dates are
read in the loose form.
-/

set_option autoImplicit false

namespace DutyRoster

open Json (Value)

/-- An identifier of staff as JSON. -/
def EmployeeId.toJson (id : EmployeeId) : Value := .integer id.number

/-- Reads an identifier of staff. -/
def EmployeeId.ofJson? (value : Value) : Option EmployeeId := value.signed64?.map EmployeeId.mk

/-- An identifier of a slot as JSON. -/
def SlotId.toJson (id : SlotId) : Value := .integer id.number

/-- Reads an identifier of a slot. -/
def SlotId.ofJson? (value : Value) : Option SlotId := value.signed64?.map SlotId.mk

/-- An identifier of an assignment as JSON. -/
def AssignmentId.toJson (id : AssignmentId) : Value := .integer id.number

/-- Reads an identifier of an assignment. -/
def AssignmentId.ofJson? (value : Value) : Option AssignmentId :=
  value.signed64?.map AssignmentId.mk

/-- A role as JSON. -/
def Role.toJson (role : Role) : Value := .str role.name

/-- The role with exactly the given name. -/
def Role.ofName? (name : String) : Option Role :=
  Role.all.find? fun role => role.name = name

/-- Reads a role: its name as a string, or an object whose only member has that name and is
`null`. -/
def Role.ofJson? : Value → Option Role
  | .string content => content.bind Role.ofName?
  | .object [(name, .null)] => name.bind Role.ofName?
  | _ => none

/-- A slot as JSON. -/
def SlotNumber.toJson (slot : SlotNumber) : Value := .integer slot.number

/-- Reads a slot. -/
def SlotNumber.ofJson? (value : Value) : Option SlotNumber :=
  (value.integerWithin? 0 255).bind fun n => SlotNumber.ofNumber? n.toNat

/-- A date as JSON. -/
def Date.toJson (date : Date) : Value := .str date.text

/-- Reads a date. -/
def Date.ofJson? (value : Value) : Option Date :=
  value.string?.bind fun text => (Date.read true text.toList).toOption

/-- A member of staff as JSON. -/
def Employee.toJson (employee : Employee) : Value :=
  .record [("id", employee.id.toJson), ("name", .str employee.name),
    ("role", employee.role.toJson)]

/-- Reads a member of staff. -/
def Employee.ofJson? (value : Value) : Option Employee := do
  match ← value.fields? ["id", "name", "role"] with
  | [some id, some name, some role] =>
    some ⟨← EmployeeId.ofJson? id, ← name.string?, ← Role.ofJson? role⟩
  | _ => none

/-- A slot of a day as JSON. -/
def ShiftSlot.toJson (slot : ShiftSlot) : Value :=
  .record [("id", slot.id.toJson), ("date", slot.date.toJson), ("number", slot.number.toJson)]

/-- Reads a slot of a day. -/
def ShiftSlot.ofJson? (value : Value) : Option ShiftSlot := do
  match ← value.fields? ["id", "date", "number"] with
  | [some id, some date, some number] =>
    some ⟨← SlotId.ofJson? id, ← Date.ofJson? date, ← SlotNumber.ofJson? number⟩
  | _ => none

/-- An assignment as JSON. -/
def Assignment.toJson (a : Assignment) : Value :=
  .record [("id", a.id.toJson), ("employee", a.employee.toJson), ("slot", a.slot.toJson),
    ("date", a.date.toJson), ("number", a.number.toJson), ("role", a.role.toJson)]

/-- Reads an assignment. -/
def Assignment.ofJson? (value : Value) : Option Assignment := do
  match ← value.fields? ["id", "employee", "slot", "date", "number", "role"] with
  | [some id, some employee, some slot, some date, some number, some role] =>
    some ⟨← AssignmentId.ofJson? id, ← EmployeeId.ofJson? employee, ← SlotId.ofJson? slot,
      ← Date.ofJson? date, ← SlotNumber.ofJson? number, ← Role.ofJson? role⟩
  | _ => none

/-- A table of capacities as JSON. -/
def CapacityTable.toJson (table : CapacityTable) : Value :=
  .record [("medic", .integer table.medic.toNat), ("technical", .integer table.technical.toNat),
    ("administrator", .integer table.administrator.toNat)]

/-- Reads a table of capacities; what it leaves out has its default. -/
def CapacityTable.ofJson? (value : Value) : Option CapacityTable := do
  let base : CapacityTable := {}
  match ← value.fields? ["medic", "technical", "administrator"] with
  | [medic, technical, administrator] =>
    some ⟨← Json.fieldOr base.medic Value.unsigned32? medic,
      ← Json.fieldOr base.technical Value.unsigned32? technical,
      ← Json.fieldOr base.administrator Value.unsigned32? administrator⟩
  | _ => none

/-- The settings of a roster as JSON. -/
def RosterConfig.toJson (config : RosterConfig) : Value :=
  .record [("capacity", config.capacity.toJson),
    ("max_consecutive_days", .integer config.maxConsecutiveDays.toNat),
    ("booking_horizon_months", .integer config.bookingHorizonMonths.toNat),
    ("storage_timeout_ms", .integer config.storageTimeoutMs.toNat)]

/-- Reads the settings of a roster; what they leave out has its default. -/
def RosterConfig.ofJson? (value : Value) : Option RosterConfig := do
  let base : RosterConfig := {}
  match ← value.fields? ["capacity", "max_consecutive_days", "booking_horizon_months",
      "storage_timeout_ms"] with
  | [capacity, days, months, timeout] =>
    some ⟨← Json.fieldOr base.capacity CapacityTable.ofJson? capacity,
      ← Json.fieldOr base.maxConsecutiveDays Value.unsigned32? days,
      ← Json.fieldOr base.bookingHorizonMonths Value.unsigned32? months,
      ← Json.fieldOr base.storageTimeoutMs Value.unsigned64? timeout⟩
  | _ => none

/-- The places of one role as JSON. -/
def RoleAvailability.toJson (cell : RoleAvailability) : Value :=
  .record [("role", cell.role.toJson), ("capacity", .integer cell.capacity.toNat),
    ("assigned", .integer cell.assigned), ("remaining", .integer cell.remaining)]

/-- The places of one slot as JSON. -/
def SlotAvailability.toJson (slot : SlotAvailability) : Value :=
  .record [("slot", slot.slot.toJson), ("roles", .array (slot.roles.map RoleAvailability.toJson))]

/-- The places of one day as JSON. -/
def DayAvailability.toJson (day : DayAvailability) : Value :=
  .record [("date", day.date.toJson), ("slots", .array (day.slots.map SlotAvailability.toJson))]

/-- The file of an availability grid. -/
def availabilityFile (grid : List DayAvailability) : List Char :=
  (Value.array (grid.map DayAvailability.toJson)).pretty

end DutyRoster
