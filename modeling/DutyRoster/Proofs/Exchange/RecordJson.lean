import DutyRoster.Exchange.RecordJson
import DutyRoster.Proofs.Json.Field
import DutyRoster.Proofs.Store.Shifts

/-!
# Records of the roster as JSON text

Every kind of value of the roster survives its JSON text (`json_round_trips`). Reading is more
generous than writing: members may come in any order or be missing where there is a default, roles
have a second form, and dates may be padded with blanks. So a text need not come back as it was, but
its value does. Records put together what is known of their members, each of which is read back by
itself; dates are read back from their text whatever the width and the sign of the year
(`Date.read_text`).
-/

set_option autoImplicit false

namespace DutyRoster

open Json (Value Faithful RoundTrips)

/-- A number that a signed number of 64 bits can be. -/
def IsSigned64 (n : Int) : Prop :=
  -9223372036854775808 ≤ n ∧ n ≤ 9223372036854775807

section Scalars

/-- Identifiers are read as they are written, whatever they identify. -/
theorem faithful_identifier {Id : Type} (mk : Int → Id) (number : Id → Int)
    (number_mk : ∀ n, number (mk n) = n) (mk_number : ∀ id, mk (number id) = id) :
    Faithful (fun id => .integer (number id)) (fun value => value.signed64?.map mk)
      (fun id => IsSigned64 (number id)) where
  legible id := Value.legible_integer (number id)
  reads_back id fits := by
    rw [Value.signed64?, Value.integerWithin?_integer fits, Option.map_some, mk_number]
  fits_of_read value id found := by
    obtain ⟨n, read, rfl⟩ := Option.map_eq_some_iff.mp found
    rw [number_mk]
    exact Value.of_integerWithin? read

/-- Identifiers of employees are written and read as their numbers. -/
theorem EmployeeId.faithful :
    Faithful EmployeeId.toJson EmployeeId.ofJson? fun id => IsSigned64 id.number :=
  faithful_identifier mk number (fun _ => rfl) (fun _ => rfl)

/-- Identifiers of slots are written and read as their numbers. -/
theorem SlotId.faithful : Faithful SlotId.toJson SlotId.ofJson? fun id => IsSigned64 id.number :=
  faithful_identifier mk number (fun _ => rfl) (fun _ => rfl)

/-- Identifiers of assignments are written and read as their numbers. -/
theorem AssignmentId.faithful :
    Faithful AssignmentId.toJson AssignmentId.ofJson? fun id => IsSigned64 id.number :=
  faithful_identifier mk number (fun _ => rfl) (fun _ => rfl)

/-- Every role is read back from its name. -/
theorem Role.faithful : Faithful Role.toJson Role.ofJson? fun _ => True where
  legible role := Value.legible_str role.name
  reads_back role _ := by cases role <;> rfl
  fits_of_read _ _ _ := trivial

/-- Every slot number is read back from its number. -/
theorem SlotNumber.faithful : Faithful SlotNumber.toJson SlotNumber.ofJson? fun _ => True where
  legible slot := Value.legible_integer slot.number
  reads_back slot _ := by cases slot <;> rfl
  fits_of_read _ _ _ := trivial

/-- Every date is read back from its text, in whatever year it lies. -/
theorem Date.faithful : Faithful Date.toJson Date.ofJson? fun _ => True where
  legible date := Value.legible_str date.text
  reads_back date _ := by
    rw [ofJson?, toJson, Value.str, Value.string?, Option.bind_some, Date.read_text]
    rfl
  fits_of_read _ _ _ := trivial

end Scalars

section Records

/-- Employees are read back whatever they are called. -/
theorem Employee.faithful :
    Faithful Employee.toJson Employee.ofJson? fun employee => IsSigned64 employee.id.number where
  legible employee := by
    apply Value.legible_record
    simp only [List.forall_mem_cons]
    exact ⟨EmployeeId.faithful.legible _, Value.legible_str _, Role.faithful.legible _, nofun⟩
  reads_back employee fits := by
    have fields : employee.toJson.fields? ["id", "name", "role"] =
        some [some employee.id.toJson, some (.str employee.name), some employee.role.toJson] :=
      Value.fields?_record [("id", employee.id.toJson), ("name", .str employee.name),
        ("role", employee.role.toJson)] (by simp)
    simp only [ofJson?, fields, EmployeeId.faithful.reads_back _ fits, Value.str, Value.string?,
      Role.faithful.reads_back _ trivial, Option.bind_eq_bind, Option.bind_some]
  fits_of_read value employee found := by
    obtain ⟨fields, -, found⟩ := Option.bind_eq_some_iff.mp found
    split at found
    · obtain ⟨id, read, found⟩ := Option.bind_eq_some_iff.mp found
      obtain ⟨name, -, found⟩ := Option.bind_eq_some_iff.mp found
      obtain ⟨role, -, ⟨⟩⟩ := Option.bind_eq_some_iff.mp found
      exact EmployeeId.faithful.fits_of_read _ id read
    · cases found

/-- The slot of a day is read back. -/
theorem ShiftSlot.faithful :
    Faithful ShiftSlot.toJson ShiftSlot.ofJson? fun slot => IsSigned64 slot.id.number where
  legible slot := by
    apply Value.legible_record
    simp only [List.forall_mem_cons]
    exact ⟨SlotId.faithful.legible _, Date.faithful.legible _, SlotNumber.faithful.legible _, nofun⟩
  reads_back slot fits := by
    have fields : slot.toJson.fields? ["id", "date", "number"] =
        some [some slot.id.toJson, some slot.date.toJson, some slot.number.toJson] :=
      Value.fields?_record [("id", slot.id.toJson), ("date", slot.date.toJson),
        ("number", slot.number.toJson)] (by simp)
    simp only [ofJson?, fields, SlotId.faithful.reads_back _ fits,
      Date.faithful.reads_back _ trivial, SlotNumber.faithful.reads_back _ trivial,
      Option.bind_eq_bind, Option.bind_some]
  fits_of_read value slot found := by
    obtain ⟨fields, -, found⟩ := Option.bind_eq_some_iff.mp found
    split at found
    · obtain ⟨id, read, found⟩ := Option.bind_eq_some_iff.mp found
      obtain ⟨date, -, found⟩ := Option.bind_eq_some_iff.mp found
      obtain ⟨number, -, ⟨⟩⟩ := Option.bind_eq_some_iff.mp found
      exact SlotId.faithful.fits_of_read _ id read
    · cases found

/-- All three identifiers of an assignment are signed numbers of 64 bits. -/
def Assignment.FitsJson (a : Assignment) : Prop :=
  IsSigned64 a.id.number ∧ IsSigned64 a.employee.number ∧ IsSigned64 a.slot.number

/-- Assignments are read back if their identifiers fit. -/
theorem Assignment.faithful :
    Faithful Assignment.toJson Assignment.ofJson? Assignment.FitsJson where
  legible a := by
    apply Value.legible_record
    simp only [List.forall_mem_cons]
    exact ⟨AssignmentId.faithful.legible _, EmployeeId.faithful.legible _,
      SlotId.faithful.legible _, Date.faithful.legible _, SlotNumber.faithful.legible _,
      Role.faithful.legible _, nofun⟩
  reads_back a fits := by
    obtain ⟨fits_id, fits_employee, fits_slot⟩ := fits
    have fields : a.toJson.fields? ["id", "employee", "slot", "date", "number", "role"] =
        some [some a.id.toJson, some a.employee.toJson, some a.slot.toJson, some a.date.toJson,
          some a.number.toJson, some a.role.toJson] :=
      Value.fields?_record [("id", a.id.toJson), ("employee", a.employee.toJson),
        ("slot", a.slot.toJson), ("date", a.date.toJson), ("number", a.number.toJson),
        ("role", a.role.toJson)] (by simp)
    simp only [ofJson?, fields, AssignmentId.faithful.reads_back _ fits_id,
      EmployeeId.faithful.reads_back _ fits_employee, SlotId.faithful.reads_back _ fits_slot,
      Date.faithful.reads_back _ trivial, SlotNumber.faithful.reads_back _ trivial,
      Role.faithful.reads_back _ trivial, Option.bind_eq_bind, Option.bind_some]
  fits_of_read value a found := by
    obtain ⟨fields, -, found⟩ := Option.bind_eq_some_iff.mp found
    split at found
    · obtain ⟨id, read_id, found⟩ := Option.bind_eq_some_iff.mp found
      obtain ⟨employee, read_employee, found⟩ := Option.bind_eq_some_iff.mp found
      obtain ⟨slot, read_slot, found⟩ := Option.bind_eq_some_iff.mp found
      obtain ⟨date, -, found⟩ := Option.bind_eq_some_iff.mp found
      obtain ⟨number, -, found⟩ := Option.bind_eq_some_iff.mp found
      obtain ⟨role, -, ⟨⟩⟩ := Option.bind_eq_some_iff.mp found
      exact ⟨AssignmentId.faithful.fits_of_read _ id read_id,
        EmployeeId.faithful.fits_of_read _ employee read_employee,
        SlotId.faithful.fits_of_read _ slot read_slot⟩
    · cases found

/-- Tables of capacities are read back, with whatever numbers. -/
theorem CapacityTable.faithful :
    Faithful CapacityTable.toJson CapacityTable.ofJson? fun _ => True where
  legible table := by
    apply Value.legible_record
    simp only [List.forall_mem_cons]
    exact ⟨Value.legible_integer _, Value.legible_integer _, Value.legible_integer _, nofun⟩
  reads_back table _ := by
    have fields : table.toJson.fields? ["medic", "technical", "administrator"] =
        some [some (.integer table.medic.toNat), some (.integer table.technical.toNat),
          some (.integer table.administrator.toNat)] :=
      Value.fields?_record [("medic", .integer table.medic.toNat),
        ("technical", .integer table.technical.toNat),
        ("administrator", .integer table.administrator.toNat)] (by simp)
    simp only [ofJson?, fields, Json.fieldOr, Value.unsigned32?_toNat, Option.bind_eq_bind,
      Option.bind_some]
  fits_of_read _ _ _ := trivial

/-- Settings are read back, with whatever numbers, the table of capacities in them included. -/
theorem RosterConfig.faithful :
    Faithful RosterConfig.toJson RosterConfig.ofJson? fun _ => True where
  legible config := by
    apply Value.legible_record
    simp only [List.forall_mem_cons]
    exact ⟨CapacityTable.faithful.legible _, Value.legible_integer _, Value.legible_integer _,
      Value.legible_integer _, nofun⟩
  reads_back config _ := by
    have fields : config.toJson.fields? ["capacity", "max_consecutive_days",
        "booking_horizon_months", "storage_timeout_ms"] =
        some [some config.capacity.toJson, some (.integer config.maxConsecutiveDays.toNat),
          some (.integer config.bookingHorizonMonths.toNat),
          some (.integer config.storageTimeoutMs.toNat)] :=
      Value.fields?_record [("capacity", config.capacity.toJson),
        ("max_consecutive_days", .integer config.maxConsecutiveDays.toNat),
        ("booking_horizon_months", .integer config.bookingHorizonMonths.toNat),
        ("storage_timeout_ms", .integer config.storageTimeoutMs.toNat)] (by simp)
    simp only [ofJson?, fields, Json.fieldOr, CapacityTable.faithful.reads_back _ trivial,
      Value.unsigned32?_toNat, Value.unsigned64?_toNat, Option.bind_eq_bind, Option.bind_some]
  fits_of_read _ _ _ := trivial

end Records

/-- All kinds of values of the roster are read back from their JSON text, whatever the name of a
member of staff and on whatever date; only identifiers have to be signed numbers of 64 bits. A text
that can be read as one of these kinds keeps its meaning when it is written anew, and is written the
same from then on. -/
theorem json_round_trips :
    RoundTrips Role.toJson Role.ofJson? (fun _ => True) ∧
    RoundTrips SlotNumber.toJson SlotNumber.ofJson? (fun _ => True) ∧
    RoundTrips EmployeeId.toJson EmployeeId.ofJson? (fun id => IsSigned64 id.number) ∧
    RoundTrips SlotId.toJson SlotId.ofJson? (fun id => IsSigned64 id.number) ∧
    RoundTrips AssignmentId.toJson AssignmentId.ofJson? (fun id => IsSigned64 id.number) ∧
    RoundTrips Employee.toJson Employee.ofJson? (fun member => IsSigned64 member.id.number) ∧
    RoundTrips ShiftSlot.toJson ShiftSlot.ofJson? (fun slot => IsSigned64 slot.id.number) ∧
    RoundTrips Assignment.toJson Assignment.ofJson? Assignment.FitsJson ∧
    RoundTrips CapacityTable.toJson CapacityTable.ofJson? (fun _ => True) ∧
    RoundTrips RosterConfig.toJson RosterConfig.ofJson? (fun _ => True) :=
  ⟨Role.faithful.roundTrips, SlotNumber.faithful.roundTrips, EmployeeId.faithful.roundTrips,
    SlotId.faithful.roundTrips, AssignmentId.faithful.roundTrips, Employee.faithful.roundTrips,
    ShiftSlot.faithful.roundTrips, Assignment.faithful.roundTrips,
    CapacityTable.faithful.roundTrips, RosterConfig.faithful.roundTrips⟩

example : Json.textOf Employee.toJson ⟨⟨-7⟩, "\"É\x01", .medic⟩ =
    "\x7b\"id\":-7,\"name\":\"\\\"É\\u0001\",\"role\":\"medic\"\x7d" := by decide +kernel

end DutyRoster
