import DutyRoster.Roster.Role
import DutyRoster.Roster.SlotNumber

/-!
# The records of the roster

Members of staff, slots of days, and assignments of one to the other. Each kind of record has
identifiers of its own, which are plain numbers but are never mixed up.
-/

set_option autoImplicit false

namespace DutyRoster

/-- Identifies a member of staff. -/
structure EmployeeId where
  number : Int
deriving DecidableEq, Repr

/-- An identifier of staff is written with a number sign. -/
instance : ToString EmployeeId := ⟨fun id => s!"#{id.number}"⟩

/-- Identifies a slot of a day. -/
structure SlotId where
  number : Int
deriving DecidableEq, Repr

/-- Identifies an assignment. -/
structure AssignmentId where
  number : Int
deriving DecidableEq, Repr

/-- A member of staff. -/
structure Employee where
  id : EmployeeId
  name : String
  role : Role
deriving DecidableEq

/-- A slot of a day. -/
structure ShiftSlot where
  id : SlotId
  date : Date
  number : SlotNumber
deriving DecidableEq

/-- A member of staff holding a slot of a day, in the role held when the assignment was made. -/
structure Assignment where
  id : AssignmentId
  employee : EmployeeId
  slot : SlotId
  date : Date
  number : SlotNumber
  role : Role
deriving DecidableEq

end DutyRoster
