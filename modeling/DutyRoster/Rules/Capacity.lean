import DutyRoster.Roster.Role

/-!
# Capacities

How many people of each role may share one slot. A role without capacity cannot be assigned at all.
-/

set_option autoImplicit false

namespace DutyRoster

/-- The largest number of people of each role in one slot. -/
structure CapacityTable where
  medic : UInt32 := 2
  technical : UInt32 := 4
  administrator : UInt32 := 0
deriving DecidableEq, Repr

namespace CapacityTable

/-- The capacity of a role. -/
def capacity (table : CapacityTable) : Role → UInt32
  | .medic => table.medic
  | .technical => table.technical
  | .administrator => table.administrator

/-- The places of a role that are left when some are taken; none if more are taken than there
are. -/
def remaining (table : CapacityTable) (role : Role) (taken : Nat) : Nat :=
  (table.capacity role).toNat - taken

/-- The roles that have at least one place. -/
def assignableRoles (table : CapacityTable) : List Role :=
  Role.all.filter fun role => 0 < table.capacity role

end CapacityTable

end DutyRoster
