import DutyRoster.Json.Value

/-!
# Reading records from JSON values

A record is written as an object, whose members may come in any order and be interspersed with
members of other names, or as an array of its fields in order, from which the last ones may be
missing. A known member that occurs twice is refused, and so is a member whose name is unreadable.
-/

set_option autoImplicit false

namespace DutyRoster.Json

namespace Value

/-- The number of members with a given name. -/
def occurrences (members : List (Option String × Value)) (name : String) : Nat :=
  members.countP fun member => member.1 = some name

/-- The first member with a given name. -/
def member? (members : List (Option String × Value)) (name : String) : Option Value :=
  (members.find? fun member => member.1 = some name).map (·.2)

/-- The fields of a record, in the order of their names; `none` for a field that is missing. -/
def fields? (names : List String) : Value → Option (List (Option Value))
  | .object members =>
    if (members.all fun member => member.1.isSome) ∧
        names.all fun name => occurrences members name ≤ 1 then
      some (names.map (member? members))
    else none
  | .array items =>
    if items.length ≤ names.length then
      some (items.map some ++ List.replicate (names.length - items.length) none)
    else none
  | _ => none

/-- A whole number between two bounds, ends included. -/
def integerWithin? (low high : Int) : Value → Option Int
  | .integer value => if low ≤ value ∧ value ≤ high then some value else none
  | _ => none

/-- A readable string. -/
def string? : Value → Option String
  | .string content => content
  | _ => none

/-- A signed number of 64 bits. -/
def signed64? (value : Value) : Option Int :=
  value.integerWithin? (-9223372036854775808) 9223372036854775807

/-- An unsigned number of 32 bits. -/
def unsigned32? (value : Value) : Option UInt32 :=
  (value.integerWithin? 0 4294967295).map fun n => UInt32.ofNat n.toNat

/-- An unsigned number of 64 bits. -/
def unsigned64? (value : Value) : Option UInt64 :=
  (value.integerWithin? 0 18446744073709551615).map fun n => UInt64.ofNat n.toNat

end Value

/-- A field that has a default for when it is missing. -/
def fieldOr {α : Type} (default : α) (read : Value → Option α) : Option Value → Option α
  | none => some default
  | some value => read value

end DutyRoster.Json
