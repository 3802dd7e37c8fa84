import DutyRoster.Text.Blank

/-!
# Roles

Everyone on the roster has one role, which decides how many of them may share a slot. Roles have one
written form each; reading also takes surrounding blanks, capital letters and the short form
`admin`.
-/

set_option autoImplicit false

namespace DutyRoster

/-- What a member of staff does on duty. -/
inductive Role where
  | medic
  | technical
  | administrator
deriving DecidableEq, Repr

namespace Role

/-- Every role, in the order in which reports list them. -/
def all : List Role := [.medic, .technical, .administrator]

/-- The written form of a role. -/
def name : Role → String
  | .medic => "medic"
  | .technical => "technical"
  | .administrator => "administrator"

instance : ToString Role := ⟨name⟩

end Role

/-- A text that names no role, as it was understood: without surrounding blanks, in lower case. -/
structure UnknownRole where
  text : String
deriving DecidableEq, Repr

/-- The wording of the fault. -/
def UnknownRole.message (fault : UnknownRole) : String :=
  "unknown role: " ++ fault.text

/-- Reads a role, ignoring surrounding blanks and the case of the letters `A` to `Z`. -/
def Role.read (text : String) : Except UnknownRole Role :=
  let word := String.ofList (Text.lowercase (Text.trim text.toList))
  if word = "medic" then .ok .medic
  else if word = "technical" then .ok .technical
  else if word = "administrator" ∨ word = "admin" then .ok .administrator
  else .error ⟨word⟩

end DutyRoster
