/-!
# Octets written with percent signs

In the names that this module is for, a percent sign and two hexadecimal digits stand for one octet,
so that an octet with a meaning of its own can be written without that meaning. `readEscaped` reads
such a name.
-/

set_option autoImplicit false

namespace DutyRoster.Text

/-- The value of a hexadecimal digit, in capital or small letters, given as an octet. -/
def hexValue? (octet : UInt8) : Option UInt8 :=
  if 0x30 ≤ octet ∧ octet ≤ 0x39 then some (octet - 0x30)
  else if 0x41 ≤ octet ∧ octet ≤ 0x46 then some (octet - 0x37)
  else if 0x61 ≤ octet ∧ octet ≤ 0x66 then some (octet - 0x57)
  else none

/-- The octet that two hexadecimal digits stand for. -/
def hexPair? (high low : UInt8) : Option UInt8 :=
  match hexValue? high, hexValue? low with
  | some high, some low => some (high * 16 + low)
  | _, _ => none

/-- Reads octets with escapes. A percent sign without two digits after it stands for itself, and the
escape of the octet zero ends the text. -/
def readEscaped : List UInt8 → List UInt8
  | [] => []
  | [octet] => [octet]
  | [octet, next] => [octet, next]
  | octet :: high :: low :: rest =>
    if octet = 0x25 then
      match hexPair? high low with
      | some value => if value = 0 then [] else value :: readEscaped rest
      | none => octet :: readEscaped (high :: low :: rest)
    else octet :: readEscaped (high :: low :: rest)

end DutyRoster.Text
