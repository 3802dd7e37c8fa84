/-!
# Text as octets

Files hold octets. `encode` is the UTF-8 form of a text. `decode` reads octets back one character at
a time and never fails: an octet that starts no well-formed character becomes `none`, so that a
reader can decide for itself whether the malformed stretch lies in a place that matters.
`validPrefixSize` says how many octets come before the first malformed one, and `shown` puts
replacement characters in the malformed places. `split` takes octets apart at a separator.
-/

set_option autoImplicit false

namespace DutyRoster.Text

/-- The octets of a text in UTF-8. -/
def encode (text : List Char) : List UInt8 :=
  text.flatMap String.utf8EncodeChar

/-- The character that a sequence of octets starts with, if its first octets are the UTF-8 form of
one. No form is longer than four octets. -/
def leadingChar? (octets : List UInt8) : Option Char :=
  ByteArray.utf8DecodeChar? (octets.take 4).toByteArray 0

/-- Reads octets as UTF-8. An octet that starts no well-formed character is read as `none`. -/
def decode : List UInt8 → List (Option Char)
  | [] => []
  | octet :: rest =>
    match leadingChar? (octet :: rest) with
    | some c => some c :: decode ((octet :: rest).drop c.utf8Size)
    | none => none :: decode rest
termination_by octets => octets.length
decreasing_by
  · have := c.utf8Size_pos
    simp only [List.length_drop, List.length_cons]
    omega
  · simp

/-- A stretch of decoded octets as text, if all of it is well formed. -/
def wellFormed? : List (Option Char) → Option (List Char)
  | [] => some []
  | none :: _ => none
  | some c :: rest => (wellFormed? rest).map (c :: ·)

/-- The number of octets before the first malformed one. -/
def validPrefixSize : List (Option Char) → Nat
  | some c :: rest => c.utf8Size + validPrefixSize rest
  | _ => 0

/-- The number of octets in a form that begins with a given one; an octet that begins no form of
several octets counts as a form of its own. -/
def formSize (first : UInt8) : Nat :=
  if 0xC2 ≤ first ∧ first ≤ 0xDF then 2
  else if 0xE0 ≤ first ∧ first ≤ 0xEF then 3
  else if 0xF0 ≤ first ∧ first ≤ 0xF4 then 4
  else 1

/-- Whether an octet may come second in a form that begins with a given one. -/
def comesSecond (first second : UInt8) : Bool :=
  let least := if first = 0xE0 then 0xA0 else if first = 0xF0 then 0x90 else 0x80
  let greatest := if first = 0xED then 0x9F else if first = 0xF4 then 0x8F else 0xBF
  1 < formSize first ∧ least ≤ second ∧ second ≤ greatest

/-- Whether an octet may come third or fourth in a form. -/
def comesLater (octet : UInt8) : Bool :=
  0x80 ≤ octet ∧ octet ≤ 0xBF

/-- The number of octets after the first that go on with the form that the first begins. -/
def continuedSize (first : UInt8) : List UInt8 → Nat
  | [] => 0
  | second :: rest =>
    if comesSecond first second then
      1 + ((rest.take (formSize first - 2)).takeWhile comesLater).length
    else 0

/-- Octets as characters, with one replacement character for each beginning of a form that is not
gone on with, and for each octet that begins none. -/
def replaced : List UInt8 → List Char
  | [] => []
  | octet :: rest =>
    match leadingChar? (octet :: rest) with
    | some c => c :: replaced ((octet :: rest).drop c.utf8Size)
    | none => '\uFFFD' :: replaced (rest.drop (continuedSize octet rest))
termination_by octets => octets.length
decreasing_by
  · have := c.utf8Size_pos
    simp only [List.length_drop, List.length_cons]
    omega
  · simp only [List.length_drop, List.length_cons]
    omega

/-- Octets as text, with replacement characters where they are not well formed. -/
def shown (octets : List UInt8) : String :=
  String.ofList (replaced octets)

/-- What stands between the separators, one stretch more than there are separators. -/
def split (separator : UInt8) : List UInt8 → List (List UInt8)
  | [] => [[]]
  | octet :: rest =>
    match split separator rest with
    | [] => [[octet]]
    | stretch :: others =>
      if octet = separator then [] :: stretch :: others else (octet :: stretch) :: others

end DutyRoster.Text
