/-!
# Whole numbers as decimal text

Numbers are written with the fewest digits (`natural`, `integer`) or with a set number of them
(`padded`), and read from runs of the digits `0` to `9` (`readNatural?`, `readInteger?`).
-/

set_option autoImplicit false

namespace DutyRoster.Text

/-- A natural number with the fewest decimal digits. -/
def natural (n : Nat) : List Char :=
  Nat.toDigits 10 n

/-- An integer with the fewest decimal digits, a minus sign before them if it is negative. -/
def integer (n : Int) : List Char :=
  if n < 0 then '-' :: natural n.natAbs else natural n.natAbs

/-- The last `width` decimal digits of a number, zeros included. -/
def padded : Nat → Nat → List Char
  | 0, _ => []
  | width + 1, n => padded width (n / 10) ++ [Nat.digitChar (n % 10)]

/-- The value of a run of decimal digits. -/
def digitsValue (digits : List Char) : Nat :=
  Nat.ofDigitChars 10 digits 0

/-- A natural number written with one or more digits and nothing else. -/
def readNatural? (text : List Char) : Option Nat :=
  if text.isEmpty || !text.all Char.isDigit then none else some (digitsValue text)

/-- An integer written with one or more digits after at most one sign, plus or minus. -/
def readInteger? : List Char → Option Int
  | '+' :: digits => (readNatural? digits).map Int.ofNat
  | '-' :: digits => (readNatural? digits).map fun n => -Int.ofNat n
  | digits => (readNatural? digits).map Int.ofNat

end DutyRoster.Text
