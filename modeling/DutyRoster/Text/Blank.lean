/-!
# White space and letter case

Staff files and requests are typed by people, so names and roles are read with the white space
around them removed. White space is the Unicode property of that name, which has 25 members; letter
case is folded for the letters `A` to `Z` only.
-/

set_option autoImplicit false

namespace DutyRoster.Text

/-- A character is blank if it has the Unicode property "white space". -/
def isBlank (c : Char) : Bool :=
  let n := c.toNat
  (0x09 ≤ n && n ≤ 0x0D) || n == 0x20 || n == 0x85 || n == 0xA0 || n == 0x1680 ||
    (0x2000 ≤ n && n ≤ 0x200A) || n == 0x2028 || n == 0x2029 || n == 0x202F || n == 0x205F ||
    n == 0x3000

/-- Removes the blanks that a text starts with. -/
def trimStart (text : List Char) : List Char :=
  text.dropWhile isBlank

/-- Removes the blanks that a text ends with. -/
def trimEnd (text : List Char) : List Char :=
  (text.reverse.dropWhile isBlank).reverse

/-- Removes the blanks on both sides of a text. -/
def trim (text : List Char) : List Char :=
  trimEnd (trimStart text)

/-- Turns the letters `A` to `Z` into `a` to `z` and leaves every other character alone. -/
def lowercase (text : List Char) : List Char :=
  text.map Char.toLower

end DutyRoster.Text
