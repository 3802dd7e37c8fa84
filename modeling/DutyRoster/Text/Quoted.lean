import DutyRoster.Text.Unprintable
import DutyRoster.Text.Extending

/-!
# Quoted text

Error messages repeat the text that was refused. `quote` puts it between double quotes in such a way
that the reader sees every character of it: quotes, backslashes and line ends are escaped by a
backslash, and a character that would not be visible on its own is written by its code point.
-/

set_option autoImplicit false

namespace DutyRoster.Text

/-- A character written by its code point, in lower-case hexadecimal without leading zeros. -/
def codePointEscape (c : Char) : List Char :=
  "\\u\x7b".toList ++ Nat.toDigits 16 c.toNat ++ ['\x7d']

/-- The form in which a single character stands inside a quoted text. -/
def escapeQuoted (c : Char) : List Char :=
  if c = '\x00' then ['\\', '0']
  else if c = '\t' then ['\\', 't']
  else if c = '\r' then ['\\', 'r']
  else if c = '\n' then ['\\', 'n']
  else if c = '\\' then ['\\', '\\']
  else if c = '"' then ['\\', '"']
  else if isExtending c || !isPrintable c then codePointEscape c
  else [c]

/-- A text between double quotes, with every character visible. -/
def quote (text : List Char) : List Char :=
  '"' :: (text.flatMap escapeQuoted ++ ['"'])

end DutyRoster.Text
