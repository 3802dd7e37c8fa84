import DutyRoster.Text.Decimal

/-!
# The words of JSON

A JSON text is a sequence of tokens with white space between them. `tokenize` splits a text that was
read from octets, where `none` stands for an octet that is no character; such octets are tolerated
inside quoted strings only, and a string that has one, or an unpaired half of a character written as
two escapes, is a token without readable content. `Token.text` writes a token.

Numbers are kept apart by what may be done with them: whole numbers written plainly are values,
anything with a fraction or an exponent, and `-0`, is kept as it was written.
-/

set_option autoImplicit false

namespace DutyRoster.Json

open Text

/-- A word of JSON. The content of a string is missing if it cannot be read as text. -/
inductive Token where
  | openArray
  | closeArray
  | openObject
  | closeObject
  | comma
  | colon
  | null
  | bool (value : Bool)
  | integer (value : Int)
  | decimal (text : List Char)
  | string (content : Option String)
deriving DecidableEq, Repr

/-- The white space between tokens. -/
def isGap (c : Char) : Bool :=
  c == ' ' || c == '\t' || c == '\n' || c == '\r'

/-- The token that a punctuation mark is. -/
def punctuation? (c : Char) : Option Token :=
  match c with
  | '[' => some .openArray
  | ']' => some .closeArray
  | '\x7b' => some .openObject
  | '\x7d' => some .closeObject
  | ',' => some .comma
  | ':' => some .colon
  | _ => none

/-- The exponent of a number: `e` or `E`, at most one sign, and digits. -/
def isExponent : List Char → Bool
  | [] => true
  | e :: rest =>
    let digits := match rest with
      | '+' :: digits => digits
      | '-' :: digits => digits
      | digits => digits
    (e == 'e' || e == 'E') && !digits.isEmpty && digits.all Char.isDigit

/-- What may follow the whole part of a number: a point and digits, an exponent, or both. -/
def isTail : List Char → Bool
  | '.' :: rest =>
    !(rest.takeWhile Char.isDigit).isEmpty && isExponent (rest.dropWhile Char.isDigit)
  | rest => isExponent rest

/-- The whole part of a number: at least one digit, and no zero in front of others. -/
def isWholePart : List Char → Bool
  | [] => false
  | '0' :: rest => rest.isEmpty
  | _ => true

/-- The number that a word without its sign is, if it is one. -/
def unsignedNumber? (negative : Bool) (word : List Char) : Option Token :=
  let whole := word.takeWhile Char.isDigit
  let tail := word.dropWhile Char.isDigit
  if isWholePart whole && isTail tail then
    let value := digitsValue whole
    if tail.isEmpty && !(negative && value == 0) then
      some (.integer (if negative then -(value : Int) else value))
    else some (.decimal (if negative then '-' :: word else word))
  else none

/-- The token that a word is: a name of JSON or a number. -/
def word? (word : List Char) : Option Token :=
  if word = "null".toList then some .null
  else if word = "true".toList then some (.bool true)
  else if word = "false".toList then some (.bool false)
  else
    match word with
    | '-' :: rest => unsignedNumber? true rest
    | _ => unsignedNumber? false word

/-- A piece of a quoted string: a character, a 16-bit unit written as an escape, or an octet that is
no character. -/
inductive Piece where
  | char (c : Char)
  | unit (value : Nat)
  | malformed
deriving DecidableEq, Repr

/-- The text that the pieces of a string make up. A unit above `0xD7FF` and below `0xE000` is half a
character and needs the other half right after it. -/
def assemble : List Piece → Option (List Char)
  | [] => some []
  | .char c :: rest => (assemble rest).map (c :: ·)
  | .malformed :: _ => none
  | .unit high :: .unit low :: rest =>
    if high < 0xD800 ∨ 0xDFFF < high then
      (assemble (.unit low :: rest)).map (Char.ofNat high :: ·)
    else if high < 0xDC00 ∧ 0xDC00 ≤ low ∧ low ≤ 0xDFFF then
      (assemble rest).map (Char.ofNat (0x10000 + (high - 0xD800) * 0x400 + (low - 0xDC00)) :: ·)
    else none
  | .unit value :: rest =>
    if value < 0xD800 ∨ 0xDFFF < value then (assemble rest).map (Char.ofNat value :: ·) else none

/-- The value of a hexadecimal digit. -/
def hexDigit? (c : Char) : Option Nat :=
  if c.isDigit then some (c.toNat - '0'.toNat)
  else if 'a' ≤ c ∧ c ≤ 'f' then some (c.toNat - 'a'.toNat + 10)
  else if 'A' ≤ c ∧ c ≤ 'F' then some (c.toNat - 'A'.toNat + 10)
  else none

/-- The value of four hexadecimal digits. -/
def hexUnit? (a b c d : Char) : Option Nat := do
  some (((← hexDigit? a) * 16 + (← hexDigit? b)) * 256 + (← hexDigit? c) * 16 + (← hexDigit? d))

/-- The character that a short escape stands for. -/
def shortEscape? (c : Char) : Option Char :=
  match c with
  | '"' => some '"'
  | '\\' => some '\\'
  | '/' => some '/'
  | 'b' => some '\x08'
  | 'f' => some '\x0c'
  | 'n' => some '\n'
  | 'r' => some '\r'
  | 't' => some '\t'
  | _ => none

/-- Where a tokenizer stands: between tokens, in a word, or in a quoted string; with what it has
read of the latter two, last things first. -/
inductive Place where
  | gap
  | word (chars : List Char)
  | quoted (pieces : List Piece)
deriving DecidableEq, Repr

/-- Splits a text from a given place on; `found` are the tokens so far, last one first. -/
def tokenizeFrom : Place → List Token → List (Option Char) → Option (List Token)
  | .gap, found, [] => some found.reverse
  | .word chars, found, [] => (word? chars.reverse).map fun token => (token :: found).reverse
  | .quoted _, _, [] => none
  | .gap, _, none :: _ => none
  | .gap, found, some c :: rest =>
    if isGap c then tokenizeFrom .gap found rest
    else if c = '"' then tokenizeFrom (.quoted []) found rest
    else
      match punctuation? c with
      | some token => tokenizeFrom .gap (token :: found) rest
      | none => tokenizeFrom (.word [c]) found rest
  | .word _, _, none :: _ => none
  | .word chars, found, some c :: rest =>
    if isGap c then
      (word? chars.reverse).bind fun token => tokenizeFrom .gap (token :: found) rest
    else if c = '"' then
      (word? chars.reverse).bind fun token => tokenizeFrom (.quoted []) (token :: found) rest
    else
      match punctuation? c with
      | some mark =>
        (word? chars.reverse).bind fun token => tokenizeFrom .gap (mark :: token :: found) rest
      | none => tokenizeFrom (.word (c :: chars)) found rest
  | .quoted pieces, found, some '\\' :: some 'u' :: some a :: some b :: some c :: some d :: rest =>
    (hexUnit? a b c d).bind fun value => tokenizeFrom (.quoted (.unit value :: pieces)) found rest
  | .quoted pieces, found, some '\\' :: some e :: rest =>
    (shortEscape? e).bind fun c => tokenizeFrom (.quoted (.char c :: pieces)) found rest
  | .quoted pieces, found, none :: rest => tokenizeFrom (.quoted (.malformed :: pieces)) found rest
  | .quoted pieces, found, some c :: rest =>
    if c = '"' then
      tokenizeFrom .gap (.string ((assemble pieces.reverse).map String.ofList) :: found) rest
    else if c = '\\' ∨ c.toNat < 0x20 then none
    else tokenizeFrom (.quoted (.char c :: pieces)) found rest

/-- Splits a text into tokens. -/
def tokenize (text : List (Option Char)) : Option (List Token) :=
  tokenizeFrom .gap [] text

/-- A character inside a quoted string: quotes, backslashes and control characters are escaped, by a
letter where there is one. -/
def escape (c : Char) : List Char :=
  if c = '"' then ['\\', '"']
  else if c = '\\' then ['\\', '\\']
  else if c = '\x08' then ['\\', 'b']
  else if c = '\x0c' then ['\\', 'f']
  else if c = '\n' then ['\\', 'n']
  else if c = '\r' then ['\\', 'r']
  else if c = '\t' then ['\\', 't']
  else if c.toNat < 0x20 then
    ['\\', 'u', '0', '0', Nat.digitChar (c.toNat / 16), Nat.digitChar (c.toNat % 16)]
  else [c]

/-- A quoted string. -/
def quoted (content : String) : List Char :=
  '"' :: (content.toList.flatMap escape ++ ['"'])

/-- The text of a token. A string without readable content is written as an unpaired half of a
character. -/
def Token.text : Token → List Char
  | .openArray => ['[']
  | .closeArray => [']']
  | .openObject => ['\x7b']
  | .closeObject => ['\x7d']
  | .comma => [',']
  | .colon => [':']
  | .null => "null".toList
  | .bool true => "true".toList
  | .bool false => "false".toList
  | .integer value => Text.integer value
  | .decimal text => text
  | .string (some content) => quoted content
  | .string none => "\"\\ud800\"".toList

end DutyRoster.Json
