import DutyRoster.Calendar.DateText
import DutyRoster.Calendar.Instant

/-!
# Instants as text

An instant is written as its date, the letter `T`, the time of day and the offset `+00:00`, with the
fraction of the second in three, six or nine digits if there is one.

Reading takes the same form loosely: blanks before every number and mark, fewer digits than written,
`t` or a blank in place of `T`, a fraction of any length of which nine digits count, and as the
offset from universal time `Z`, `UTC` in any case, or a sign with hours and minutes that may be
separated by colons and blanks.
-/

set_option autoImplicit false

namespace DutyRoster

open Text

/-- The fraction of a second as text, in the shortest of three, six and nine digits that is exact;
nothing if there is no fraction. -/
def fractionText (nano : Nat) : List Char :=
  if nano = 0 then []
  else if nano % 1000000 = 0 then '.' :: padded 3 (nano / 1000000)
  else if nano % 1000 = 0 then '.' :: padded 6 (nano / 1000)
  else '.' :: padded 9 nano

/-- An instant as text. -/
def Instant.text (t : Instant) : List Char :=
  let leap := t.nano / nanosPerSecond
  t.date.civil.text ++ 'T' :: padded 2 (t.second / 3600) ++ ':' :: padded 2 (t.second / 60 % 60) ++
    ':' :: padded 2 (t.second % 60 + leap) ++ fractionText (t.nano % nanosPerSecond) ++
    "+00:00".toList

instance : ToString Instant := ⟨fun t => String.ofList t.text⟩

/-- Reads the fraction of a second if a point announces one: at least one digit, the first nine of
which count. -/
def scanFraction : List Char → Option (Nat × List Char)
  | '.' :: rest =>
    let digits := rest.takeWhile Char.isDigit
    let counted := digits.take 9
    if digits.isEmpty then none
    else
      some (digitsValue (counted ++ List.replicate (9 - counted.length) '0'),
        rest.dropWhile Char.isDigit)
  | text => some (0, text)

/-- The minutes of an offset, given as two digits below 60. -/
def scanOffsetMinutes : List Char → Option (Nat × List Char)
  | a :: b :: rest =>
    let n := digitsValue [a, b]
    if a.isDigit && b.isDigit && n < 60 then some (n, rest) else none
  | _ => none

/-- Reads the hours and minutes of an offset, as minutes. -/
def scanOffsetSize : List Char → Option (Nat × List Char)
  | a :: b :: rest =>
    if a.isDigit && b.isDigit then
      let rest := rest.dropWhile fun c => c == ':' || isBlank c
      (scanOffsetMinutes rest).map fun (minutes, rest) => (digitsValue [a, b] * 60 + minutes, rest)
    else none
  | _ => none

/-- Reads the offset from universal time, in minutes. -/
def scanOffset (text : List Char) : Option (Int × List Char) :=
  match text with
  | 'Z' :: rest => some (0, rest)
  | 'z' :: rest => some (0, rest)
  | '+' :: rest => (scanOffsetSize rest).map fun (n, rest) => ((n : Int), rest)
  | '-' :: rest => (scanOffsetSize rest).map fun (n, rest) => (-(n : Int), rest)
  | '−' :: rest => (scanOffsetSize rest).map fun (n, rest) => (-(n : Int), rest)
  | _ => if lowercase (text.take 3) = "utc".toList then some (0, text.drop 3) else none

/-- Reads a text that consists of an instant. An offset of a day or more is refused. -/
def Instant.read? (text : List Char) : Option Instant := do
  let (c, text) ← (scanCivil true text).toOption
  let date ← Date.ofCivil? c
  let text ← match text with
    | 'T' :: rest => some rest
    | 't' :: rest => some rest
    | ' ' :: rest => some rest
    | _ => none
  let (hour, text) ← (scanBounded 0 23 text).toOption
  let text ← (scanMark true ':' text).toOption
  let (minute, text) ← (scanBounded 0 59 text).toOption
  let text ← (scanMark true ':' text).toOption
  let (second, text) ← (scanBounded 0 60 text).toOption
  let (nano, text) ← scanFraction text
  let (offset, text) ← scanOffset (trimStart text)
  if (trimStart text).isEmpty ∧ offset.natAbs < 1440 then
    (Instant.ofClock? date hour minute second nano).bind (Instant.addMinutes? · (-offset))
  else none

end DutyRoster
