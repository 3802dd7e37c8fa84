import DutyRoster.Calendar.Date
import DutyRoster.Text.Blank
import DutyRoster.Text.Decimal

/-!
# Dates as text

A date is written as year, month and day with dashes between them. The year has four digits, or a
sign and at least four digits outside the years 0 to 9999; month and day have two.

Reading is more generous than writing. A number may have leading blanks and fewer digits than
written, and the year may carry a sign, after which it may be of any length. In the loose form there
may also be blanks before the dashes and at the end. What is wrong with a text that names no date is
one of four faults, the first that a reading from left to right meets.
-/

set_option autoImplicit false

namespace DutyRoster

open Text

/-- A number with four digits, or with as many as it needs. -/
def fourDigits (n : Nat) : List Char :=
  if n < 10000 then padded 4 n else natural n

/-- The year of a date as text. -/
def yearText (year : Int) : List Char :=
  if 0 ≤ year ∧ year ≤ 9999 then fourDigits year.toNat
  else (if year < 0 then '-' else '+') :: fourDigits year.natAbs

/-- A civil day as text. -/
def CivilDay.text (c : CivilDay) : List Char :=
  yearText c.year ++ '-' :: padded 2 c.month ++ '-' :: padded 2 c.day

/-- A date as text. -/
def Date.text (d : Date) : String :=
  String.ofList d.civil.text

instance : ToString Date := ⟨Date.text⟩

/-- The reasons for which a text names no date. -/
inductive DateFault where
  | invalidCharacters
  | prematureEnd
  | trailingInput
  | outOfRange
deriving DecidableEq, Repr

/-- The wording of a fault. -/
def DateFault.message : DateFault → String
  | .invalidCharacters => "input contains invalid characters"
  | .prematureEnd => "premature end of input"
  | .trailingInput => "trailing input"
  | .outOfRange => "input is out of range"

/-- Reads a run of at least one digit, at most `limit` of them if there is a limit. -/
def scanDigits (limit : Option Nat) : List Char → Except DateFault (Nat × List Char)
  | [] => .error .prematureEnd
  | c :: rest =>
    if c.isDigit then
      let reach := match limit with
        | some width => (c :: rest).take width
        | none => c :: rest
      let run := reach.takeWhile Char.isDigit
      .ok (digitsValue run, (c :: rest).drop run.length)
    else .error .invalidCharacters

/-- Reads a number of one or two digits after any blanks and checks that it lies between two bounds,
ends included. -/
def scanBounded (low high : Nat) (text : List Char) : Except DateFault (Nat × List Char) := do
  let (n, rest) ← scanDigits (some 2) (trimStart text)
  if low ≤ n ∧ n ≤ high then .ok (n, rest) else .error .outOfRange

/-- Reads a year after any blanks: up to four digits, or a sign and any number of digits. No year
needs more than 32 bits, sign included. -/
def scanYear (text : List Char) : Except DateFault (Int × List Char) := do
  let (year, rest) ← match trimStart text with
    | '-' :: digits => (scanDigits none digits).map fun (n, rest) => (-(n : Int), rest)
    | '+' :: digits => (scanDigits none digits).map fun (n, rest) => ((n : Int), rest)
    | digits => (scanDigits (some 4) digits).map fun (n, rest) => ((n : Int), rest)
  if -2147483648 ≤ year ∧ year ≤ 2147483647 then .ok (year, rest) else .error .outOfRange

/-- Reads the mark that stands between two numbers, in the loose form after any blanks. -/
def scanMark (loose : Bool) (mark : Char) (text : List Char) : Except DateFault (List Char) :=
  match if loose then trimStart text else text with
  | [] => .error .prematureEnd
  | c :: rest => if c = mark then .ok rest else .error .invalidCharacters

/-- Reads year, month and day from the front of a text and returns what follows them. -/
def scanCivil (loose : Bool) (text : List Char) : Except DateFault (CivilDay × List Char) := do
  let (year, text) ← scanYear text
  let text ← scanMark loose '-' text
  let (month, text) ← scanBounded 1 12 text
  let text ← scanMark loose '-' text
  let (day, text) ← scanBounded 1 31 text
  .ok (⟨year, month, day⟩, text)

/-- Reads a text that consists of a date, in the loose form with blanks after it. -/
def Date.read (loose : Bool) (text : List Char) : Except DateFault Date := do
  let (c, rest) ← scanCivil loose text
  let rest := if loose then trimStart rest else rest
  if rest.isEmpty then
    match Date.ofCivil? c with
    | some d => .ok d
    | none => .error .outOfRange
  else .error .trailingInput

end DutyRoster
