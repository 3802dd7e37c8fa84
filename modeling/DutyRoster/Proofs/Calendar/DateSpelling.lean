import DutyRoster.Calendar.DateText
import DutyRoster.Proofs.Calendar.Civil
import DutyRoster.Proofs.Text.Decimal
import Mathlib.Data.List.TakeWhile

/-!
# The spellings of a date

A date is written in one way and read in many. `SpellsDate` is the grammar of what is read in the
strict form: year, month and day with dashes between them, blanks before each of the three, a year
of up to four digits or with a sign and any number of them, a month and a day of one or two digits.
The reader accepts exactly the texts that spell the civil name of a date
(`Date.read_eq_ok_iff`).

Each scanner is inverted by itself. What it has read is a word of the grammar, with the blanks that
it has skipped before it, and a word of the grammar is read as a whole if what follows cannot go on
with it; after the year and the month that is a dash, and after the day it is the end of the text.
-/

set_option autoImplicit false

namespace DutyRoster

open Text

/-- Digits, at least one of them, which stand for a number. -/
structure IsNumeral (digits : List Char) (n : Nat) : Prop where
  nonempty : digits ≠ []
  all_digits : ∀ c ∈ digits, c.isDigit = true
  value : digitsValue digits = n

/-- The spellings of a year: up to four digits, or a sign and any number of digits. -/
inductive SpellsYear : List Char → Int → Prop
  | plain {digits : List Char} {n : Nat} (numeral : IsNumeral digits n)
      (short : digits.length ≤ 4) : SpellsYear digits n
  | positive {digits : List Char} {n : Nat} (numeral : IsNumeral digits n) :
      SpellsYear ('+' :: digits) n
  | negative {digits : List Char} {n : Nat} (numeral : IsNumeral digits n) :
      SpellsYear ('-' :: digits) (-n)

/-- The spellings of a month or of a day of the month: one or two digits. -/
structure SpellsPart (digits : List Char) (n : Nat) : Prop where
  numeral : IsNumeral digits n
  short : digits.length ≤ 2

/-- All characters of a text are blanks. -/
def IsGap (text : List Char) : Prop :=
  ∀ c ∈ text, isBlank c = true

/-- The spellings of a civil day: year, month and day with a dash between them and blanks before
each. -/
inductive SpellsDate : List Char → CivilDay → Prop
  | intro {gap year gap' month gap'' day : List Char} {c : CivilDay} (blank : IsGap gap)
      (blank' : IsGap gap') (blank'' : IsGap gap'') (year_spelled : SpellsYear year c.year)
      (month_spelled : SpellsPart month c.month) (day_spelled : SpellsPart day c.day) :
      SpellsDate (gap ++ (year ++ '-' :: (gap' ++ (month ++ '-' :: (gap'' ++ day))))) c

/-- Digits are not blanks. -/
theorem isBlank_of_isDigit {c : Char} (h : c.isDigit = true) : isBlank c = false := by
  have bounds : 48 ≤ c.toNat ∧ c.toNat ≤ 57 := Char.isDigit_iff_toNat.mp h
  simp only [isBlank, Bool.or_eq_false_iff, Bool.and_eq_false_iff, decide_eq_false_iff_not,
    beq_eq_false_iff_ne]
  omega

/-- A text whose first character is not blank has no blanks to skip. -/
theorem trimStart_cons {c : Char} (h : isBlank c = false) (rest : List Char) :
    trimStart (c :: rest) = c :: rest := by
  simp [trimStart, h]

/-- A text that starts with digits has no blanks to skip. -/
theorem trimStart_digits {digits : List Char} (ne : digits ≠ [])
    (all : ∀ c ∈ digits, c.isDigit = true) (rest : List Char) :
    trimStart (digits ++ rest) = digits ++ rest := by
  cases digits with
  | nil => exact absurd rfl ne
  | cons c digits =>
    exact trimStart_cons (isBlank_of_isDigit (all c List.mem_cons_self)) _

/-- There need not be any blanks in a gap. -/
theorem isGap_nil : IsGap [] :=
  nofun

section Digits

variable {text tail rest digits gap : List Char} {c : Char} {n : Nat} {limit : Option Nat}

/-- In a given number of digits a number is written in one way. -/
theorem IsNumeral.eq_padded {width : Nat} (h : IsNumeral digits n)
    (length_eq : digits.length = width) : digits = padded width n := by
  rw [← length_eq, ← h.value, padded_digitsValue h.all_digits]

/-- A number that is written in so many digits is smaller than the first that needs one more. -/
theorem IsNumeral.lt {width : Nat} (h : IsNumeral digits n) (length_eq : digits.length = width) :
    n < 10 ^ width := by
  rw [← length_eq, ← h.value]
  exact digitsValue_lt h.all_digits

/-- The blanks at the start of a text are a gap before the rest. -/
theorem exists_gap (text : List Char) : ∃ gap, IsGap gap ∧ text = gap ++ trimStart text := by
  refine ⟨text.takeWhile isBlank, ?_, List.takeWhile_append_dropWhile.symm⟩
  intro c mem
  exact List.mem_takeWhile_imp mem

/-- A gap is skipped together with the blanks that follow it. -/
theorem trimStart_gap (blank : IsGap gap) (text : List Char) :
    trimStart (gap ++ text) = trimStart text :=
  List.dropWhile_append_of_pos blank

/-- The digits that a text starts with, up to a limit if there is one. -/
def digitRun (limit : Option Nat) (text : List Char) : List Char :=
  (limit.elim text fun width => text.take width).takeWhile Char.isDigit

/-- Where there is a digit, the whole run of digits up to the limit is read. -/
theorem scanDigits_of_isDigit (digit : c.isDigit = true) : scanDigits limit (c :: tail) =
    .ok (digitsValue (digitRun limit (c :: tail)),
      (c :: tail).drop (digitRun limit (c :: tail)).length) := by
  cases limit <;> exact if_pos digit

/-- The run of digits is what the text starts with. -/
theorem digitRun_prefix : digitRun limit text <+: text := by
  refine (List.takeWhile_prefix _).trans ?_
  cases limit with
  | none => exact List.prefix_rfl
  | some width => exact List.take_prefix width text

/-- The run of digits is not longer than its limit. -/
theorem length_digitRun_le {width : Nat} : (digitRun (some width) text).length ≤ width :=
  Nat.le_trans (List.takeWhile_prefix _).length_le (List.length_take_le width text)

/-- Where there is a digit, the run of digits is not empty, unless no digits are allowed. -/
theorem digitRun_ne_nil (digit : c.isDigit = true) (positive : limit ≠ some 0) :
    digitRun limit (c :: tail) ≠ [] := by
  unfold digitRun
  rcases limit with _ | _ | width
  · simp [digit]
  · exact absurd rfl positive
  · simp [digit]

/-- What is read as digits are the digits at the start of the text, up to the limit. -/
theorem of_scanDigits (positive : limit ≠ some 0) (read : scanDigits limit text = .ok (n, rest)) :
    ∃ digits, text = digits ++ rest ∧ IsNumeral digits n ∧
      ∀ width, limit = some width → digits.length ≤ width := by
  cases text with
  | nil => cases read
  | cons c tail =>
    by_cases digit : c.isDigit = true
    · rw [scanDigits_of_isDigit digit, Except.ok.injEq, Prod.mk.injEq] at read
      obtain ⟨value, left⟩ := read
      refine ⟨digitRun limit (c :: tail), ?_, ⟨digitRun_ne_nil digit positive, ?_, value⟩, ?_⟩
      · rw [← left]
        exact (List.prefix_iff_eq_append.mp digitRun_prefix).symm
      · exact fun d mem => List.mem_takeWhile_imp mem
      · rintro width rfl
        exact length_digitRun_le
    · simp [scanDigits, digit] at read

/-- Digits do not go on. -/
def NoDigit (rest : List Char) : Prop :=
  ∀ c ∈ rest.head?, c.isDigit = false

/-- A dash is not a digit. -/
theorem noDigit_dash (rest : List Char) : NoDigit ('-' :: rest) := by
  rintro c ⟨⟩
  decide

/-- At the end of a text there are no more digits. -/
theorem noDigit_nil : NoDigit [] :=
  nofun

/-- Where digits do not go on, there is no run of them. -/
theorem takeWhile_of_noDigit (stop : NoDigit rest) : rest.takeWhile Char.isDigit = [] := by
  cases rest with
  | nil => rfl
  | cons c rest => exact List.takeWhile_cons_of_neg (by simp [stop c rfl])

/-- Digits within the limit are read as a whole if they do not go on. -/
theorem scanDigits_of_isNumeral (numeral : IsNumeral digits n)
    (short : ∀ width, limit = some width → digits.length ≤ width) (stop : NoDigit rest) :
    scanDigits limit (digits ++ rest) = .ok (n, rest) := by
  obtain ⟨nonempty, all, value⟩ := numeral
  have run : digitRun limit (digits ++ rest) = digits := by
    cases limit with
    | none =>
      rw [digitRun, Option.elim_none, List.takeWhile_append_of_pos all, takeWhile_of_noDigit stop,
        List.append_nil]
    | some width =>
      have stop' : NoDigit (rest.take (width - digits.length)) := by
        intro c mem
        rw [List.head?_take] at mem
        split_ifs at mem
        · cases mem
        · exact stop c mem
      rw [digitRun, Option.elim_some, List.take_append, List.take_of_length_le (short width rfl),
        List.takeWhile_append_of_pos all, takeWhile_of_noDigit stop', List.append_nil]
  obtain ⟨c, tail, rfl⟩ := List.exists_cons_of_ne_nil nonempty
  rw [List.cons_append] at run ⊢
  rw [scanDigits_of_isDigit (all c List.mem_cons_self), run, value, ← List.cons_append,
    List.drop_left]

end Digits

section Parts

variable {ε α β : Type} {text rest gap spelled : List Char} {year : Int} {n low high : Nat}

/-- If both steps together give a result, the first one does, and the second one gives the result
from there. -/
theorem exists_of_bind {x : Except ε α} {f : α → Except ε β} {b : β} (done : x >>= f = .ok b) :
    ∃ a, x = .ok a ∧ f a = .ok b := by
  cases x with
  | error cause => cases done
  | ok a => exact ⟨a, rfl, done⟩

/-- If both steps together fail, the first one does, or it succeeds and the second one fails. -/
theorem error_of_bind {x : Except ε α} {f : α → Except ε β} {e : ε}
    (failed : x >>= f = .error e) : x = .error e ∨ ∃ a, x = .ok a ∧ f a = .error e := by
  cases x with
  | error cause =>
    cases failed
    exact .inl rfl
  | ok a => exact .inr ⟨a, rfl, failed⟩

/-- A result that has been changed comes from one that has not. -/
theorem exists_of_map {x : Except ε α} {f : α → β} {b : β} (done : x.map f = .ok b) :
    ∃ a, x = .ok a ∧ f a = b := by
  cases x with
  | error cause => cases done
  | ok a =>
    cases done
    exact ⟨a, rfl, rfl⟩

/-- A year starts with a sign or a digit, neither of which is blank. -/
theorem SpellsYear.trimStart_eq (h : SpellsYear spelled year) (rest : List Char) :
    trimStart (spelled ++ rest) = spelled ++ rest := by
  cases h with
  | plain numeral => exact trimStart_digits numeral.nonempty numeral.all_digits rest
  | positive => exact trimStart_cons (by decide) _
  | negative => exact trimStart_cons (by decide) _

/-- A year that is found within 32 bits is found among the digits. -/
theorem of_boundedYear {x : Except DateFault (Nat × List Char)} {sign : Nat → Int}
    (read : (x.map fun found => (sign found.1, found.2)) >>= (fun found =>
      if -2147483648 ≤ found.1 ∧ found.1 ≤ 2147483647 then .ok (found.1, found.2)
      else .error .outOfRange) = .ok (year, rest)) :
    ∃ n, x = .ok (n, rest) ∧ sign n = year := by
  obtain ⟨found, scan, bounded⟩ := exists_of_bind read
  obtain ⟨⟨n, left⟩, digits, rfl⟩ := exists_of_map scan
  split_ifs at bounded
  cases bounded
  exact ⟨n, digits, rfl⟩

/-- What is read as a year spells it. -/
theorem of_scanYear (read : scanYear text = .ok (year, rest)) :
    ∃ gap spelled, text = gap ++ (spelled ++ rest) ∧ IsGap gap ∧ SpellsYear spelled year := by
  obtain ⟨gap, blank, split_text⟩ := exists_gap text
  unfold scanYear at read
  rw [split_text]
  split at read
  · rename_i digits signed
    obtain ⟨n, scan, rfl⟩ := @of_boundedYear _ _ _ (fun n => -(n : Int)) read
    obtain ⟨numeral, rfl, isNumeral, -⟩ := of_scanDigits (by simp) scan
    exact ⟨gap, '-' :: numeral, by rw [signed]; rfl, blank, .negative isNumeral⟩
  · rename_i digits signed
    obtain ⟨n, scan, rfl⟩ := @of_boundedYear _ _ _ (fun n => (n : Int)) read
    obtain ⟨numeral, rfl, isNumeral, -⟩ := of_scanDigits (by simp) scan
    exact ⟨gap, '+' :: numeral, by rw [signed]; rfl, blank, .positive isNumeral⟩
  · obtain ⟨n, scan, rfl⟩ := @of_boundedYear _ _ _ (fun n => (n : Int)) read
    obtain ⟨numeral, eq, isNumeral, short⟩ := of_scanDigits (by simp) scan
    exact ⟨gap, numeral, by rw [eq], blank, .plain isNumeral (short 4 rfl)⟩

/-- A year that needs no more than 32 bits is read as it is spelled, from a text that goes on with a
dash. -/
theorem SpellsYear.scanYear_eq (h : SpellsYear spelled year) (blank : IsGap gap)
    (fits : -2147483648 ≤ year ∧ year ≤ 2147483647) (rest : List Char) :
    scanYear (gap ++ (spelled ++ '-' :: rest)) = .ok (year, '-' :: rest) := by
  have stop := noDigit_dash rest
  rw [scanYear, trimStart_gap blank, h.trimStart_eq]
  cases h with
  | @plain _ n numeral short =>
    have scan : scanDigits (some 4) (spelled ++ '-' :: rest) = .ok (n, '-' :: rest) :=
      scanDigits_of_isNumeral numeral (by rintro _ ⟨⟩; exact short) stop
    obtain ⟨c, tail, rfl⟩ := List.exists_cons_of_ne_nil numeral.nonempty
    have digit : c.isDigit = true := numeral.all_digits c List.mem_cons_self
    rw [List.cons_append] at scan ⊢
    -- the first character is a digit, so the year is read as one without a sign
    split
    · exact absurd digit (by simp_all)
    · exact absurd digit (by simp_all)
    · rw [scan]
      exact if_pos fits
  | @positive digits n numeral =>
    have scan : scanDigits none (digits ++ '-' :: rest) = .ok (n, '-' :: rest) :=
      scanDigits_of_isNumeral numeral nofun stop
    simp only [List.cons_append, scan]
    exact if_pos fits
  | @negative digits n numeral =>
    have scan : scanDigits none (digits ++ '-' :: rest) = .ok (n, '-' :: rest) :=
      scanDigits_of_isNumeral numeral nofun stop
    simp only [List.cons_append, scan]
    exact if_pos fits

/-- What is read as a month or a day spells it and lies within the bounds. -/
theorem of_scanBounded (read : scanBounded low high text = .ok (n, rest)) :
    ∃ gap spelled, text = gap ++ (spelled ++ rest) ∧ IsGap gap ∧ SpellsPart spelled n ∧
      low ≤ n ∧ n ≤ high := by
  obtain ⟨gap, blank, split_text⟩ := exists_gap text
  obtain ⟨⟨found, left⟩, scan, bounded⟩ := exists_of_bind read
  obtain ⟨digits, eq, numeral, short⟩ := of_scanDigits (by simp) scan
  dsimp only at bounded
  split_ifs at bounded with within
  cases bounded
  exact ⟨gap, digits, by rw [split_text, eq], blank, ⟨numeral, short 2 rfl⟩, within⟩

/-- A month or a day within the bounds is read as it is spelled, if its digits do not go on. -/
theorem SpellsPart.scanBounded_eq (h : SpellsPart spelled n) (blank : IsGap gap)
    (within : low ≤ n ∧ n ≤ high) (stop : NoDigit rest) :
    scanBounded low high (gap ++ (spelled ++ rest)) = .ok (n, rest) := by
  have scan : scanDigits (some 2) (spelled ++ rest) = .ok (n, rest) :=
    scanDigits_of_isNumeral h.numeral (by rintro _ ⟨⟩; exact h.short) stop
  rw [scanBounded, trimStart_gap blank,
    trimStart_digits h.numeral.nonempty h.numeral.all_digits, scan]
  exact if_pos within

/-- A mark that is read stands at the start of the text, with nothing before it. -/
theorem of_scanMark {mark : Char} (read : scanMark false mark text = .ok rest) :
    text = mark :: rest := by
  unfold scanMark at read
  cases text with
  | nil => cases read
  | cons c tail =>
    simp only [Bool.false_eq_true, if_false] at read
    split_ifs at read with same
    cases read
    rw [same]

end Parts

/-- A dash at the start of a text is read, whatever the form. -/
theorem scanMark_dash (loose : Bool) (rest : List Char) :
    scanMark loose '-' ('-' :: rest) = .ok rest := by
  cases loose <;> rfl

/-- No month has more than 31 days. -/
theorem daysInMonth_le (leap : Bool) (month : Nat) : daysInMonth leap month ≤ 31 := by
  unfold daysInMonth
  split <;> (try split) <;> decide

/-- What is read as a civil day spells it. -/
theorem of_scanCivil {text rest : List Char} {c : CivilDay}
    (read : scanCivil false text = .ok (c, rest)) :
    ∃ spelled, text = spelled ++ rest ∧ SpellsDate spelled c := by
  obtain ⟨⟨year, after_year⟩, year_read, read⟩ := exists_of_bind read
  obtain ⟨from_month, dash_read, read⟩ := exists_of_bind read
  obtain ⟨⟨month, after_month⟩, month_read, read⟩ := exists_of_bind read
  obtain ⟨from_day, dash_read', read⟩ := exists_of_bind read
  obtain ⟨⟨day, after_day⟩, day_read, read⟩ := exists_of_bind read
  cases read
  obtain ⟨gap, year_text, rfl, blank, year_spelled⟩ := of_scanYear year_read
  obtain ⟨gap', month_text, rfl, blank', month_spelled, -⟩ := of_scanBounded month_read
  obtain ⟨gap'', day_text, rfl, blank'', day_spelled, -⟩ := of_scanBounded day_read
  obtain rfl := of_scanMark dash_read
  obtain rfl := of_scanMark dash_read'
  exact ⟨_, by simp, .intro blank blank' blank'' year_spelled month_spelled day_spelled⟩

/-- A civil day that exists in a year of no more than 32 bits is read as it is spelled, in either
form. -/
theorem SpellsDate.scanCivil_eq {text : List Char} {c : CivilDay} (h : SpellsDate text c)
    (real : c.Exists) (fits : -2147483648 ≤ c.year ∧ c.year ≤ 2147483647) (loose : Bool) :
    scanCivil loose text = .ok (c, []) := by
  obtain ⟨blank, blank', blank'', year_spelled, month_spelled, day_spelled⟩ := h
  obtain ⟨one_le_month, month_le, one_le_day, day_le⟩ := real
  have day_le : c.day ≤ 31 := Nat.le_trans day_le (daysInMonth_le _ _)
  have day := day_spelled.scanBounded_eq blank'' ⟨one_le_day, day_le⟩ noDigit_nil
  rw [List.append_nil] at day
  rw [scanCivil, year_spelled.scanYear_eq blank fits]
  simp only [bind, Except.bind, scanMark_dash,
    month_spelled.scanBounded_eq blank' ⟨one_le_month, month_le⟩ (noDigit_dash _), day]

/-- The spellings of the civil name of a date are read as the date, in either form. -/
theorem SpellsDate.read_eq {text : List Char} {d : Date} (h : SpellsDate text d.civil)
    (loose : Bool) : Date.read loose text = .ok d := by
  have year := d.year_bounds
  rw [Date.read, h.scanCivil_eq d.exists_civil (by omega)]
  cases loose <;> simp [bind, Except.bind, trimStart, d.ofCivil?_civil]

/-- The texts that are read as a date in the strict form are the spellings of its civil name. -/
theorem Date.read_eq_ok_iff {text : List Char} {d : Date} :
    Date.read false text = .ok d ↔ SpellsDate text d.civil := by
  refine ⟨fun read => ?_, fun spells => spells.read_eq false⟩
  obtain ⟨⟨c, rest⟩, civil_read, checked⟩ := exists_of_bind read
  obtain ⟨spelled, rfl, spells⟩ := of_scanCivil civil_read
  simp only [Bool.false_eq_true, if_false] at checked
  split_ifs at checked with whole
  obtain rfl := List.isEmpty_iff.mp whole
  cases found : Date.ofCivil? c with
  | none => simp [found] at checked
  | some day =>
    simp only [found, Except.ok.injEq] at checked
    obtain rfl := checked
    rw [(Date.ofCivil?_eq_some_iff.mp found).2, List.append_nil]
    exact spells

end DutyRoster
