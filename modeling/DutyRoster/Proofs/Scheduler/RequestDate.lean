import DutyRoster.Proofs.Calendar.DateText
import DutyRoster.Scheduler.Request
import Mathlib.Data.String.Basic

/-!
# The date of a request

The date of a request is meant to be written in one form: four digits, a dash, two digits, a dash
and two digits (`IsDateForm`). What is checked is that the text has ten octets, and then it is read
as any date is. The two together let in more than the form: a sign or a blank makes up for a digit
that is left out. Without them there is nothing to make up with, since ten octets are as many as
year, month and day can fill (`SpellsDate.isDateForm`).

So the form is accepted, and it is what dates print back as; a text without a sign and without
blanks is accepted in this form only, and whatever else is accepted has a sign or a blank and is a
second text for its date (`requestDate_is_strict_for_bare_texts`).
-/

set_option autoImplicit false

namespace DutyRoster

open Text

/-- The form of the date of a request: four digits, two digits and two digits with dashes between
them, which stand for the numbers of a civil day. -/
inductive IsDateForm : List Char → CivilDay → Prop
  | intro {year month day : List Char} {n : Nat} {c : CivilDay} (four : year.length = 4)
      (two : month.length = 2) (two' : day.length = 2) (year_numeral : IsNumeral year n)
      (year_eq : c.year = n) (month_numeral : IsNumeral month c.month)
      (day_numeral : IsNumeral day c.day) : IsDateForm (year ++ '-' :: (month ++ '-' :: day)) c

/-- A text without blanks that does not start with a sign. -/
structure IsBare (text : List Char) : Prop where
  no_blank : ∀ c ∈ text, isBlank c = false
  no_sign : ∀ c ∈ text.head?, c ≠ '+' ∧ c ≠ '-'

section Octets

variable {text digits : List Char} {n : Nat}

/-- The octets of a text are counted character by character. -/
theorem utf8ByteSize_eq_utf8Len (text : String) :
    text.utf8ByteSize = String.utf8Len text.toList := by
  rw [← String.utf8ByteSize_ofList, String.ofList_toList]

/-- A text has at least as many octets as characters. -/
theorem length_le_utf8Len (text : List Char) : text.length ≤ String.utf8Len text := by
  induction text with
  | nil => exact Nat.le_refl 0
  | cons c text ih =>
    have positive := c.utf8Size_pos
    rw [List.length_cons, String.utf8Len_cons]
    omega

/-- Digits have one octet each. -/
theorem IsNumeral.utf8Len_eq (h : IsNumeral digits n) : String.utf8Len digits = digits.length := by
  have all := h.all_digits
  clear h
  induction digits with
  | nil => rfl
  | cons c digits ih =>
    have digit : c.isDigit = true := all c List.mem_cons_self
    have one : c.utf8Size = 1 := by
      have bounds : 48 ≤ c.toNat ∧ c.toNat ≤ 57 := Char.isDigit_iff_toNat.mp digit
      rw [Char.utf8Size_eq_one_iff, UInt32.le_iff_toNat_le]
      exact Nat.le_trans bounds.2 (by decide)
    rw [String.utf8Len_cons, ih fun c mem => all c (List.mem_cons_of_mem _ mem), one,
      List.length_cons]

/-- A year is written with four digits or more. -/
theorem four_le_length_fourDigits (n : Nat) : 4 ≤ (fourDigits n).length := by
  have bound := (isNumeral_fourDigits n).lt rfl
  by_cases small : n < 10000
  · rw [fourDigits, if_pos small, length_padded]
  · by_contra short
    have : 10 ^ (fourDigits n).length ≤ 10 ^ 4 := Nat.pow_le_pow_right (by decide) (by omega)
    omega

end Octets

section Form

variable {text : List Char} {c : CivilDay} {d : Date}

/-- What is written in the form for a day spells it. -/
theorem IsDateForm.spellsDate (h : IsDateForm text c) : SpellsDate text c := by
  obtain ⟨four, two, two', year_numeral, year_eq, month_numeral, day_numeral⟩ := h
  have year_spelled := SpellsYear.plain year_numeral four.le
  rw [← year_eq] at year_spelled
  exact .intro isGap_nil isGap_nil isGap_nil year_spelled ⟨month_numeral, two.le⟩
    ⟨day_numeral, two'.le⟩

/-- What is written in the form has ten octets. -/
theorem IsDateForm.utf8Len_eq (h : IsDateForm text c) : String.utf8Len text = 10 := by
  obtain ⟨four, two, two', year_numeral, -, month_numeral, day_numeral⟩ := h
  have dash : '-'.utf8Size = 1 := by decide
  simp only [String.utf8Len_append, String.utf8Len_cons, year_numeral.utf8Len_eq,
    month_numeral.utf8Len_eq, day_numeral.utf8Len_eq, four, two, two', dash]

/-- What is written in the form has no blanks and no sign. -/
theorem IsDateForm.isBare (h : IsDateForm text c) : IsBare text := by
  obtain ⟨-, -, -, year_numeral, -, month_numeral, day_numeral⟩ := h
  constructor
  · intro c mem
    have dash : isBlank '-' = false := by decide
    simp only [List.mem_append, List.mem_cons] at mem
    rcases mem with mem | rfl | mem | rfl | mem
    · exact isBlank_of_isDigit (year_numeral.all_digits c mem)
    · exact dash
    · exact isBlank_of_isDigit (month_numeral.all_digits c mem)
    · exact dash
    · exact isBlank_of_isDigit (day_numeral.all_digits c mem)
  · intro c first
    obtain ⟨head, tail, rfl⟩ := List.exists_cons_of_ne_nil year_numeral.nonempty
    obtain rfl : head = c := by simpa using first
    have digit := year_numeral.all_digits head List.mem_cons_self
    exact ⟨by rintro rfl; simp at digit, by rintro rfl; simp at digit⟩

/-- A gap in a bare text is empty. -/
theorem IsBare.gap_eq_nil {gap : List Char} (bare : IsBare text) (blank : IsGap gap)
    (within : gap ⊆ text) : gap = [] := by
  refine List.eq_nil_iff_forall_not_mem.mpr fun c mem => ?_
  have no_blank := bare.no_blank c (within mem)
  rw [blank c mem] at no_blank
  cases no_blank

/-- A spelling without blanks and sign that fills ten octets has the form of the date of a
request. -/
theorem SpellsDate.isDateForm (h : SpellsDate text c) (bare : IsBare text)
    (size : String.utf8Len text = 10) : IsDateForm text c := by
  obtain ⟨blank, blank', blank'', year_spelled, month_spelled, day_spelled⟩ := h
  obtain rfl := bare.gap_eq_nil blank fun c mem => by simp [mem]
  obtain rfl := bare.gap_eq_nil blank' fun c mem => by simp [mem]
  obtain rfl := bare.gap_eq_nil blank'' fun c mem => by simp [mem]
  simp only [List.nil_append] at bare size ⊢
  have dash : '-'.utf8Size = 1 := by decide
  have month_size := month_spelled.numeral.utf8Len_eq
  have day_size := day_spelled.numeral.utf8Len_eq
  have month_short := month_spelled.short
  have day_short := day_spelled.short
  generalize year_eq : c.year = year at year_spelled
  cases year_spelled with
  | plain numeral short =>
    simp only [String.utf8Len_append, String.utf8Len_cons, numeral.utf8Len_eq,
      month_size, day_size, dash] at size
    exact .intro (by omega) (by omega) (by omega) numeral year_eq month_spelled.numeral
      day_spelled.numeral
  | positive => exact absurd rfl (bare.no_sign '+' rfl).1
  | negative => exact absurd rfl (bare.no_sign '-' rfl).2

/-- A date that is written in the form lies in a plain year. -/
theorem IsDateForm.isPlain (h : IsDateForm text d.civil) : d.IsPlain := by
  unfold Date.IsPlain
  generalize d.civil = c at h
  obtain ⟨four, -, -, year_numeral, year_eq, -, -⟩ := h
  have bound := year_numeral.lt four
  omega

/-- What is written in the form for a date is the text of the date. -/
theorem IsDateForm.eq_text (h : IsDateForm text d.civil) : text = d.text.toList := by
  rw [Date.toList_text_of_isPlain h.isPlain]
  generalize d.civil = c at h
  obtain ⟨four, two, two', year_numeral, year_eq, month_numeral, day_numeral⟩ := h
  rw [year_eq, Int.toNat_natCast, ← year_numeral.eq_padded four, ← month_numeral.eq_padded two,
    ← day_numeral.eq_padded two']

/-- The text of a date of a plain year has the form. -/
theorem Date.isDateForm_text (plain : d.IsPlain) : IsDateForm d.text.toList d.civil := by
  obtain ⟨-, month_le, -, day_le⟩ := d.exists_civil
  have day_le : d.civil.day ≤ 31 := Nat.le_trans day_le (daysInMonth_le _ _)
  rw [Date.toList_text_of_isPlain plain]
  obtain ⟨low, high⟩ := plain
  exact .intro (length_padded 4 _) (length_padded 2 _) (length_padded 2 _)
    (isNumeral_padded (by decide) (by omega)) (Int.toNat_of_nonneg low).symm
    (isNumeral_padded (by decide) (by omega)) (isNumeral_padded (by decide) (by omega))

/-- The text of a date of any other year is longer than ten octets. -/
theorem Date.isPlain_of_size (size : d.text.utf8ByteSize = 10) : d.IsPlain := by
  by_contra signed
  have four := four_le_length_fourDigits d.civil.year.natAbs
  have long := length_le_utf8Len d.text.toList
  rw [← utf8ByteSize_eq_utf8Len, size, Date.text, String.toList_ofList, CivilDay.text, yearText,
    if_neg (show ¬ (0 ≤ d.civil.year ∧ d.civil.year ≤ 9999) from signed)] at long
  simp only [List.length_append, List.length_cons, length_padded] at long
  omega

/-- There is a date for what is written in the form, if the day exists. -/
theorem IsDateForm.exists_date (h : IsDateForm text c) (real : c.Exists) :
    ∃ d : Date, d.civil = c := by
  obtain ⟨four, -, -, year_numeral, year_eq, -, -⟩ := h
  have bound := year_numeral.lt four
  exact Date.exists_of_year real (by omega) (by omega)

end Form

section Acceptance

variable {text other : String} {day : Date}

/-- The texts that are accepted for a date are its spellings with ten octets. -/
theorem requestDate_eq_ok_iff : requestDate text = .ok day ↔
    text.utf8ByteSize = 10 ∧ SpellsDate text.toList day.civil := by
  rw [← Date.read_eq_ok_iff, requestDate]
  by_cases size : text.utf8ByteSize = 10
  · rw [if_pos size]
    cases Date.read false text.toList with
    | error fault => simp [Except.mapError]
    | ok found => simp [Except.mapError, size]
  · simp [size]

/-- A date is refused for its shape or for what it reads. -/
theorem requestDate_error {cause : SchedulingError} (refused : requestDate text = .error cause) :
    cause = .misshapenDate text ∨ ∃ fault, cause = .invalidDate text fault := by
  unfold requestDate at refused
  split at refused
  · cases scan : Date.read false text.toList with
    | error fault =>
      simp only [scan, Except.mapError, Except.error.injEq] at refused
      exact .inr ⟨fault, refused.symm⟩
    | ok day => simp [scan, Except.mapError] at refused
  · simp only [Except.error.injEq] at refused
    exact .inl refused.symm

/-- What is written in the form for a date is accepted for it. -/
theorem requestDate_of_isDateForm (form : IsDateForm text.toList day.civil) :
    requestDate text = .ok day := by
  refine requestDate_eq_ok_iff.mpr ⟨?_, form.spellsDate⟩
  rw [utf8ByteSize_eq_utf8Len, form.utf8Len_eq]

/-- The text of a date of a plain year is accepted for the date. -/
theorem requestDate_text (plain : day.IsPlain) : requestDate day.text = .ok day :=
  requestDate_of_isDateForm (Date.isDateForm_text plain)

/-- What is accepted without a sign and blanks has the form. -/
theorem isDateForm_of_requestDate (bare : IsBare text.toList) (read : requestDate text = .ok day) :
    IsDateForm text.toList day.civil := by
  obtain ⟨size, spells⟩ := requestDate_eq_ok_iff.mp read
  rw [utf8ByteSize_eq_utf8Len] at size
  exact spells.isDateForm bare size

/-- What has the form for a date is what the date prints back as. -/
theorem text_eq_of_isDateForm (form : IsDateForm text.toList day.civil) : day.text = text :=
  String.toList_injective form.eq_text.symm

/-- What is accepted and is what the date prints back as has the form. -/
theorem isDateForm_of_text_eq (read : requestDate text = .ok day) (same : day.text = text) :
    IsDateForm text.toList day.civil := by
  obtain ⟨size, -⟩ := requestDate_eq_ok_iff.mp read
  rw [← same] at size ⊢
  exact Date.isDateForm_text (Date.isPlain_of_size size)

/-- The texts that are accepted for a date are its spellings with ten octets. Every text in the form
is accepted if the day exists, for the date that it names, and is what the date prints back as.
Whatever else is accepted has a sign in front or a blank, and is not what the date prints back as;
so no two texts without sign and blanks are accepted for one date. A text that is not accepted is
refused as input, and the refusal repeats it. -/
theorem requestDate_is_strict_for_bare_texts (text : String) :
    (∀ day, requestDate text = .ok day ↔
      text.utf8ByteSize = 10 ∧ SpellsDate text.toList day.civil) ∧
    (∀ c, IsDateForm text.toList c → c.Exists →
      ∃ day, day.civil = c ∧ requestDate text = .ok day ∧ day.text = text) ∧
    (∀ day, requestDate text = .ok day →
      (IsDateForm text.toList day.civil ↔ IsBare text.toList) ∧
      (day.text = text ↔ IsBare text.toList)) ∧
    (∀ other day, IsBare text.toList → IsBare other.toList → requestDate text = .ok day →
      requestDate other = .ok day → text = other) ∧
    ((∃ day, requestDate text = .ok day) ∨
      ∃ cause, requestDate text = .error cause ∧ cause.errorClass = .input ∧
        (cause = .misshapenDate text ∨ ∃ fault, cause = .invalidDate text fault)) := by
  have form_iff : ∀ day, requestDate text = .ok day →
      (IsDateForm text.toList day.civil ↔ IsBare text.toList) :=
    fun day read => ⟨IsDateForm.isBare, fun bare => isDateForm_of_requestDate bare read⟩
  refine ⟨fun day => requestDate_eq_ok_iff, ?exists_day, ?printed, ?unique, ?refused⟩
  case exists_day =>
    intro c form real
    obtain ⟨day, rfl⟩ := form.exists_date real
    exact ⟨day, rfl, requestDate_of_isDateForm form, text_eq_of_isDateForm form⟩
  case printed =>
    intro day read
    refine ⟨form_iff day read, ?_⟩
    rw [← form_iff day read]
    exact ⟨isDateForm_of_text_eq read, text_eq_of_isDateForm⟩
  case unique =>
    intro other day bare bare' read read'
    rw [← text_eq_of_isDateForm (isDateForm_of_requestDate bare read),
      ← text_eq_of_isDateForm (isDateForm_of_requestDate bare' read')]
  case refused =>
    cases read : requestDate text with
    | ok day => exact .inl ⟨day, rfl⟩
    | error cause =>
      have shape := requestDate_error read
      refine .inr ⟨cause, rfl, ?_, shape⟩
      rcases shape with rfl | ⟨fault, rfl⟩ <;> rfl

/-- 1 August 2020 is accepted in the form, and prints back in it. -/
theorem requestDate_is_strict_for_bare_texts_of_form :
    (IsDateForm "2020-08-01".toList ⟨2020, 8, 1⟩ ∧ (⟨2020, 8, 1⟩ : CivilDay).Exists) ∧
      ∃ day : Date, day.civil = ⟨2020, 8, 1⟩ ∧ requestDate "2020-08-01" = .ok day ∧
        day.text = "2020-08-01" := by
  have parts : "2020-08-01".toList =
      padded 4 2020 ++ '-' :: (padded 2 8 ++ '-' :: padded 2 1) := by decide
  have form : IsDateForm "2020-08-01".toList ⟨2020, 8, 1⟩ := by
    rw [parts]
    exact .intro (length_padded 4 _) (length_padded 2 _) (length_padded 2 _)
      (isNumeral_padded (by decide) (by decide)) rfl (isNumeral_padded (by decide) (by decide))
      (isNumeral_padded (by decide) (by decide))
  have real : (⟨2020, 8, 1⟩ : CivilDay).Exists := by decide
  exact ⟨⟨form, real⟩, (requestDate_is_strict_for_bare_texts "2020-08-01").2.1 _ form real⟩

/-- With a sign or a blank in front and one zero less a date has texts that do not have the form. -/
theorem requestDate_of_short_month :
    (requestDate "+2020-8-01").map Date.civil = .ok ⟨2020, 8, 1⟩ ∧
      (requestDate " 2020-8-01").map Date.civil = .ok ⟨2020, 8, 1⟩ ∧
      (requestDate "2020-08-01").map Date.civil = .ok ⟨2020, 8, 1⟩ ∧
      ∀ c, ¬ IsDateForm "+2020-8-01".toList c ∧ ¬ IsDateForm " 2020-8-01".toList c := by
  refine ⟨by decide +kernel, by decide +kernel, by decide +kernel, fun c => ⟨?_, ?_⟩⟩
  · intro form
    exact (form.isBare.no_sign '+' (by decide)).1 rfl
  · intro form
    exact absurd (form.isBare.no_blank ' ' (by decide)) (by decide)

end Acceptance

end DutyRoster
