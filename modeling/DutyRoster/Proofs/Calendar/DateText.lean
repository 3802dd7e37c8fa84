import DutyRoster.Proofs.Calendar.DateSpelling
import DutyRoster.Proofs.Text.Octets
import DutyRoster.Store.Query

/-!
# The text of a date is a faithful key

The text that is written for a date is one of the spellings of its civil name
(`Date.spellsDate_text`), so reading it gives the date back (`Date.read_text`), and dates with the
same text are the same.

The text also sorts, but only in part. Dates of the years 0 to 9999 (`Date.IsPlain`) have texts of
one width, and these are in the order of the calendar (`Date.text_lt_text_iff`); a year with a sign
makes the text smaller than all of these, on whichever side of them the date lies
(`Date.text_lt_text_of_not_isPlain`). A range of dates that ends in a plain year and does not start
after one therefore selects the right plain dates by text (`dateTextBetween_text_iff`).

`Date.text_is_faithful_key` puts this together for the octets of the texts, which are in the same
order as the texts themselves.
-/

set_option autoImplicit false

namespace DutyRoster

open Text

section Spelling

/-- A number that fits in so many digits is a numeral when it is written in them. -/
theorem isNumeral_padded {width n : Nat} (positive : 0 < width) (fits : n < 10 ^ width) :
    IsNumeral (padded width n) n :=
  ⟨List.ne_nil_of_length_pos (by rwa [length_padded]), fun _ mem => isDigit_of_mem_padded mem,
    digitsValue_padded_of_lt fits⟩

/-- A number in four digits, or in more if it needs them, is a numeral. -/
theorem isNumeral_fourDigits (n : Nat) : IsNumeral (fourDigits n) n := by
  unfold fourDigits
  split
  case isTrue h => exact isNumeral_padded (by decide) (by omega)
  case isFalse =>
    exact ⟨natural_ne_nil n, fun c mem => isDigit_of_mem_natural mem, digitsValue_natural n⟩

/-- The year of a date is spelled as it is written. -/
theorem spellsYear_yearText (year : Int) : SpellsYear (yearText year) year := by
  have numeral := isNumeral_fourDigits year.natAbs
  unfold yearText
  split
  case isTrue plain =>
    have four : fourDigits year.toNat = padded 4 year.toNat := if_pos (by omega)
    have same : ((year.toNat : Nat) : Int) = year := Int.toNat_of_nonneg plain.1
    have spells := SpellsYear.plain (isNumeral_padded (show 0 < 4 by decide)
      (show year.toNat < 10 ^ 4 by omega)) (by rw [length_padded])
    rwa [same, ← four] at spells
  case isFalse signed =>
    by_cases negative : year < 0
    · have spells := SpellsYear.negative numeral
      rwa [if_pos negative, show -((year.natAbs : Nat) : Int) = year by omega] at *
    · have spells := SpellsYear.positive numeral
      rwa [if_neg negative, show ((year.natAbs : Nat) : Int) = year by omega] at *

/-- A month or a day is spelled as it is written. -/
theorem spellsPart_padded {n : Nat} (two : n < 100) : SpellsPart (padded 2 n) n :=
  ⟨isNumeral_padded (by decide) two, (length_padded 2 n).le⟩

/-- The text of a date spells its civil name. -/
theorem Date.spellsDate_text (d : Date) : SpellsDate d.text.toList d.civil := by
  obtain ⟨-, month_le, -, day_le⟩ := d.exists_civil
  have day_le : d.civil.day ≤ 31 := Nat.le_trans day_le (daysInMonth_le _ _)
  have spells := SpellsDate.intro isGap_nil isGap_nil isGap_nil (spellsYear_yearText d.civil.year)
    (spellsPart_padded (show d.civil.month < 100 by omega))
    (spellsPart_padded (show d.civil.day < 100 by omega))
  simpa [Date.text, CivilDay.text] using spells

/-- Reading the text that is written for a date, in either form, gives the date back. -/
theorem Date.read_text (loose : Bool) (d : Date) : Date.read loose d.text.toList = .ok d :=
  d.spellsDate_text.read_eq loose

/-- Dates with the same text are the same. -/
theorem Date.text_injective {a b : Date} (h : a.text = b.text) : a = b := by
  have same : Except.ok a = (Except.ok b : Except DateFault Date) := by
    rw [← Date.read_text false a, ← Date.read_text false b, h]
  injection same

end Spelling

section Order

/-- The years whose dates are written without a sign. -/
def Date.IsPlain (d : Date) : Prop :=
  0 ≤ d.civil.year ∧ d.civil.year ≤ 9999

instance (d : Date) : Decidable d.IsPlain :=
  inferInstanceAs (Decidable (0 ≤ d.civil.year ∧ d.civil.year ≤ 9999))

/-- The plain dates are those from the first day of year 0 to the last day of year 9999. -/
theorem Date.isPlain_iff {d : Date} :
    d.IsPlain ↔ daysBeforeYear 0 ≤ d.number ∧ d.number < daysBeforeYear 10000 := by
  have bounds := CivilDay.number_bounds d.exists_civil
  rw [Date.number_civil] at bounds
  constructor
  · rintro ⟨low, high⟩
    have := daysBeforeYear_mono low
    have := daysBeforeYear_mono (a := d.civil.year + 1) (b := 10000) (by omega)
    omega
  · rintro ⟨low, high⟩
    constructor
    · by_contra h
      have := daysBeforeYear_mono (a := d.civil.year + 1) (b := 0) (by omega)
      omega
    · by_contra h
      have := daysBeforeYear_mono (a := 10000) (b := d.civil.year) (by omega)
      omega

/-- The text of a plain date has set widths throughout. -/
theorem Date.toList_text_of_isPlain {d : Date} (h : d.IsPlain) :
    d.text.toList = padded 4 d.civil.year.toNat ++
      '-' :: (padded 2 d.civil.month ++ '-' :: padded 2 d.civil.day) := by
  obtain ⟨low, high⟩ := h
  rw [Date.text, String.toList_ofList, CivilDay.text, yearText, if_pos ⟨low, high⟩, fourDigits,
    if_pos (by omega), List.append_assoc, List.cons_append]

/-- The texts of plain dates sort as the dates do. -/
theorem Date.text_lt_text_iff {a b : Date} (ha : a.IsPlain) (hb : b.IsPlain) :
    a.text < b.text ↔ a < b := by
  obtain ⟨one_le_a, month_le_a, one_le_day_a, day_le_a⟩ := a.exists_civil
  obtain ⟨one_le_b, month_le_b, one_le_day_b, day_le_b⟩ := b.exists_civil
  have day_a := Nat.le_trans day_le_a (daysInMonth_le _ _)
  have day_b := Nat.le_trans day_le_b (daysInMonth_le _ _)
  rw [String.lt_iff, toList_text_of_isPlain ha, toList_text_of_isPlain hb, Date.lt_iff_civil]
  obtain ⟨low_a, high_a⟩ := ha
  obtain ⟨low_b, high_b⟩ := hb
  have year_eq : padded 4 a.civil.year.toNat = padded 4 b.civil.year.toNat ↔
      a.civil.year = b.civil.year :=
    ⟨fun h => by have := padded_injective (by omega) (by omega) h; omega, fun h => by rw [h]⟩
  have month_eq : padded 2 a.civil.month = padded 2 b.civil.month ↔
      a.civil.month = b.civil.month :=
    ⟨fun h => padded_injective (by omega) (by omega) h, fun h => by rw [h]⟩
  have year_lt : padded 4 a.civil.year.toNat < padded 4 b.civil.year.toNat ↔
      a.civil.year.toNat < b.civil.year.toNat := padded_lt_padded_iff (by omega) (by omega)
  have month_lt : padded 2 a.civil.month < padded 2 b.civil.month ↔
      a.civil.month < b.civil.month := padded_lt_padded_iff (by omega) (by omega)
  have day_lt : padded 2 a.civil.day < padded 2 b.civil.day ↔ a.civil.day < b.civil.day :=
    padded_lt_padded_iff (by omega) (by omega)
  rw [append_lt_append_iff (by simp), year_lt, year_eq, List.cons_lt_cons_iff,
    append_lt_append_iff (by simp), month_lt, month_eq, List.cons_lt_cons_iff, day_lt]
  simp only [Char.lt_irrefl, true_and, false_or]
  omega

/-- The texts of plain dates sort as the dates do, equal ones included. -/
theorem Date.text_le_text_iff {a b : Date} (ha : a.IsPlain) (hb : b.IsPlain) :
    a.text ≤ b.text ↔ a ≤ b := by
  rw [← String.not_lt, Date.text_lt_text_iff hb ha, not_lt]

/-- The text of a date starts with a sign unless the date is plain. -/
theorem Date.toList_text_of_not_isPlain {d : Date} (h : ¬ d.IsPlain) :
    ∃ sign rest, d.text.toList = sign :: rest ∧ (sign = '-' ∨ sign = '+') := by
  unfold Date.IsPlain at h
  rw [Date.text, String.toList_ofList, CivilDay.text, yearText, if_neg h]
  by_cases negative : d.civil.year < 0
  · exact ⟨'-', _, by rw [if_pos negative]; rfl, .inl rfl⟩
  · exact ⟨'+', _, by rw [if_neg negative]; rfl, .inr rfl⟩

/-- Both signs come before the digits. -/
theorem sign_lt_of_isDigit {sign c : Char} (hs : sign = '-' ∨ sign = '+') (hc : c.isDigit = true) :
    sign < c := by
  have low : 48 ≤ c.toNat := (Char.isDigit_iff_toNat.mp hc).1
  rw [Char.lt_def, UInt32.lt_iff_toNat_lt]
  rcases hs with rfl | rfl
  · exact Nat.lt_of_lt_of_le (by decide) low
  · exact Nat.lt_of_lt_of_le (by decide) low

/-- The text of a date that is not plain is smaller than that of any plain date. -/
theorem Date.text_lt_text_of_not_isPlain {a b : Date} (ha : ¬ a.IsPlain) (hb : b.IsPlain) :
    a.text < b.text := by
  obtain ⟨sign, rest, text_a, hs⟩ := toList_text_of_not_isPlain ha
  have text_b := toList_text_of_isPlain hb
  have nonempty : padded 4 b.civil.year.toNat ≠ [] := by simp [padded]
  obtain ⟨c, tail, cons⟩ := List.exists_cons_of_ne_nil nonempty
  have head : c ∈ padded 4 b.civil.year.toNat := by
    rw [cons]
    exact List.mem_cons_self
  have digit : c.isDigit = true := isDigit_of_mem_padded head
  rw [String.lt_iff, text_a, text_b, cons, List.cons_append, List.cons_lt_cons_iff]
  exact .inl (sign_lt_of_isDigit hs digit)

/-- A later date than all plain ones has a smaller text than any other date. -/
theorem Date.text_lt_text_of_late {a b : Date} (ha : 9999 < a.civil.year)
    (hb : b.civil.year ≤ 9999) : a.text < b.text := by
  by_cases negative : b.civil.year < 0
  · have plus : a.civil.text = '+' :: (fourDigits a.civil.year.natAbs ++
        '-' :: padded 2 a.civil.month ++ '-' :: padded 2 a.civil.day) := by
      rw [CivilDay.text, yearText, if_neg (by omega), if_neg (by omega)]
      rfl
    have minus : b.civil.text = '-' :: (fourDigits b.civil.year.natAbs ++
        '-' :: padded 2 b.civil.month ++ '-' :: padded 2 b.civil.day) := by
      rw [CivilDay.text, yearText, if_neg (by omega), if_pos negative]
      rfl
    rw [String.lt_iff, Date.text, Date.text, String.toList_ofList, String.toList_ofList, plus,
      minus, List.cons_lt_cons_iff]
    exact .inl (by decide)
  · exact Date.text_lt_text_of_not_isPlain (fun plain => absurd plain.2 (by omega))
      ⟨by omega, hb⟩

/-- A range of dates selects the right plain dates by text if it ends in a plain year and does not
start after one. -/
theorem dateTextBetween_text_iff {first last d : Date} (hd : d.IsPlain)
    (not_after : first.number < daysBeforeYear 10000) (plain_end : last.IsPlain) :
    dateTextBetween first last d.text = true ↔ first ≤ d ∧ d ≤ last := by
  simp only [dateTextBetween, Bool.and_eq_true, decide_eq_true_eq, ← String.not_lt]
  rw [Date.text_lt_text_iff plain_end hd]
  have upper : ¬ last < d ↔ d ≤ last := by
    simp only [Date.lt_iff, Date.le_iff]
    omega
  rw [upper]
  by_cases hf : first.IsPlain
  · rw [Date.text_lt_text_iff hd hf]
    simp only [Date.lt_iff, Date.le_iff]
    omega
  · have below : first.text < d.text := Date.text_lt_text_of_not_isPlain hf hd
    have not_lt : ¬ d.text < first.text := String.lt_asymm below
    have before : first ≤ d := by
      rw [Date.isPlain_iff] at hd hf
      rw [Date.le_iff]
      omega
    simp only [not_lt, before, not_false_eq_true, true_and]

end Order

section Key

/-- The octets that are stored for a date. -/
def Date.octets (d : Date) : List UInt8 :=
  encode d.text.toList

/-- The octets of dates are in the order of their texts. -/
theorem Date.octets_lt_octets_iff {a b : Date} : a.octets < b.octets ↔ a.text < b.text := by
  rw [Date.octets, Date.octets, encode_lt_encode_iff, String.lt_iff]

/-- The octets of dates are in the order of their texts, equal ones included. -/
theorem Date.octets_le_octets_iff {a b : Date} : a.octets ≤ b.octets ↔ a.text ≤ b.text := by
  rw [← String.not_lt, ← Date.octets_lt_octets_iff, List.not_lt]

/-- The text that is stored for a date is a faithful key. Reading it gives the date back, in
whatever column it stands, so that dates have the same text only if they are the same. Comparing
texts is comparing their octets one by one. In this order the dates of the years 0 to 9999 are as
they are in the calendar; dates of negative years come before all of these, and dates after the year
9999 before both. -/
theorem Date.text_is_faithful_key :
    (∀ (column : Nat) (d : Date), dateAt column d.text = .ok d) ∧
    (∀ a b : Date, a.text = b.text ↔ a = b) ∧
    (∀ a b : Date, a.text ≤ b.text ↔ a.octets ≤ b.octets) ∧
    (∀ a b : Date, a.IsPlain → b.IsPlain → (a.octets ≤ b.octets ↔ a ≤ b)) ∧
    (∀ a b : Date, a.civil.year < 0 → b.IsPlain → a.octets < b.octets) ∧
    ∀ a b : Date, 9999 < a.civil.year → b.civil.year ≤ 9999 → a.octets < b.octets := by
  refine ⟨fun column d => ?_, fun a b => ⟨Date.text_injective, congrArg _⟩,
    fun a b => Date.octets_le_octets_iff.symm, fun a b ha hb => ?_, fun a b ha hb => ?_,
    fun a b ha hb => ?_⟩
  · rw [dateAt, Date.read_text]
    rfl
  · rw [Date.octets_le_octets_iff, Date.text_le_text_iff ha hb]
  · have signed : ¬ a.IsPlain := fun plain => absurd plain.1 (by omega)
    exact Date.octets_lt_octets_iff.mpr (Date.text_lt_text_of_not_isPlain signed hb)
  · exact Date.octets_lt_octets_iff.mpr (Date.text_lt_text_of_late ha hb)

/-- The days around the first and the last of the years without a sign. -/
theorem Date.text_is_faithful_key_around_plain_years :
    let early : Date := ⟨-1, by decide, by decide⟩
    let first : Date := ⟨0, by decide, by decide⟩
    let last : Date := ⟨daysBeforeYear 10000 - 1, by decide, by decide⟩
    let late : Date := ⟨daysBeforeYear 10000, by decide, by decide⟩
    first.IsPlain ∧ last.IsPlain ∧ early.civil.year < 0 ∧ 9999 < late.civil.year ∧
    [early, first, last, late].map Date.text =
      ["-0001-12-31", "0000-01-01", "9999-12-31", "+10000-01-01"] ∧
    late.octets < early.octets ∧ early.octets < first.octets ∧ first.octets ≤ last.octets ∧
    ¬ last.octets ≤ first.octets := by
  intro early first last late
  obtain ⟨-, -, -, plain, negative, after⟩ := Date.text_is_faithful_key
  have first_plain : first.IsPlain := by decide
  have last_plain : last.IsPlain := by decide
  refine ⟨first_plain, last_plain, by decide, by decide, by decide +kernel,
    after late early (by decide) (by decide), negative early first (by decide) first_plain,
    (plain first last first_plain last_plain).mpr (by decide), ?_⟩
  rw [plain last first last_plain first_plain]
  decide

end Key

end DutyRoster
