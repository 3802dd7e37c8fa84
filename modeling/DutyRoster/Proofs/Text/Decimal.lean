import DutyRoster.Text.Decimal
import Mathlib.Algebra.Group.Nat.Defs
import Mathlib.Data.List.Induction

/-!
# Decimal text stands for numbers

A run of decimal digits is a faithful name of a number: reading the digits that were written for a
number gives the number back, whether they were written with as few digits as possible (`natural`)
or with a set number of them (`padded`), and with a set number of them there is only one way to
write it (`padded_digitsValue`). Digits of one width moreover sort as the numbers do, which is what
makes dates comparable as text; the step is `append_lt_append_iff`, by which two texts of
equal length decide the order before anything that follows them is looked at.
-/

set_option autoImplicit false

namespace DutyRoster.Text

/-- The character of a digit is a decimal digit. -/
theorem isDigit_digitChar {d : Nat} (h : d < 10) : (Nat.digitChar d).isDigit = true := by
  have all : ∀ d < 10, (Nat.digitChar d).isDigit = true := by decide
  exact all d h

/-- The characters of digits are in the order of the digits. -/
theorem digitChar_lt_digitChar_iff {a b : Nat} (ha : a < 10) (hb : b < 10) :
    Nat.digitChar a < Nat.digitChar b ↔ a < b := by
  have all : ∀ a < 10, ∀ b < 10, (Nat.digitChar a < Nat.digitChar b ↔ a < b) := by decide
  exact all a ha b hb

/-- A number is written in as many digits as it is asked to be. -/
@[simp] theorem length_padded (width n : Nat) : (padded width n).length = width := by
  induction width generalizing n with
  | zero => rfl
  | succ width ih => simp [padded, ih]

/-- A number in a set number of digits consists of digits. -/
theorem isDigit_of_mem_padded {width n : Nat} {c : Char} (h : c ∈ padded width n) :
    c.isDigit = true := by
  induction width generalizing n with
  | zero => simp [padded] at h
  | succ width ih =>
    simp only [padded, List.mem_append, List.mem_singleton] at h
    rcases h with h | rfl
    · exact ih h
    · exact isDigit_digitChar (Nat.mod_lt n (by decide))

/-- A natural number consists of digits. -/
theorem isDigit_of_mem_natural {n : Nat} {c : Char} (h : c ∈ natural n) : c.isDigit = true :=
  Nat.isDigit_of_mem_toDigits (by decide) (by decide) h

/-- Every natural number is written with at least one digit, zero included. -/
theorem natural_ne_nil (n : Nat) : natural n ≠ [] :=
  Nat.toDigits_ne_nil

/-- A number other than zero is written without a zero in front. -/
theorem natural_ne_zero_cons {n : Nat} (pos : 0 < n) (rest : List Char) :
    natural n ≠ '0' :: rest := by
  induction n using Nat.strongRecOn generalizing rest with
  | _ n ih =>
    rw [natural, Nat.toDigits_eq_if (by decide)]
    split
    case isTrue small =>
      have digits : ∀ d < 10, Nat.digitChar d = '0' → d = 0 := by decide
      intro eq
      injection eq with head
      exact Nat.ne_of_gt pos (digits n small head)
    case isFalse large =>
      have shorter := ih (n / 10) (by omega) (by omega)
      cases digits : natural (n / 10) with
      | nil => exact absurd digits (natural_ne_nil _)
      | cons c tail =>
        rw [natural] at digits
        rw [digits]
        intro eq
        injection eq with head
        exact shorter tail (by rw [natural, digits, head])

/-- One more digit at the end makes the value ten times as large and adds the digit. -/
theorem digitsValue_append_digit (digits : List Char) {d : Nat} (h : d < 10) :
    digitsValue (digits ++ [Nat.digitChar d]) = 10 * digitsValue digits + d := by
  unfold digitsValue
  rw [Nat.ofDigitChars_append, Nat.ofDigitChars_cons_digitChar_of_lt_ten h, Nat.ofDigitChars_nil]

/-- The value of the last digits of a number is the rest that they leave. -/
theorem digitsValue_padded (width n : Nat) : digitsValue (padded width n) = n % 10 ^ width := by
  induction width generalizing n with
  | zero => simp [padded, digitsValue, Nat.mod_one]
  | succ width ih =>
    rw [padded, digitsValue_append_digit _ (Nat.mod_lt n (by decide)), ih, Nat.pow_succ',
      Nat.mod_mul]
    omega

/-- A number that fits in so many digits has the value that it is written for. -/
theorem digitsValue_padded_of_lt {width n : Nat} (h : n < 10 ^ width) :
    digitsValue (padded width n) = n := by
  rw [digitsValue_padded, Nat.mod_eq_of_lt h]

/-- The digits of a natural number have the number as their value. -/
theorem digitsValue_natural (n : Nat) : digitsValue (natural n) = n :=
  Nat.ofDigitChars_ten_toDigits

/-- A natural number is read as it is written. -/
theorem readNatural?_natural (n : Nat) : readNatural? (natural n) = some n := by
  have digits : (natural n).all Char.isDigit = true :=
    List.all_eq_true.mpr fun _ mem => isDigit_of_mem_natural mem
  simp [readNatural?, natural_ne_nil, digits, digitsValue_natural]

/-- An integer is read as it is written. -/
theorem readInteger?_integer (n : Int) : readInteger? (integer n) = some n := by
  unfold integer
  split
  case isTrue negative =>
    simp only [readInteger?, readNatural?_natural, Option.map_some, Int.ofNat_eq_natCast]
    rw [show -((n.natAbs : Nat) : Int) = n by omega]
  case isFalse positive =>
    have digit : ∀ c ∈ natural n.natAbs, c.isDigit = true := fun _ mem => isDigit_of_mem_natural mem
    unfold readInteger?
    split
    case h_1 eq => simp [eq] at digit
    case h_2 eq => simp [eq] at digit
    case h_3 =>
      rw [readNatural?_natural, Option.map_some, Int.ofNat_eq_natCast,
        show ((n.natAbs : Nat) : Int) = n by omega]

/-- Integers that are written alike are the same. -/
theorem integer_injective {a b : Int} (h : integer a = integer b) : a = b := by
  have same := congrArg readInteger? h
  rwa [readInteger?_integer, readInteger?_integer, Option.some.injEq] at same

/-- Natural numbers that are written alike are the same. -/
theorem natural_injective {a b : Nat} (h : natural a = natural b) : a = b := by
  have same := congrArg digitsValue h
  rwa [digitsValue_natural, digitsValue_natural] at same

/-- Every decimal digit is the character of a digit below ten. -/
theorem exists_digitChar {c : Char} (h : c.isDigit = true) : ∃ d < 10, Nat.digitChar d = c := by
  have bounds : 48 ≤ c.toNat ∧ c.toNat ≤ 57 := Char.isDigit_iff_toNat.mp h
  refine ⟨c.toNat - 48, by omega, Char.toNat_inj.mp ?_⟩
  rw [Nat.toNat_digitChar_of_lt_ten (by omega)]
  omega

/-- The value of a run of digits is smaller than the first number that needs one digit more. -/
theorem digitsValue_lt {digits : List Char} (all : ∀ c ∈ digits, c.isDigit = true) :
    digitsValue digits < 10 ^ digits.length := by
  induction digits using List.reverseRecOn with
  | nil => decide
  | append_singleton digits c ih =>
    obtain ⟨d, lt, rfl⟩ := exists_digitChar (all c (List.mem_append_right _ List.mem_cons_self))
    have before := ih fun c mem => all c (List.mem_append_left _ mem)
    rw [digitsValue_append_digit digits lt, List.length_append, List.length_singleton,
      Nat.pow_succ']
    omega

/-- Writing the value of a run of digits in as many digits gives the run back. -/
theorem padded_digitsValue {digits : List Char} (all : ∀ c ∈ digits, c.isDigit = true) :
    padded digits.length (digitsValue digits) = digits := by
  induction digits using List.reverseRecOn with
  | nil => rfl
  | append_singleton digits c ih =>
    obtain ⟨d, lt, rfl⟩ := exists_digitChar (all c (List.mem_append_right _ List.mem_cons_self))
    have before := ih fun c mem => all c (List.mem_append_left _ mem)
    have tens : (10 * digitsValue digits + d) / 10 = digitsValue digits := by omega
    have ones : (10 * digitsValue digits + d) % 10 = d := by omega
    rw [digitsValue_append_digit digits lt, List.length_append, List.length_singleton, padded, tens,
      ones, before]

/-- Numbers that fit in so many digits, and are written alike in them, are the same. -/
theorem padded_injective {width a b : Nat} (ha : a < 10 ^ width) (hb : b < 10 ^ width)
    (h : padded width a = padded width b) : a = b := by
  have values := congrArg digitsValue h
  rwa [digitsValue_padded_of_lt ha, digitsValue_padded_of_lt hb] at values

/-- Texts of equal length decide the order before what follows them does. -/
theorem append_lt_append_iff {σ : Type} [LT σ] {a b : List σ} (h : a.length = b.length)
    (c d : List σ) : a ++ c < b ++ d ↔ a < b ∨ a = b ∧ c < d := by
  induction a generalizing b with
  | nil =>
    obtain rfl : b = [] := List.length_eq_zero_iff.mp h.symm
    simp
  | cons x a ih =>
    cases b with
    | nil => simp at h
    | cons y b =>
      have step := ih (b := b) (by simpa using h)
      simp only [List.cons_append, List.cons_lt_cons_iff, step, List.cons.injEq]
      constructor
      · rintro (lt | ⟨rfl, lt | ⟨rfl, lt⟩⟩)
        · exact .inl (.inl lt)
        · exact .inl (.inr ⟨rfl, lt⟩)
        · exact .inr ⟨⟨rfl, rfl⟩, lt⟩
      · rintro ((lt | ⟨rfl, lt⟩) | ⟨⟨rfl, rfl⟩, lt⟩)
        · exact .inl lt
        · exact .inr ⟨rfl, .inl lt⟩
        · exact .inr ⟨rfl, .inr ⟨rfl, lt⟩⟩

/-- Digits of one width sort as the numbers that they stand for. -/
theorem padded_lt_padded_iff {width a b : Nat} (ha : a < 10 ^ width) (hb : b < 10 ^ width) :
    padded width a < padded width b ↔ a < b := by
  induction width generalizing a b with
  | zero =>
    simp only [Nat.pow_zero, Nat.lt_one_iff] at ha hb
    simp [padded, ha, hb]
  | succ width ih =>
    have ha' : a / 10 < 10 ^ width := Nat.div_lt_of_lt_mul (by rwa [Nat.pow_succ'] at ha)
    have hb' : b / 10 < 10 ^ width := Nat.div_lt_of_lt_mul (by rwa [Nat.pow_succ'] at hb)
    have heads : padded width (a / 10) = padded width (b / 10) ↔ a / 10 = b / 10 :=
      ⟨padded_injective ha' hb', fun h => by rw [h]⟩
    have last := digitChar_lt_digitChar_iff (Nat.mod_lt a (by decide)) (Nat.mod_lt b (by decide))
    rw [padded, padded, append_lt_append_iff (by simp), ih ha' hb', heads]
    simp only [List.cons_lt_cons_iff, last]
    simp only [List.not_lt_nil, and_false, or_false]
    omega

end DutyRoster.Text
