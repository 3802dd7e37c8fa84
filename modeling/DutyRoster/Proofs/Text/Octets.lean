import DutyRoster.Text.Octets
import DutyRoster.Proofs.Text.Decimal
import Mathlib.Data.Char

/-!
# Octets of text

What is encoded is decoded as it was (`Text.decode_encode`). The form of a character is a single
octet with the number of the character if that is below 128, and otherwise has no octets below 128
(`Text.ascii_or_high`), so that an octet below 128 always is a character of its own, wherever it
stands. Nothing else is well formed (`Text.wellFormed?_decode_eq_some_iff`).

Texts are in the order of their octets (`Text.encode_lt_encode_iff`): the form of a character says
first how many octets it has, and then gives the number of the character by its digits to base 64,
highest first.
-/

set_option autoImplicit false

namespace DutyRoster.Text

/-- A text is encoded character by character. -/
theorem encode_cons (c : Char) (text : List Char) :
    encode (c :: text) = String.utf8EncodeChar c ++ encode text :=
  List.flatMap_cons

/-- The form of a character is found in front of whatever comes after it. -/
theorem leadingChar?_append (c : Char) (rest : List UInt8) :
    leadingChar? (String.utf8EncodeChar c ++ rest) = some c := by
  have size_le : (String.utf8EncodeChar c).length ≤ 4 := by
    rw [String.length_utf8EncodeChar]
    exact c.utf8Size_le_four
  rw [leadingChar?, List.take_append, List.take_of_length_le size_le, List.toByteArray_append]
  exact ByteArray.utf8DecodeChar?_utf8EncodeChar_append

/-- After the form of a character, decoding goes on with what comes after it. -/
theorem decode_append (c : Char) (rest : List UInt8) :
    decode (String.utf8EncodeChar c ++ rest) = some c :: decode rest := by
  have leading := leadingChar?_append c rest
  have size : (String.utf8EncodeChar c).length = c.utf8Size := String.length_utf8EncodeChar c
  obtain ⟨octet, others, cons⟩ : ∃ octet others, String.utf8EncodeChar c = octet :: others :=
    List.exists_cons_of_length_pos (by rw [size]; exact c.utf8Size_pos)
  rw [cons, List.cons_append] at leading ⊢
  rw [decode, leading]
  dsimp only
  rw [← List.cons_append, ← cons, ← size, List.drop_left]

/-- What is encoded is decoded as it was. -/
theorem decode_encode (text : List Char) : decode (encode text) = text.map some := by
  induction text with
  | nil => simp [encode, decode]
  | cons c text ih => rw [encode_cons, decode_append, ih, List.map_cons]

/-- A text in which no character is missing is well formed. -/
theorem wellFormed?_map_some (text : List Char) : wellFormed? (text.map some) = some text := by
  induction text with
  | nil => rfl
  | cons c text ih => rw [List.map_cons, wellFormed?, ih, Option.map_some]

/-- What is read as a character begins with the form of that character. -/
theorem exists_of_leadingChar? {octets : List UInt8} {c : Char}
    (leading : leadingChar? octets = some c) :
    ∃ rest, octets = String.utf8EncodeChar c ++ rest := by
  obtain ⟨more, eq⟩ := ByteArray.exists_of_utf8DecodeChar?_eq_some leading
  have taken : octets.take 4 = String.utf8EncodeChar c ++ more.data.toList := by
    simpa using congrArg (·.data.toList) eq
  exact ⟨more.data.toList ++ octets.drop 4, by
    rw [← List.append_assoc, ← taken, List.take_append_drop]⟩

/-- Octets are well formed exactly if they are the form of a text, which is the one that is read. -/
theorem wellFormed?_decode_eq_some_iff {octets : List UInt8} {text : List Char} :
    wellFormed? (decode octets) = some text ↔ octets = encode text := by
  constructor
  · intro read
    induction octets using decode.induct generalizing text with
    | case1 =>
      rw [decode, wellFormed?, Option.some.injEq] at read
      rw [← read]
      rfl
    | case2 octet rest c leading ih =>
      obtain ⟨more, eq⟩ := exists_of_leadingChar? leading
      rw [eq, decode_append, wellFormed?, Option.map_eq_some_iff] at read
      obtain ⟨others, read, rfl⟩ := read
      have dropped : (octet :: rest).drop c.utf8Size = more := by
        rw [eq, ← String.length_utf8EncodeChar, List.drop_left]
      rw [dropped] at ih
      rw [eq, encode_cons, ih read]
    | case3 octet rest malformed ih =>
      rw [decode, malformed] at read
      cases read
  · rintro rfl
    rw [decode_encode, wellFormed?_map_some]

/-- A character is one octet with its number, or no octet of it is below 128. -/
theorem ascii_or_high (c : Char) :
    c.toNat < 128 ∧ String.utf8EncodeChar c = [UInt8.ofNat c.toNat] ∨
      128 ≤ c.toNat ∧ ∀ octet ∈ String.utf8EncodeChar c, 128 ≤ octet.toNat := by
  have bound : c.val.toNat < 1114112 := by
    have := c.valid
    simp only [UInt32.isValidChar, Nat.isValidChar] at this
    omega
  unfold String.utf8EncodeChar Char.toNat
  by_cases ascii : c.val.toNat ≤ 0x7f
  · exact .inl ⟨by omega, if_pos ascii⟩
  · refine .inr ⟨by omega, ?_⟩
    dsimp only
    rw [if_neg ascii]
    split
    · simp only [List.forall_mem_cons, UInt8.toNat_ofNat']
      refine ⟨by omega, by omega, nofun⟩
    · split
      · simp only [List.forall_mem_cons, UInt8.toNat_ofNat']
        refine ⟨by omega, by omega, by omega, nofun⟩
      · simp only [List.forall_mem_cons, UInt8.toNat_ofNat']
        refine ⟨by omega, by omega, by omega, by omega, nofun⟩

section Order

/-- Of two numbers of at most four digits to base 64, the first of these that differs is the smaller
one in the smaller number. -/
theorem sextets_lt {m n : Nat} (h : m < n) (bound : n < 2097152) :
    m / 262144 % 8 < n / 262144 % 8 ∨ m / 262144 % 8 = n / 262144 % 8 ∧
      (m / 4096 % 64 < n / 4096 % 64 ∨ m / 4096 % 64 = n / 4096 % 64 ∧
        (m / 64 % 64 < n / 64 % 64 ∨ m / 64 % 64 = n / 64 % 64 ∧ m % 64 < n % 64)) := by
  have last : m / 64 < n / 64 ∨ m / 64 = n / 64 ∧ m % 64 < n % 64 := by omega
  rcases last with before | last
  · have third : m / 4096 < n / 4096 ∨ m / 4096 = n / 4096 ∧ m / 64 % 64 < n / 64 % 64 := by omega
    omega
  · omega

/-- The form of a smaller character is smaller, whatever comes after it. -/
theorem utf8EncodeChar_append_lt {c d : Char} (h : c < d) (x y : List UInt8) :
    String.utf8EncodeChar c ++ x < String.utf8EncodeChar d ++ y := by
  rw [Char.lt_def, UInt32.lt_iff_toNat_lt] at h
  have valid : d.val.toNat < 1114112 := by
    have := d.valid
    simp only [UInt32.isValidChar, Nat.isValidChar] at this
    omega
  have octet {n : Nat} (small : n < 256) : (UInt8.ofNat n).toNat = n := by
    rw [UInt8.toNat_ofNat', Nat.mod_eq_of_lt small]
  have sextets := sextets_lt h (by omega)
  unfold String.utf8EncodeChar
  dsimp only
  -- a longer form begins with a larger octet, and forms of one length differ in their digits
  split_ifs <;>
    simp (disch := omega) only [List.cons_append, List.cons_lt_cons_iff, UInt8.lt_iff_toNat_lt,
      ← UInt8.toNat_inj, octet] <;>
    omega

/-- Texts are in the order of their octets. -/
theorem encode_lt_encode_iff {a b : List Char} : encode a < encode b ↔ a < b := by
  induction a generalizing b with
  | nil =>
    cases b with
    | nil => simp [encode]
    | cons d b =>
      have pos : 0 < (String.utf8EncodeChar d).length := by
        rw [String.length_utf8EncodeChar]
        exact d.utf8Size_pos
      obtain ⟨octet, others, cons⟩ := List.exists_cons_of_length_pos pos
      simp [encode, cons]
  | cons c a ih =>
    cases b with
    | nil => simp [encode]
    | cons d b =>
      rw [encode_cons, encode_cons, List.cons_lt_cons_iff]
      rcases lt_trichotomy c d with smaller | rfl | larger
      · simp only [utf8EncodeChar_append_lt smaller, smaller, true_or]
      · rw [append_lt_append_iff rfl, ih]
        simp only [List.lt_irrefl, Char.lt_irrefl]
      · have other := utf8EncodeChar_append_lt larger (encode b) (encode a)
        simp only [List.lt_asymm other, Char.lt_asymm larger, ne_of_gt larger, false_and, or_self]

end Order

end DutyRoster.Text
