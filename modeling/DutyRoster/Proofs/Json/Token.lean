import DutyRoster.Json.Token
import DutyRoster.Proofs.Text.Decimal
import Mathlib.Data.List.Chain
import Mathlib.Data.List.TakeWhile
import Mathlib.Tactic.SplitIfs

/-!
# Words of JSON are read as they are written

Tokens that are written one after the other are read as the same tokens (`tokenize_texts`), provided
that no two words without quotes stand side by side: names and numbers end only where something else
begins, while marks and strings end by themselves. So the tokenizer can be followed token by token,
always from the gap before it to the gap after it (`tokenizeFrom_token`).

A whole number is read as it is written because its digits are its value and no zero is put in
front of them (`word?_integer`). Inside a string every character is read back from its own escape,
whichever of the forms of an escape it has (`escape_cases`).
-/

set_option autoImplicit false

namespace DutyRoster.Json

open Text

section Characters

/-- A character that a name or a number may have. -/
def isWordChar (c : Char) : Bool :=
  !isGap c && c != '"' && (punctuation? c).isNone

/-- A character that a word may have is neither a gap nor a quote nor a mark. -/
theorem isWordChar_iff {c : Char} :
    isWordChar c = true ↔ isGap c = false ∧ c ≠ '"' ∧ punctuation? c = none := by
  simp [isWordChar, and_assoc]

/-- The characters that end a word. -/
def delimiters : List Char :=
  [' ', '\t', '\n', '\r', '"', '[', ']', '\x7b', '\x7d', ',', ':']

/-- Every character but those that end a word may stand in one. -/
theorem isWordChar_of_not_mem {c : Char} (other : c ∉ delimiters) : isWordChar c = true := by
  simp only [delimiters, List.mem_cons, List.not_mem_nil, or_false, not_or] at other
  simp only [isWordChar_iff, isGap, Bool.or_eq_false_iff, beq_eq_false_iff_ne]
  refine ⟨by tauto, by tauto, ?_⟩
  unfold punctuation?
  split <;> simp_all

/-- A character that a number may have. -/
def isNumberChar (c : Char) : Bool :=
  c.isDigit || c ∈ ['+', '-', '.', 'e', 'E']

/-- What may stand in a number may stand in a word. -/
theorem isWordChar_of_isNumberChar {c : Char} (h : isNumberChar c = true) :
    isWordChar c = true := by
  have none_ends : (delimiters.all fun c => !isNumberChar c) = true := by decide
  apply isWordChar_of_not_mem
  intro mem
  have ends := List.all_eq_true.mp none_ends c mem
  rw [h] at ends
  cases ends

/-- A digit may stand in a number. -/
theorem isNumberChar_of_isDigit {c : Char} (h : c.isDigit = true) : isNumberChar c = true := by
  simp [isNumberChar, h]

/-- The digits in front do not matter. -/
theorem isNumberChar_of_dropWhile {text : List Char}
    (tail : ∀ c ∈ text.dropWhile Char.isDigit, isNumberChar c = true) :
    ∀ c ∈ text, isNumberChar c = true := by
  intro c mem
  rw [← List.takeWhile_append_dropWhile (p := Char.isDigit) (l := text), List.mem_append] at mem
  rcases mem with mem | mem
  · exact isNumberChar_of_isDigit (List.mem_takeWhile_imp mem)
  · exact tail c mem

/-- An exponent consists of characters that a number may have. -/
theorem isNumberChar_of_isExponent {text : List Char} (h : isExponent text = true) :
    ∀ c ∈ text, isNumberChar c = true := by
  cases text with
  | nil => simp
  | cons e rest =>
    simp only [isExponent, Bool.and_eq_true, Bool.or_eq_true, beq_iff_eq, List.all_eq_true] at h
    obtain ⟨⟨mark, -⟩, digits⟩ := h
    rw [List.forall_mem_cons]
    constructor
    · rcases mark with rfl | rfl <;> decide
    · split at digits
      · rw [List.forall_mem_cons]
        exact ⟨by decide, fun c mem => isNumberChar_of_isDigit (digits c mem)⟩
      · rw [List.forall_mem_cons]
        exact ⟨by decide, fun c mem => isNumberChar_of_isDigit (digits c mem)⟩
      · exact fun c mem => isNumberChar_of_isDigit (digits c mem)

/-- What may follow the whole part of a number consists of characters that a number may have. -/
theorem isNumberChar_of_isTail {text : List Char} (h : isTail text = true) :
    ∀ c ∈ text, isNumberChar c = true := by
  unfold isTail at h
  split at h
  · rw [Bool.and_eq_true] at h
    rw [List.forall_mem_cons]
    exact ⟨by decide, isNumberChar_of_dropWhile (isNumberChar_of_isExponent h.2)⟩
  · exact isNumberChar_of_isExponent h

/-- What is read as a number consists of characters that a number may have. -/
theorem isNumberChar_of_unsignedNumber? {negative : Bool} {word : List Char} {token : Token}
    (read : unsignedNumber? negative word = some token) : ∀ c ∈ word, isNumberChar c = true := by
  simp only [unsignedNumber?] at read
  split at read
  · rename_i parts
    rw [Bool.and_eq_true] at parts
    exact isNumberChar_of_dropWhile (isNumberChar_of_isTail parts.2)
  · cases read

/-- Whatever is a word has no character that would end one. -/
theorem isWordChar_of_word? {word : List Char} {token : Token} (read : word? word = some token) :
    ∀ c ∈ word, isWordChar c = true := by
  have null_chars : ("null".toList.all isWordChar) = true := by decide
  have true_chars : ("true".toList.all isWordChar) = true := by decide
  have false_chars : ("false".toList.all isWordChar) = true := by decide
  unfold word? at read
  split_ifs at read with is_null is_true is_false
  · rw [is_null]
    exact List.all_eq_true.mp null_chars
  · rw [is_true]
    exact List.all_eq_true.mp true_chars
  · rw [is_false]
    exact List.all_eq_true.mp false_chars
  · split at read
    · rw [List.forall_mem_cons]
      exact ⟨by decide, fun c mem =>
        isWordChar_of_isNumberChar (isNumberChar_of_unsignedNumber? read c mem)⟩
    · exact fun c mem => isWordChar_of_isNumberChar (isNumberChar_of_unsignedNumber? read c mem)

end Characters

section Numbers

/-- A natural number is written as the whole part of a number has to be: without a zero in front. -/
theorem isWholePart_natural (n : Nat) : isWholePart (natural n) = true := by
  rcases Nat.eq_zero_or_pos n with rfl | pos
  · decide
  · have nonzero := natural_ne_zero_cons pos
    have ne := natural_ne_nil n
    unfold isWholePart
    split
    · contradiction
    · rename_i rest eq
      exact absurd eq (nonzero rest)
    · rfl

/-- A natural number is read as it is written, with the sign that was read before it. A zero with a
sign is left out, since it would not be read as an integer. -/
theorem unsignedNumber?_natural (negative : Bool) (n : Nat) (sign : negative = true → n ≠ 0) :
    unsignedNumber? negative (natural n) =
      some (.integer (if negative then -(n : Int) else n)) := by
  have whole : (natural n).takeWhile Char.isDigit = natural n :=
    List.takeWhile_eq_self_iff.mpr fun c => isDigit_of_mem_natural
  have tail : (natural n).dropWhile Char.isDigit = [] :=
    List.dropWhile_eq_nil_iff.mpr fun c => isDigit_of_mem_natural
  simp only [unsignedNumber?, whole, tail, isWholePart_natural, digitsValue_natural]
  cases negative <;> simp_all [isTail, isExponent]

/-- After a minus sign, a word is read as a number. -/
theorem word?_minus (rest : List Char) : word? ('-' :: rest) = unsignedNumber? true rest := by
  simp [word?]

/-- A word that begins with a digit is read as a number. -/
theorem word?_digit {c : Char} (digit : c.isDigit = true) (rest : List Char) :
    word? (c :: rest) = unsignedNumber? false (c :: rest) := by
  have other {d : Char} (mark : d.isDigit = false) : c ≠ d := by
    rintro rfl
    rw [digit] at mark
    cases mark
  have n : c ≠ 'n' := other rfl
  have t : c ≠ 't' := other rfl
  have f : c ≠ 'f' := other rfl
  have minus : c ≠ '-' := other rfl
  simp [word?, n, t, f, minus]

/-- A whole number is read as it is written. -/
theorem word?_integer (n : Int) : word? (integer n) = some (.integer n) := by
  unfold integer
  split
  case isTrue negative =>
    rw [word?_minus, unsignedNumber?_natural true n.natAbs fun _ => by omega, if_pos rfl,
      show -((n.natAbs : Nat) : Int) = n by omega]
  case isFalse positive =>
    obtain ⟨c, rest, eq⟩ := List.exists_cons_of_ne_nil (natural_ne_nil n.natAbs)
    have digit : c.isDigit = true := isDigit_of_mem_natural (by rw [eq]; exact List.mem_cons_self)
    rw [eq, word?_digit digit, ← eq, unsignedNumber?_natural false n.natAbs nofun,
      if_neg Bool.false_ne_true, show ((n.natAbs : Nat) : Int) = n by omega]

end Numbers

section Words

/-- A text goes on in such a way that a word before it has come to its end. -/
def EndsWord : List (Option Char) → Prop
  | [] => True
  | none :: _ => False
  | some c :: _ => isWordChar c = false

variable {chars word : List Char} {found : List Token} {rest : List (Option Char)}

/-- A word that has come to its end becomes a token, and what follows is read from a gap on. -/
theorem tokenizeFrom_word (ends : EndsWord rest) :
    tokenizeFrom (.word chars) found rest =
      (word? chars.reverse).bind fun token => tokenizeFrom .gap (token :: found) rest := by
  cases rest with
  | nil =>
    rw [tokenizeFrom, Option.map_eq_bind]
    rfl
  | cons c rest =>
    cases c with
    | none => exact ends.elim
    | some c =>
      -- what ends the word is then read as it would be from a gap
      simp only [EndsWord, isWordChar] at ends
      by_cases gap : isGap c
      · simp [tokenizeFrom, gap]
      by_cases quote : c = '"'
      · simp [tokenizeFrom, quote, show isGap '"' = false from rfl]
      cases mark : punctuation? c with
      | none => simp [gap, quote, mark] at ends
      | some token => simp [tokenizeFrom, gap, quote, mark]

/-- Characters of a word are added to it. -/
theorem tokenizeFrom_word_append (all : ∀ c ∈ word, isWordChar c = true) :
    tokenizeFrom (.word chars) found (word.map some ++ rest) =
      tokenizeFrom (.word (word.reverse ++ chars)) found rest := by
  induction word generalizing chars with
  | nil => rfl
  | cons c word ih =>
    obtain ⟨gap, quote, mark⟩ := isWordChar_iff.mp (all c List.mem_cons_self)
    rw [List.map_cons, List.cons_append, tokenizeFrom]
    simp only [gap, quote, mark, Bool.false_eq_true, if_false]
    rw [ih fun d mem => all d (List.mem_cons_of_mem c mem), List.reverse_cons, List.append_assoc]
    rfl

/-- A word is read whole. -/
theorem tokenizeFrom_gap_word {token : Token} (read : word? word = some token)
    (ends : EndsWord rest) :
    tokenizeFrom .gap found (word.map some ++ rest) = tokenizeFrom .gap (token :: found) rest := by
  have all := isWordChar_of_word? read
  cases word with
  | nil => simp [word?, unsignedNumber?, isWholePart] at read
  | cons c word =>
    obtain ⟨gap, quote, mark⟩ := isWordChar_iff.mp (all c List.mem_cons_self)
    rw [List.map_cons, List.cons_append, tokenizeFrom]
    simp only [gap, quote, mark, Bool.false_eq_true, if_false]
    rw [tokenizeFrom_word_append fun d mem => all d (List.mem_cons_of_mem c mem),
      tokenizeFrom_word ends, List.reverse_append, List.reverse_reverse, List.reverse_singleton,
      List.singleton_append, read, Option.bind_some]

end Words

section Strings

/-- A piece of a string that is read as a character: the character itself, or its unit. -/
def Piece.StandsFor (c : Char) (piece : Piece) : Prop :=
  piece = .char c ∨ piece = .unit c.toNat ∧ c.toNat < 0xD800

/-- The pieces of a string are put together character by character. -/
theorem Piece.StandsFor.assemble_cons {c : Char} {piece : Piece} (h : piece.StandsFor c)
    (rest : List Piece) : assemble (piece :: rest) = (assemble rest).map (c :: ·) := by
  rcases h with rfl | ⟨rfl, low⟩
  · rw [assemble]
  · cases rest with
    | nil => simp [assemble, low]
    | cons next rest => cases next <;> simp [assemble, low]

/-- The two digits that a control character is written with are read as its number. -/
theorem hexUnit?_control {n : Nat} (h : n < 0x20) :
    hexUnit? '0' '0' (Nat.digitChar (n / 16)) (Nat.digitChar (n % 16)) = some n := by
  have all : ∀ n < 0x20,
      hexUnit? '0' '0' (Nat.digitChar (n / 16)) (Nat.digitChar (n % 16)) = some n := by decide
  exact all n h

/-- The three forms in which a character can stand in a string. -/
theorem escape_cases (c : Char) :
    (∃ e, e ≠ 'u' ∧ shortEscape? e = some c ∧ escape c = ['\\', e]) ∨
      (c.toNat < 0x20 ∧ escape c =
        ['\\', 'u', '0', '0', Nat.digitChar (c.toNat / 16), Nat.digitChar (c.toNat % 16)]) ∨
      (c ≠ '"' ∧ c ≠ '\\' ∧ 0x20 ≤ c.toNat ∧ escape c = [c]) := by
  unfold escape
  split_ifs with quote backslash back feed line ret tab control
  · exact .inl ⟨'"', by decide, by rw [quote]; rfl, rfl⟩
  · exact .inl ⟨'\\', by decide, by rw [backslash]; rfl, rfl⟩
  · exact .inl ⟨'b', by decide, by rw [back]; rfl, rfl⟩
  · exact .inl ⟨'f', by decide, by rw [feed]; rfl, rfl⟩
  · exact .inl ⟨'n', by decide, by rw [line]; rfl, rfl⟩
  · exact .inl ⟨'r', by decide, by rw [ret]; rfl, rfl⟩
  · exact .inl ⟨'t', by decide, by rw [tab]; rfl, rfl⟩
  · exact .inr (.inl ⟨control, rfl⟩)
  · exact .inr (.inr ⟨quote, backslash, Nat.le_of_not_lt control, rfl⟩)

/-- Inside a string a character is read from its escape. -/
theorem tokenizeFrom_escape (c : Char) (pieces : List Piece) (found : List Token)
    (rest : List (Option Char)) : ∃ piece : Piece, piece.StandsFor c ∧
      tokenizeFrom (.quoted pieces) found ((escape c).map some ++ rest) =
        tokenizeFrom (.quoted (piece :: pieces)) found rest := by
  rcases escape_cases c with ⟨e, other, short, eq⟩ | ⟨control, eq⟩ | ⟨quote, backslash, high, eq⟩
  · refine ⟨.char c, .inl rfl, ?_⟩
    simp [eq, tokenizeFrom, other, short]
  · refine ⟨.unit c.toNat, .inr ⟨rfl, by omega⟩, ?_⟩
    simp [eq, tokenizeFrom, hexUnit?_control control]
  · refine ⟨.char c, .inl rfl, ?_⟩
    simp [eq, tokenizeFrom, quote, backslash, Nat.not_lt.mpr high]

/-- Inside a string, a text is read from the escapes of its characters. -/
theorem tokenizeFrom_content (content : List Char) (pieces : List Piece) (found : List Token)
    (rest : List (Option Char)) : ∃ read : List Piece,
      (∀ more, assemble (read.reverse ++ more) = (assemble more).map (content ++ ·)) ∧
      tokenizeFrom (.quoted pieces) found ((content.flatMap escape).map some ++ rest) =
        tokenizeFrom (.quoted (read ++ pieces)) found rest := by
  induction content generalizing pieces with
  | nil => exact ⟨[], by simp, by simp⟩
  | cons c content ih =>
    obtain ⟨piece, stands, head⟩ := tokenizeFrom_escape c pieces found
      ((content.flatMap escape).map some ++ rest)
    obtain ⟨read, assembled, tail⟩ := ih (piece :: pieces)
    refine ⟨read ++ [piece], fun more => ?_, ?_⟩
    · rw [List.reverse_append, List.reverse_singleton, List.singleton_append, List.cons_append,
        stands.assemble_cons, assembled, Option.map_map]
      rfl
    · rw [List.flatMap_cons, List.map_append, List.append_assoc, head, tail, List.append_assoc]
      rfl

/-- A quote after a gap begins a string. -/
theorem tokenizeFrom_openQuote (found : List Token) (rest : List (Option Char)) :
    tokenizeFrom .gap found (some '"' :: rest) = tokenizeFrom (.quoted []) found rest := by
  rw [tokenizeFrom]
  rfl

/-- The next quote that is not escaped ends the string. -/
theorem tokenizeFrom_closeQuote (pieces : List Piece) (found : List Token)
    (rest : List (Option Char)) :
    tokenizeFrom (.quoted pieces) found (some '"' :: rest) =
      tokenizeFrom .gap (.string ((assemble pieces.reverse).map String.ofList) :: found) rest := by
  rw [tokenizeFrom] <;> simp

end Strings

section Tokens

/-- Names and numbers end only where something else begins. -/
def Token.isWord : Token → Bool
  | .null | .bool _ | .integer _ | .decimal _ => true
  | _ => false

/-- A token can be read back. Only the text of a decimal number could be anything else. -/
def Token.Legible : Token → Prop
  | .decimal text => word? text = some (.decimal text)
  | _ => True

/-- What is not a word puts an end to the word before it. -/
theorem Token.endsWord_text {token : Token} (mark : token.isWord = false)
    (rest : List (Option Char)) : EndsWord (token.text.map some ++ rest) := by
  cases token with
  | string content => cases content <;> rfl
  | null | bool | integer | decimal => cases mark
  | _ => rfl

/-- A mark is a token by itself. -/
theorem tokenizeFrom_mark {c : Char} {token : Token} (mark : punctuation? c = some token)
    (plain : isGap c = false) (quote : c ≠ '"') (found : List Token) (rest : List (Option Char)) :
    tokenizeFrom .gap found (some c :: rest) = tokenizeFrom .gap (token :: found) rest := by
  simp [tokenizeFrom, mark, plain, quote]

/-- A string without readable content is read as one again: half a character has no other half. -/
theorem tokenizeFrom_string_none (found : List Token) (rest : List (Option Char)) :
    tokenizeFrom .gap found ((Token.string none).text.map some ++ rest) =
      tokenizeFrom .gap (.string none :: found) rest := by
  have unit : hexUnit? 'd' '8' '0' '0' = some 0xD800 := by decide
  have unpaired : assemble [.unit 0xD800] = none := by decide
  change tokenizeFrom .gap found (some '"' :: some '\\' :: some 'u' :: some 'd' :: some '8' ::
    some '0' :: some '0' :: some '"' :: rest) = _
  rw [tokenizeFrom_openQuote, tokenizeFrom, unit, Option.bind_some, tokenizeFrom_closeQuote,
    List.reverse_singleton, unpaired]
  rfl

/-- A string is read as it is written. -/
theorem tokenizeFrom_string (content : String) (found : List Token) (rest : List (Option Char)) :
    tokenizeFrom .gap found ((Token.string (some content)).text.map some ++ rest) =
      tokenizeFrom .gap (.string (some content) :: found) rest := by
  obtain ⟨read, assembled, eq⟩ := tokenizeFrom_content content.toList [] found (some '"' :: rest)
  have whole : assemble read.reverse = some content.toList := by
    rw [← List.append_nil read.reverse, assembled, assemble, Option.map_some, List.append_nil]
  have text : (Token.string (some content)).text =
      '"' :: (content.toList.flatMap escape ++ ['"']) := rfl
  rw [text, List.map_cons, List.map_append, List.cons_append, List.append_assoc,
    tokenizeFrom_openQuote, List.map_singleton, List.singleton_append, eq, List.append_nil,
    tokenizeFrom_closeQuote, whole, Option.map_some, String.ofList_toList]

/-- A token is read as it is written, from the gap before it to the gap after it. -/
theorem tokenizeFrom_token {token : Token} (legible : token.Legible) (found : List Token)
    {rest : List (Option Char)} (ends : token.isWord = true → EndsWord rest) :
    tokenizeFrom .gap found (token.text.map some ++ rest) =
      tokenizeFrom .gap (token :: found) rest := by
  cases token with
  | null => exact tokenizeFrom_gap_word (by decide) (ends rfl)
  | bool value => cases value <;> exact tokenizeFrom_gap_word (by decide) (ends rfl)
  | integer value => exact tokenizeFrom_gap_word (word?_integer value) (ends rfl)
  | decimal text => exact tokenizeFrom_gap_word legible (ends rfl)
  | string content =>
    cases content with
    | none => exact tokenizeFrom_string_none found rest
    | some content => exact tokenizeFrom_string content found rest
  | _ => exact tokenizeFrom_mark rfl rfl (by decide) found rest

/-- Tokens that are written one after the other are added to those that have been found. -/
theorem tokenizeFrom_texts {tokens : List Token} (legible : ∀ token ∈ tokens, token.Legible)
    (apart : tokens.IsChain fun a b => a.isWord = true → b.isWord = false) (found : List Token) :
    tokenizeFrom .gap found ((tokens.flatMap Token.text).map some) =
      some (found.reverse ++ tokens) := by
  induction tokens generalizing found with
  | nil => simp [tokenizeFrom]
  | cons token tokens ih =>
    rw [List.flatMap_cons, List.map_append, tokenizeFrom_token (legible token List.mem_cons_self),
      ih (fun other mem => legible other (List.mem_cons_of_mem token mem)) apart.of_cons,
      List.reverse_cons, List.append_assoc, List.singleton_append]
    -- only a word asks for something to end it
    intro word
    cases tokens with
    | nil => trivial
    | cons next tokens =>
      rw [List.flatMap_cons, List.map_append]
      exact Token.endsWord_text (apart.rel word) _

/-- Tokens that are written one after the other are read as they are written if no two words stand
side by side. -/
theorem tokenize_texts {tokens : List Token} (legible : ∀ token ∈ tokens, token.Legible)
    (apart : tokens.IsChain fun a b => a.isWord = true → b.isWord = false) :
    tokenize ((tokens.flatMap Token.text).map some) = some tokens :=
  tokenizeFrom_texts legible apart []

end Tokens

end DutyRoster.Json
