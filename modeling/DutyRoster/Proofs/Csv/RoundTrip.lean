import DutyRoster.Csv.Reader
import DutyRoster.Csv.Writer
import Mathlib.Tactic.SplitIfs

/-!
# Records are read as they were written

Whatever fields a file of records is written with, reading it gives them back
(`Csv.fields_records_fileText`): empty fields and fields with commas, quotes and line ends in them
included. A record has to have a field, since one without any would be an empty line.

A field between quotes is left by the reader right after its closing quote, and a field without
quotes where it ends, so what has to follow is a comma or a line end in both cases
(`Csv.rowsFrom_fieldText`). Only an empty field at the start of a record leaves the reader before
the record, where a line end would be skipped; a record of just such a field is therefore written
between quotes.

A file may also be read in smaller symbols than it was written in, such as octets instead of
characters. As long as the meaningful characters are symbols of their own (`Csv.Spells`), its fields
are what the fields of the text are in these symbols (`Csv.rowsFrom_spell`).
-/

set_option autoImplicit false

namespace DutyRoster.Csv

variable {σ : Type} {mark : σ → Mark} {place : Place} {field : List σ} {fields : List (List σ)}

/-- The records that a reader finds from a place on, without their positions. -/
def rowsFrom (mark : σ → Mark) (place : Place) (field : List σ) (fields : List (List σ))
    (file : List σ) : List (List (List σ)) :=
  (recordsFrom mark place .start .start field fields file).map (·.fields)

/-- A record that a reader finds has at least one field, which may be empty. -/
theorem fields_ne_nil_of_mem_recordsFrom {position cursor : Position} {file : List σ}
    {record : Record σ} (mem : record ∈ recordsFrom mark place position cursor field fields file) :
    record.fields ≠ [] := by
  induction file generalizing place position cursor field fields with
  | nil =>
    unfold recordsFrom at mem
    split at mem
    · cases mem
    · rw [List.mem_singleton.mp mem]
      simp
  | cons symbol rest ih =>
    cases place <;> cases meaning : mark symbol <;>
      simp only [recordsFrom, meaning, List.mem_cons] at mem
    all_goals first
      | exact ih mem
      | rcases mem with rfl | mem
        · simp
        · exact ih mem

/-- Fields do not depend on where a file begins. -/
theorem map_fields_recordsFrom (position cursor : Position) (file : List σ) :
    (recordsFrom mark place position cursor field fields file).map (·.fields) =
      rowsFrom mark place field fields file := by
  suffices ∀ position cursor position' cursor' : Position,
      (recordsFrom mark place position cursor field fields file).map (·.fields) =
        (recordsFrom mark place position' cursor' field fields file).map (·.fields) from
    this position cursor .start .start
  induction file generalizing place field fields with
  | nil => intro _ _ _ _; simp only [recordsFrom]; split <;> rfl
  | cons symbol rest ih =>
    intro position cursor position' cursor'
    cases place <;> cases meaning : mark symbol <;>
      simp only [recordsFrom, meaning, List.map_cons, List.cons.injEq, true_and] <;>
      exact ih _ _ _ _

/-- At the end of a file, the record that was begun is complete. -/
theorem rowsFrom_nil : rowsFrom mark place field fields [] =
    if place = .betweenRecords then [] else [(field.reverse :: fields).reverse] := by
  unfold rowsFrom recordsFrom
  split <;> rfl

/-- What a reader does with one symbol. -/
theorem rowsFrom_cons (symbol : σ) (rest : List σ) :
    rowsFrom mark place field fields (symbol :: rest) =
      match place, mark symbol with
      | .betweenRecords, .lineFeed => rowsFrom mark .betweenRecords [] [] rest
      | .betweenRecords, .carriageReturn => rowsFrom mark .betweenRecords [] [] rest
      | .betweenRecords, .quote => rowsFrom mark .quoted [] [] rest
      | .fieldStart, .quote => rowsFrom mark .quoted [] fields rest
      | .quoted, .quote => rowsFrom mark .afterQuote field fields rest
      | .quoted, _ => rowsFrom mark .quoted (symbol :: field) fields rest
      | .afterQuote, .quote => rowsFrom mark .quoted (symbol :: field) fields rest
      | _, .comma => rowsFrom mark .fieldStart [] (field.reverse :: fields) rest
      | _, .lineFeed =>
        (field.reverse :: fields).reverse :: rowsFrom mark .betweenRecords [] [] rest
      | _, .carriageReturn =>
        (field.reverse :: fields).reverse :: rowsFrom mark .betweenRecords [] [] rest
      | _, _ => rowsFrom mark .bare (symbol :: field) fields rest := by
  cases place <;> cases meaning : mark symbol <;>
    simp only [rowsFrom, recordsFrom, meaning, List.map_cons, List.cons.injEq, true_and] <;>
    exact map_fields_recordsFrom _ _ _

/-- Where a reader stands after symbols that stand for themselves. -/
def Place.afterPlain : Place → Place
  | .quoted => .quoted
  | _ => .bare

/-- Symbols that stand for themselves are added to the field. -/
theorem rowsFrom_plain {symbols : List σ} (nonempty : symbols ≠ [])
    (plain : ∀ symbol ∈ symbols, mark symbol = .plain) (rest : List σ) :
    rowsFrom mark place field fields (symbols ++ rest) =
      rowsFrom mark place.afterPlain (symbols.reverse ++ field) fields rest := by
  induction symbols generalizing place field with
  | nil => exact absurd rfl nonempty
  | cons symbol more ih =>
    obtain ⟨meaning, plain_more⟩ := List.forall_mem_cons.mp plain
    have step : rowsFrom mark place field fields (symbol :: (more ++ rest)) =
        rowsFrom mark place.afterPlain (symbol :: field) fields (more ++ rest) := by
      cases place <;> simp only [rowsFrom_cons, meaning, Place.afterPlain]
    have again : place.afterPlain.afterPlain = place.afterPlain := by cases place <;> rfl
    rw [List.cons_append, step]
    by_cases last : more = []
    · rw [last]
      rfl
    · rw [ih last plain_more, again, List.reverse_cons, List.append_assoc, List.singleton_append]

section Spelling

/-- A way to write characters in symbols. Characters with a meaning are symbols of their own with
the same meaning, and all others are written in symbols without one. -/
structure Spells (mark : σ → Mark) (spell : Char → List σ) : Prop where
  sign : ∀ c, charMark c ≠ .plain → ∃ symbol, spell c = [symbol] ∧ mark symbol = charMark c
  plain : ∀ c, charMark c = .plain → spell c ≠ [] ∧ ∀ symbol ∈ spell c, mark symbol = .plain

variable {spell : Char → List σ}

/-- Reading a text in the symbols that it is written in is reading its characters. -/
theorem rowsFrom_spell (h : Spells mark spell) (place : Place) (field : List Char)
    (fields : List (List Char)) (text : List Char) :
    rowsFrom mark place (field.reverse.flatMap spell).reverse (fields.map (·.flatMap spell))
        (text.flatMap spell) =
      (rowsFrom charMark place field fields text).map fun row => row.map (·.flatMap spell) := by
  -- what has been read of a field grows by the symbols of a character
  have grown (c : Char) (field : List Char) :
      (spell c).reverse ++ (field.reverse.flatMap spell).reverse =
        ((c :: field).reverse.flatMap spell).reverse := by
    simp only [List.reverse_cons, List.flatMap_append, List.flatMap_singleton, List.reverse_append]
  induction text generalizing place field fields with
  | nil =>
    rw [List.flatMap_nil, rowsFrom_nil, rowsFrom_nil]
    split <;> simp
  | cons c text ih =>
    rw [List.flatMap_cons]
    by_cases meaning : charMark c = .plain
    · obtain ⟨nonempty, plain⟩ := h.plain c meaning
      rw [rowsFrom_plain nonempty plain, grown, ih, ← List.singleton_append (x := c) (l := text),
        rowsFrom_plain (List.cons_ne_nil c []) (by simpa using meaning)]
      rfl
    · obtain ⟨symbol, eq, same⟩ := h.sign c meaning
      have grown_by_one : symbol :: (field.reverse.flatMap spell).reverse =
          ((c :: field).reverse.flatMap spell).reverse := by
        rw [← grown, eq]
        rfl
      have next_record (place : Place) := ih place [] []
      have opened := ih .quoted [] fields
      have next_field := ih .fieldStart [] (field.reverse :: fields)
      simp only [List.reverse_nil, List.flatMap_nil, List.map_nil, List.map_cons]
        at next_record opened next_field
      rw [eq, List.singleton_append, rowsFrom_cons, rowsFrom_cons, same]
      cases place <;> cases sign : charMark c <;>
        simp only [grown_by_one, List.reverse_reverse, ih, next_record, opened, next_field,
          List.map_cons, List.map_reverse]

end Spelling

section Fields

variable {field : List Char} {fields : List (List Char)}

/-- Only a quote means a quote. -/
theorem charMark_ne_quote {c : Char} (h : c ≠ '"') : charMark c ≠ .quote := by
  unfold charMark
  rw [if_neg h]
  split_ifs <;> decide

/-- A character stands for itself unless it is a comma, a quote or a line end. -/
theorem charMark_eq_plain_iff {c : Char} :
    charMark c = .plain ↔ c ≠ ',' ∧ c ≠ '"' ∧ c ≠ '\n' ∧ c ≠ '\r' := by
  unfold charMark
  split_ifs <;> simp [*]

/-- A field that is written without quotes has no character with a meaning. -/
theorem charMark_eq_plain_of_needsQuotes {text : List Char} (bare : needsQuotes text = false) :
    ∀ c ∈ text, charMark c = .plain := by
  intro c mem
  simp only [needsQuotes, List.any_eq_false, Bool.or_eq_true, beq_iff_eq] at bare
  have plain := bare c mem
  simp only [not_or, and_assoc] at plain
  exact charMark_eq_plain_iff.mpr plain

/-- Whatever stands between quotes with its quotes doubled is read as it is. -/
theorem rowsFrom_quoted (text rest : List Char) :
    rowsFrom charMark .quoted field fields
        (text.flatMap (fun c => if c = '"' then ['"', '"'] else [c]) ++ '"' :: rest) =
      rowsFrom charMark .afterQuote (text.reverse ++ field) fields rest := by
  have quote : charMark '"' = .quote := rfl
  induction text generalizing field with
  | nil => simp only [List.flatMap_nil, List.nil_append, List.reverse_nil, rowsFrom_cons, quote]
  | cons c text ih =>
    rw [List.flatMap_cons, List.reverse_cons, List.append_assoc, List.append_assoc,
      List.singleton_append, ← ih]
    by_cases is_quote : c = '"'
    · rw [if_pos is_quote, is_quote]
      simp only [List.cons_append, List.nil_append, rowsFrom_cons, quote]
    · have other := charMark_ne_quote is_quote
      rw [if_neg is_quote, List.singleton_append, rowsFrom_cons]
      split <;> simp_all

/-- After a field as it is written, the reader has its characters and no others. It stands neither
between quotes nor, unless nothing was read at the start of a record, before a record. -/
theorem rowsFrom_fieldText (text : List Char)
    (start : place = .fieldStart ∨ place = .betweenRecords ∧ fields = []) :
    ∃ after, after ≠ .quoted ∧ (after = .betweenRecords → place = .betweenRecords ∧ text = []) ∧
      ∀ rest, rowsFrom charMark place [] fields (fieldText text ++ rest) =
        rowsFrom charMark after text.reverse fields rest := by
  unfold fieldText
  cases quotes : needsQuotes text with
  | true =>
    refine ⟨.afterQuote, by decide, nofun, fun rest => ?_⟩
    have opened : rowsFrom charMark place [] fields (quoteField text ++ rest) =
        rowsFrom charMark .quoted [] fields
          (text.flatMap (fun c => if c = '"' then ['"', '"'] else [c]) ++ '"' :: rest) := by
      have quote : charMark '"' = .quote := rfl
      rw [quoteField, List.cons_append, List.append_assoc, List.singleton_append, rowsFrom_cons,
        quote]
      rcases start with rfl | ⟨rfl, rfl⟩ <;> rfl
    rw [if_pos rfl, opened, rowsFrom_quoted, List.append_nil]
  | false =>
    rw [if_neg Bool.false_ne_true]
    by_cases empty : text = []
    · refine ⟨place, ?_, fun before => ⟨before, empty⟩, fun rest => ?_⟩
      · rcases start with rfl | ⟨rfl, -⟩ <;> decide
      · rw [empty]
        rfl
    · refine ⟨.bare, by decide, nofun, fun rest => ?_⟩
      have moved : place.afterPlain = .bare := by rcases start with rfl | ⟨rfl, -⟩ <;> rfl
      rw [rowsFrom_plain empty (charMark_eq_plain_of_needsQuotes quotes), moved, List.append_nil]

/-- Outside quotes, a comma ends the field. -/
theorem rowsFrom_comma (unquoted : place ≠ .quoted) (rest : List Char) :
    rowsFrom charMark place field fields (',' :: rest) =
      rowsFrom charMark .fieldStart [] (field.reverse :: fields) rest := by
  have comma : charMark ',' = .comma := rfl
  cases place <;> simp_all [rowsFrom_cons]

/-- Outside quotes, a line feed ends the record that was begun. -/
theorem rowsFrom_lineFeed (unquoted : place ≠ .quoted) (inside : place ≠ .betweenRecords)
    (rest : List Char) : rowsFrom charMark place field fields ('\n' :: rest) =
      (field.reverse :: fields).reverse :: rowsFrom charMark .betweenRecords [] [] rest := by
  have line_feed : charMark '\n' = .lineFeed := rfl
  cases place <;> simp_all [rowsFrom_cons]

end Fields

section Files

/-- The fields of a record are added to those that have been read of it. A record of one empty field
is left out here. -/
theorem rowsFrom_fieldsText {row : List (List Char)} (nonempty : row ≠ [])
    {fields : List (List Char)}
    (start : place = .fieldStart ∨ place = .betweenRecords ∧ fields = [] ∧ row ≠ [[]])
    (rest : List Char) : rowsFrom charMark place [] fields (fieldsText row ++ '\n' :: rest) =
      (fields.reverse ++ row) :: rowsFrom charMark .betweenRecords [] [] rest := by
  induction row generalizing place fields with
  | nil => exact absurd rfl nonempty
  | cons text row ih =>
    obtain ⟨after, unquoted, inside, read⟩ :=
      rowsFrom_fieldText text (start.imp_right fun start => ⟨start.1, start.2.1⟩)
    cases row with
    | nil =>
      have not_before : after ≠ .betweenRecords := by
        intro before
        obtain ⟨rfl, rfl⟩ := inside before
        rcases start with other | ⟨-, -, ne⟩
        · cases other
        · exact ne rfl
      rw [fieldsText, read, rowsFrom_lineFeed unquoted not_before, List.reverse_reverse,
        List.reverse_cons]
    | cons next row =>
      rw [fieldsText, List.append_assoc, List.cons_append, read, rowsFrom_comma unquoted,
        ih (List.cons_ne_nil _ _) (.inl rfl), List.reverse_reverse, List.reverse_cons,
        List.append_assoc, List.singleton_append]
      exact List.cons_ne_nil _ _

/-- A record is read as it was written. -/
theorem rowsFrom_recordText {row : List (List Char)} (nonempty : row ≠ []) (rest : List Char) :
    rowsFrom charMark .betweenRecords [] [] (recordText row ++ rest) =
      row :: rowsFrom charMark .betweenRecords [] [] rest := by
  unfold recordText
  split
  case isTrue single =>
    have quote : charMark '"' = .quote := rfl
    have line_feed : charMark '\n' = .lineFeed := rfl
    simp only [single, quoteField, List.flatMap_nil, List.nil_append, List.cons_append,
      rowsFrom_cons, quote, line_feed, List.reverse_cons, List.reverse_nil]
  case isFalse other =>
    rw [List.append_assoc, List.singleton_append,
      rowsFrom_fieldsText nonempty (.inr ⟨rfl, rfl, other⟩), List.reverse_nil, List.nil_append]

/-- A file of records is read as it was written, wherever it begins. -/
theorem fields_records_fileText {rows : List (List (List Char))} (nonempty : ∀ row ∈ rows, row ≠ [])
    (origin : Position) : (records charMark origin (fileText rows)).map (·.fields) = rows := by
  rw [records, map_fields_recordsFrom]
  induction rows with
  | nil => rfl
  | cons row rows ih =>
    obtain ⟨has_field, others⟩ := List.forall_mem_cons.mp nonempty
    rw [fileText, List.flatMap_cons, rowsFrom_recordText has_field, ← fileText, ih others]

end Files

end DutyRoster.Csv
