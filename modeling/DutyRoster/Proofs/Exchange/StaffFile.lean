import DutyRoster.Exchange.StaffFile
import DutyRoster.Proofs.Csv.RoundTrip
import DutyRoster.Proofs.Text.Octets
import Mathlib.Data.List.Forall2

/-!
# A staff file is read as a whole

A record of a staff file is in order if it has as many fields as the heading, all of them text, with
a name in the first and a role in the second one (`IsStaffRecord`); otherwise just one thing is
found to be wrong with it first (`StaffFault`). A file is read if all of its records after the
heading are in order, and then it gives one member of staff for each of them, in their order
(`readStaffFile_eq_ok_iff`). If they are not, the file is refused for the first one that is not,
whatever comes after it (`readStaffFile_eq_error_iff`).
-/

set_option autoImplicit false

namespace DutyRoster

section Fields

/-- Whether octets are the form of a text. -/
def IsText (octets : List UInt8) : Prop :=
  ∃ text, octets = Text.encode text

/-- Octets that are not well formed are not the form of any text. -/
theorem wellFormed?_decode_eq_none_iff {octets : List UInt8} :
    Text.wellFormed? (Text.decode octets) = none ↔ ¬ IsText octets := by
  rw [Option.eq_none_iff_forall_ne_some]
  exact not_exists.symm.trans (not_congr (exists_congr fun text =>
    Text.wellFormed?_decode_eq_some_iff))

/-- A field that is text is read, and then the others are. -/
theorem readFields_cons_of_text {index : Nat} {text : List Char} {rest : List (List UInt8)} :
    readFields index (Text.encode text :: rest) =
      (readFields (index + 1) rest).map (text :: ·) := by
  have read : Text.wellFormed? (Text.decode (Text.encode text)) = some text :=
    Text.wellFormed?_decode_eq_some_iff.mpr rfl
  simp only [readFields, read]

/-- At a field that is no text, reading stops and tells where it stopped. -/
theorem readFields_cons_of_not_text {index : Nat} {field : List UInt8} {rest : List (List UInt8)}
    (malformed : ¬ IsText field) : readFields index (field :: rest) =
      .error (index, Text.validPrefixSize (Text.decode field)) := by
  have read := wellFormed?_decode_eq_none_iff.mpr malformed
  simp only [readFields, read]

/-- Fields that are all text are read as such. -/
theorem readFields_map_encode (index : Nat) (texts : List (List Char)) :
    readFields index (texts.map Text.encode) = .ok texts := by
  induction texts generalizing index with
  | nil => rfl
  | cons text rest ih =>
    rw [List.map_cons, readFields_cons_of_text, ih]
    rfl

/-- The first field that is no text is told. -/
theorem readFields_of_not_text (index : Nat) (texts : List (List Char)) {field : List UInt8}
    (malformed : ¬ IsText field) (after : List (List UInt8)) :
    readFields index (texts.map Text.encode ++ field :: after) =
      .error (index + texts.length, Text.validPrefixSize (Text.decode field)) := by
  induction texts generalizing index with
  | nil => exact readFields_cons_of_not_text malformed
  | cons text rest ih =>
    rw [List.map_cons, List.cons_append, readFields_cons_of_text, ih, List.length_cons,
      Nat.add_right_comm, Nat.add_assoc]
    rfl

/-- Either all fields are text, or there is a first one that is not. -/
theorem texts_or_malformed (fields : List (List UInt8)) :
    (∃ texts : List (List Char), fields = texts.map Text.encode) ∨
      ∃ (texts : List (List Char)) (field : List UInt8) (after : List (List UInt8)),
        fields = texts.map Text.encode ++ field :: after ∧ ¬ IsText field := by
  induction fields with
  | nil => exact .inl ⟨[], rfl⟩
  | cons field rest ih =>
    by_cases is_text : IsText field
    · obtain ⟨text, rfl⟩ := is_text
      rcases ih with ⟨texts, rfl⟩ | ⟨texts, field, after, rfl, malformed⟩
      · exact .inl ⟨text :: texts, rfl⟩
      · exact .inr ⟨text :: texts, field, after, rfl, malformed⟩
    · exact .inr ⟨[], field, rest, rfl, is_text⟩

end Fields

section Records

variable {width row : Nat} {record : Csv.Record UInt8} {member : NewEmployee}

/-- Whether a record after a heading of the given width is in order, and who it tells of. -/
def IsStaffRecord (width : Nat) (record : Csv.Record UInt8) (member : NewEmployee) : Prop :=
  record.fields.length = width ∧ ∃ name role others,
    record.fields = (name :: role :: others).map Text.encode ∧ Text.trim name ≠ [] ∧
      member.name = String.ofList (Text.trim name) ∧
      Role.read (String.ofList role) = .ok member.role

/-- What is found to be wrong first with a record, which is the row of the given number: it has
another number of fields than the heading, or a field is no text, or it has no first or no second
field, or the first one is blank, or the second one names no role. -/
inductive StaffFault (width row : Nat) (record : Csv.Record UInt8) : ImportError → Prop where
  | fieldCount (other_width : record.fields.length ≠ width) :
      StaffFault width row record
        (.fieldCount row record.position width record.fields.length)
  | malformedText {texts : List (List Char)} {field : List UInt8} {after : List (List UInt8)}
      (same_width : record.fields.length = width)
      (first : record.fields = texts.map Text.encode ++ field :: after)
      (malformed : ¬ IsText field) :
      StaffFault width row record (.malformedText (readFrom row record).1 (readFrom row record).2
        texts.length (Text.validPrefixSize (Text.decode field)))
  | missingName (same_width : record.fields.length = width) (empty : record.fields = []) :
      StaffFault width row record .missingName
  | missingRole {name : List Char} (same_width : record.fields.length = width)
      (alone : record.fields = [Text.encode name]) : StaffFault width row record .missingRole
  | emptyName {name role : List Char} {others : List (List Char)}
      (same_width : record.fields.length = width)
      (all_text : record.fields = (name :: role :: others).map Text.encode)
      (blank : Text.trim name = []) : StaffFault width row record (.emptyName row)
  | unknownRole {name role : List Char} {others : List (List Char)} {fault : UnknownRole}
      (same_width : record.fields.length = width)
      (all_text : record.fields = (name :: role :: others).map Text.encode)
      (named : Text.trim name ≠ [])
      (unknown : Role.read (String.ofList role) = .error fault) :
      StaffFault width row record (.unknownRole (String.ofList (Text.trim name)) fault)

/-- A record that is in order is read as the member of staff that it tells of, in whatever row. -/
theorem IsStaffRecord.read (in_order : IsStaffRecord width record member) (row : Nat) :
    readStaffRecord width row record = .ok member := by
  obtain ⟨same_width, name, role, others, all_text, named, name_eq, known⟩ := in_order
  have nonempty : (String.ofList (Text.trim name)).isEmpty = false := by simpa using named
  rw [readStaffRecord, if_neg (not_not.mpr same_width), all_text, readFields_map_encode]
  simp only [readStaffRow, nonempty, known, Bool.false_eq_true, if_false]
  rw [← name_eq]

/-- A record is refused for what is found to be wrong with it first. -/
theorem StaffFault.read {fault : ImportError} (faulty : StaffFault width row record fault) :
    readStaffRecord width row record = .error fault := by
  cases faulty with
  | fieldCount other_width => exact if_pos other_width
  | malformedText same_width first malformed =>
    rw [readStaffRecord, if_neg (not_not.mpr same_width), first,
      readFields_of_not_text 0 _ malformed, Nat.zero_add]
  | missingName same_width empty =>
    rw [readStaffRecord, if_neg (not_not.mpr same_width), empty]
    rfl
  | @missingRole name same_width alone =>
    rw [readStaffRecord, if_neg (not_not.mpr same_width), alone,
      show [Text.encode name] = [name].map Text.encode from rfl, readFields_map_encode]
    rfl
  | emptyName same_width all_text blank =>
    rw [readStaffRecord, if_neg (not_not.mpr same_width), all_text, readFields_map_encode]
    simp [readStaffRow, blank]
  | unknownRole same_width all_text named unknown =>
    rw [readStaffRecord, if_neg (not_not.mpr same_width), all_text, readFields_map_encode]
    simp [readStaffRow, named, unknown]

/-- A record is in order, or something is found to be wrong with it. -/
theorem inOrder_or_fault (width row : Nat) (record : Csv.Record UInt8) :
    (∃ member, IsStaffRecord width record member) ∨
      ∃ fault, StaffFault width row record fault := by
  by_cases same_width : record.fields.length = width
  · rcases texts_or_malformed record.fields with
      ⟨texts, all_text⟩ | ⟨texts, field, after, first, malformed⟩
    · match texts with
      | name :: role :: others =>
        by_cases blank : Text.trim name = []
        · exact .inr ⟨_, .emptyName same_width all_text blank⟩
        · cases known : Role.read (String.ofList role) with
          | ok found =>
            exact .inl ⟨⟨_, found⟩, same_width, name, role, others, all_text, blank, rfl, known⟩
          | error fault => exact .inr ⟨_, .unknownRole same_width all_text blank known⟩
      | [] => exact .inr ⟨_, .missingName same_width all_text⟩
      | [name] => exact .inr ⟨_, .missingRole same_width all_text⟩
    · exact .inr ⟨_, .malformedText same_width first malformed⟩
  · exact .inr ⟨_, .fieldCount same_width⟩

end Records

section File

/-- Every record of a file has a field. -/
theorem fields_ne_nil_of_mem_fileRecords {octets : List UInt8} {record : Csv.Record UInt8}
    (mem : record ∈ fileRecords octets) : record.fields ≠ [] := by
  unfold fileRecords at mem
  split at mem <;> exact Csv.fields_ne_nil_of_mem_recordsFrom mem

variable {width row : Nat} {records : List (Csv.Record UInt8)} {staff : List NewEmployee}
  {octets : List UInt8}

/-- Records that are in order are read one after the other. -/
theorem readStaffRecords_append {before : List (Csv.Record UInt8)}
    (in_order : List.Forall₂ (IsStaffRecord width) before staff) (row : Nat)
    (after : List (Csv.Record UInt8)) : readStaffRecords width row (before ++ after) =
      (readStaffRecords width (row + before.length) after).map (staff ++ ·) := by
  induction in_order generalizing row with
  | nil =>
    rw [List.nil_append, List.length_nil, Nat.add_zero]
    cases readStaffRecords width row after <;> rfl
  | @cons record member rest others first _ ih =>
    rw [List.cons_append, readStaffRecords, first.read row, ih, List.length_cons,
      Nat.add_right_comm, Nat.add_assoc]
    cases readStaffRecords width (row + (rest.length + 1)) after <;> rfl

/-- What the first record that is not in order is refused for. -/
def IsFirstFault (width row : Nat) (records : List (Csv.Record UInt8)) (fault : ImportError) :
    Prop :=
  ∃ before record after staff, records = before ++ record :: after ∧
    List.Forall₂ (IsStaffRecord width) before staff ∧
      StaffFault width (row + before.length) record fault

/-- If all records are in order, all of them are read. -/
theorem readStaffRecords_of_inOrder (in_order : List.Forall₂ (IsStaffRecord width) records staff)
    (row : Nat) : readStaffRecords width row records = .ok staff := by
  rw [← List.append_nil records, readStaffRecords_append in_order row]
  exact congrArg Except.ok (List.append_nil staff)

/-- Records are refused for what is wrong with the first one that is not in order. -/
theorem IsFirstFault.read {fault : ImportError} (first : IsFirstFault width row records fault) :
    readStaffRecords width row records = .error fault := by
  obtain ⟨before, record, after, staff, rfl, in_order, faulty⟩ := first
  rw [readStaffRecords_append in_order, readStaffRecords, faulty.read]
  rfl

/-- Either all records are in order, or there is a first one that is not. -/
theorem inOrder_or_firstFault (width row : Nat) (records : List (Csv.Record UInt8)) :
    (∃ staff, List.Forall₂ (IsStaffRecord width) records staff) ∨
      ∃ fault, IsFirstFault width row records fault := by
  induction records generalizing row with
  | nil => exact .inl ⟨[], .nil⟩
  | cons record rest ih =>
    rcases inOrder_or_fault width row record with ⟨member, in_order⟩ | ⟨fault, faulty⟩
    · rcases ih (row + 1) with
        ⟨staff, remaining⟩ | ⟨fault, before, later, after, staff, rfl, remaining, faulty⟩
      · exact .inl ⟨member :: staff, .cons in_order remaining⟩
      · refine .inr ⟨fault, record :: before, later, after, member :: staff, rfl,
          .cons in_order remaining, ?_⟩
        rwa [List.length_cons, Nat.add_comm before.length, ← Nat.add_assoc]
    · exact .inr ⟨fault, [], record, rest, [], rfl, .nil, faulty⟩

/-- Records can be read exactly if all of them are in order, and as what they tell. -/
theorem readStaffRecords_eq_ok_iff : readStaffRecords width row records = .ok staff ↔
    List.Forall₂ (IsStaffRecord width) records staff := by
  refine ⟨fun read => ?_, fun in_order => readStaffRecords_of_inOrder in_order row⟩
  rcases inOrder_or_firstFault width row records with ⟨other, in_order⟩ | ⟨fault, first⟩
  · rw [readStaffRecords_of_inOrder in_order row, Except.ok.injEq] at read
    exact read ▸ in_order
  · rw [first.read] at read
    cases read

/-- Records are refused exactly for what is wrong with the first one that is not in order. -/
theorem readStaffRecords_eq_error_iff {fault : ImportError} :
    readStaffRecords width row records = .error fault ↔ IsFirstFault width row records fault := by
  refine ⟨fun read => ?_, IsFirstFault.read⟩
  rcases inOrder_or_firstFault width row records with ⟨staff, in_order⟩ | ⟨found, first⟩
  · rw [readStaffRecords_of_inOrder in_order row] at read
    cases read
  · rw [first.read, Except.error.injEq] at read
    exact read ▸ first

/-- The number of fields that the records of a staff file have to have. -/
def staffWidth (octets : List UInt8) : Nat :=
  ((fileRecords octets).head?.map (·.fields.length)).getD 0

/-- A staff file is read as the records after its heading, which begin with row 1. A file without
any record has no rows either. -/
theorem readStaffFile_eq_readStaffRecords (octets : List UInt8) : readStaffFile octets =
    readStaffRecords (staffWidth octets) 1 (fileRecords octets).tail := by
  unfold readStaffFile staffWidth
  cases fileRecords octets <;> rfl

/-- A staff file can be read if all records after its heading are in order. -/
theorem readStaffFile_eq_ok_iff : readStaffFile octets = .ok staff ↔
    List.Forall₂ (IsStaffRecord (staffWidth octets)) (fileRecords octets).tail staff := by
  rw [readStaffFile_eq_readStaffRecords, readStaffRecords_eq_ok_iff]

/-- A staff file is refused for the first record that is not in order. -/
theorem readStaffFile_eq_error_iff {fault : ImportError} : readStaffFile octets = .error fault ↔
    IsFirstFault (staffWidth octets) 1 (fileRecords octets).tail fault := by
  rw [readStaffFile_eq_readStaffRecords, readStaffRecords_eq_error_iff]

/-- No staff file is refused because a record has no first field: even an empty line within quotes
is a record of one field. -/
theorem readStaffFile_ne_missingName (octets : List UInt8) :
    readStaffFile octets ≠ .error .missingName := by
  intro refused
  obtain ⟨before, record, after, staff, records_eq, -, faulty⟩ :=
    readStaffFile_eq_error_iff.mp refused
  have mem : record ∈ fileRecords octets :=
    List.mem_of_mem_tail (records_eq ▸ List.mem_append_right _ List.mem_cons_self)
  cases faulty with
  | missingName _ empty => exact fields_ne_nil_of_mem_fileRecords mem empty

/-- A staff file that can be read has one member of staff for each record after the heading. -/
theorem length_of_readStaffFile (read : readStaffFile octets = .ok staff) :
    staff.length = (fileRecords octets).tail.length :=
  (readStaffFile_eq_ok_iff.mp read).length_eq.symm

end File

end DutyRoster
