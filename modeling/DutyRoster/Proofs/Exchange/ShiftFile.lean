import DutyRoster.Exchange.ShiftFile
import DutyRoster.Exchange.StaffFile
import DutyRoster.Proofs.Csv.RoundTrip
import DutyRoster.Proofs.Roster.Windows
import DutyRoster.Proofs.Store.Shifts
import DutyRoster.Proofs.Text.Octets

/-!
# Shift files are faithful

A shift file is written for spreadsheets and never read by the roster itself. Read by the rules by
which staff files are read, it has its heading and one record for each shift
(`shiftFile_is_faithful`), whatever characters the names of the staff are made of. Since the fields
of a record tell the identifiers, the date, the slot and the role of a shift, files with the same
text are about the same shifts.

Files are read as octets, and commas, quotes and line ends are looked for before anything is
decoded. They are found where they are in the text, because no octet of another character looks like
one of them (`Text.ascii_or_high`).
-/

set_option autoImplicit false

namespace DutyRoster

section Octets

/-- A character that means something in a file of records is a single octet with the same meaning.
-/
theorem exists_octet_of_charMark_ne_plain {c : Char} (h : Csv.charMark c ≠ .plain) :
    ∃ octet, String.utf8EncodeChar c = [octet] ∧ Csv.octetMark octet = Csv.charMark c := by
  rw [ne_eq, Csv.charMark_eq_plain_iff] at h
  have sign : c = ',' ∨ c = '"' ∨ c = '\n' ∨ c = '\r' := by
    by_contra none
    simp only [not_or] at none
    exact h none
  rcases sign with rfl | rfl | rfl | rfl
  · exact ⟨0x2C, rfl, rfl⟩
  · exact ⟨0x22, rfl, rfl⟩
  · exact ⟨0x0A, rfl, rfl⟩
  · exact ⟨0x0D, rfl, rfl⟩

/-- An octet stands for itself unless it is the number of a comma, a quote or a line end. -/
theorem octetMark_eq_plain_iff {octet : UInt8} : Csv.octetMark octet = .plain ↔
    octet.toNat ≠ 0x2C ∧ octet.toNat ≠ 0x22 ∧ octet.toNat ≠ 0x0A ∧ octet.toNat ≠ 0x0D := by
  have number (n : UInt8) : octet = n ↔ octet.toNat = n.toNat := UInt8.toNat_inj.symm
  unfold Csv.octetMark
  simp only [number]
  split_ifs <;> simp_all

/-- The signs of a file of records are octets of their own in UTF-8. -/
theorem spells_utf8 : Csv.Spells Csv.octetMark String.utf8EncodeChar where
  sign c := exists_octet_of_charMark_ne_plain
  plain c plain := by
    constructor
    · apply List.ne_nil_of_length_pos
      rw [String.length_utf8EncodeChar]
      exact c.utf8Size_pos
    · intro octet mem
      rw [octetMark_eq_plain_iff]
      rcases Text.ascii_or_high c with ⟨ascii, eq⟩ | ⟨-, high⟩
      · rw [eq, List.mem_singleton] at mem
        rw [Csv.charMark_eq_plain_iff] at plain
        have number (d : Char) : c = d ↔ c.toNat = d.toNat := Char.toNat_inj.symm
        simp only [ne_eq, number] at plain
        rw [mem, UInt8.toNat_ofNat', Nat.mod_eq_of_lt (by omega)]
        exact plain
      · have := high octet mem
        omega

/-- The octets of a text begin with the mark for UTF-8 only if the text begins with the character
that the mark is the form of. -/
theorem take_encode_ne_byteOrderMark {text : List Char} (unmarked : text.head? ≠ some '\uFEFF') :
    (Text.encode text).take 3 ≠ byteOrderMark := by
  intro marked
  have form : byteOrderMark = String.utf8EncodeChar '\uFEFF' := by decide
  have begins := congrArg Text.decode (List.take_append_drop 3 (Text.encode text))
  rw [marked, form, Text.decode_append, Text.decode_encode] at begins
  cases text with
  | nil => simp at begins
  | cons c rest =>
    rw [List.map_cons, List.cons.injEq, Option.some.injEq] at begins
    exact unmarked (by rw [begins.1]; rfl)

/-- The records of a file in UTF-8 are those of its text. -/
theorem map_fields_fileRecords_encode {text : List Char} (unmarked : text.head? ≠ some '\uFEFF') :
    (fileRecords (Text.encode text)).map (·.fields) =
      ((Csv.records Csv.charMark .start text).map (·.fields)).map
        fun row => row.map Text.encode := by
  rw [fileRecords, if_neg (take_encode_ne_byteOrderMark unmarked), Csv.records, Csv.records,
    Csv.map_fields_recordsFrom, Csv.map_fields_recordsFrom]
  exact Csv.rowsFrom_spell spells_utf8 .betweenRecords [] [] text

/-- Fields that were encoded are read as they were. -/
theorem readFields_encode (index : Nat) (row : List (List Char)) :
    readFields index (row.map Text.encode) = .ok row := by
  induction row generalizing index with
  | nil => rfl
  | cons field row ih =>
    rw [List.map_cons, readFields, Text.decode_encode, Text.wellFormed?_map_some]
    dsimp only
    rw [ih]
    rfl

/-- The records of a file, heading included, with their fields as text; otherwise the place of the
first field that is not well formed. -/
def readRows (octets : List UInt8) : Except (Nat × Nat) (List (List (List Char))) :=
  (fileRecords octets).mapM fun record => readFields 0 record.fields

/-- A file of records is read as it was written. -/
theorem readRows_encode_fileText {rows : List (List (List Char))}
    (nonempty : ∀ row ∈ rows, row ≠ []) (unmarked : (Csv.fileText rows).head? ≠ some '\uFEFF') :
    readRows (Text.encode (Csv.fileText rows)) = .ok rows := by
  have by_fields : readRows (Text.encode (Csv.fileText rows)) =
      ((fileRecords (Text.encode (Csv.fileText rows))).map (·.fields)).mapM (readFields 0) := by
    rw [List.mapM_map]
    rfl
  rw [by_fields, map_fields_fileRecords_encode unmarked, Csv.fields_records_fileText nonempty]
  clear nonempty unmarked by_fields
  induction rows with
  | nil => rfl
  | cons row rows ih =>
    rw [List.map_cons, List.mapM_cons, readFields_encode, ih]
    rfl

end Octets

/-- The name of the first employee on a list who has an identifier, or the empty text if nobody on
it has. -/
def IsNameOf (employees : List Employee) (id : EmployeeId) (name : String) : Prop :=
  (∃ earlier member later, employees = earlier ++ member :: later ∧
    (∀ other ∈ earlier, other.id ≠ id) ∧ member.id = id ∧ member.name = name) ∨
  (∀ other ∈ employees, other.id ≠ id) ∧ name = ""

/-- The name that a shift file gives an employee is that of the first one with the identifier. -/
theorem isNameOf_employeeName (employees : List Employee) (id : EmployeeId) :
    IsNameOf employees id (employeeName employees id) := by
  unfold employeeName
  cases found : employees.find? fun employee => employee.id = id with
  | none =>
    have absent := List.find?_eq_none.mp found
    simp only [decide_eq_true_eq] at absent
    exact .inr ⟨absent, rfl⟩
  | some member =>
    obtain ⟨own, earlier, later, split, others⟩ := List.find?_eq_some_iff_append.mp found
    simp only [Bool.not_eq_true', decide_eq_false_iff_not] at others
    exact .inl ⟨earlier, member, later, split, others, of_decide_eq_true own, rfl⟩

/-- The fields of a shift in a shift file: its identifier, its date and slot, the start and the end
of its window, and the identifier, the name and the role of the employee. -/
def IsShiftRecord (employees : List Employee) (shift : Assignment) (fields : List (List Char)) :
    Prop :=
  ∃ start stop name, shift.number.window? shift.date = some (start, stop) ∧
    IsNameOf employees shift.employee name ∧
    fields = [Text.integer shift.id.number, shift.date.text.toList,
      Text.natural shift.number.number, start.text, stop.text,
      Text.integer shift.employee.number, name.toList, shift.role.name.toList]

/-- What a record of a shift file tells about its shift. -/
def Assignment.exported (shift : Assignment) :
    AssignmentId × Date × SlotNumber × EmployeeId × Role :=
  (shift.id, shift.date, shift.number, shift.employee, shift.role)

variable {employees employees' : List Employee} {shift shift' : Assignment}
  {shifts shifts' : List Assignment} {fields : List (List Char)} {rows : List (List (List Char))}

/-- What is written for a shift is the record of the shift. -/
theorem isShiftRecord_of_shiftFields (written : shiftFields employees shift = .ok fields) :
    IsShiftRecord employees shift fields := by
  unfold shiftFields at written
  split at written
  case h_1 => cases written
  case h_2 start stop window =>
    refine ⟨start, stop, _, window, isNameOf_employeeName employees shift.employee, ?_⟩
    rw [Except.ok.injEq] at written
    rw [← written, Date.text, String.toList_ofList]

/-- The record of a shift can be written if its window can be told. -/
theorem exists_shiftFields (employees : List Employee)
    (window : ∃ start stop, shift.number.window? shift.date = some (start, stop)) :
    ∃ fields, shiftFields employees shift = .ok fields := by
  obtain ⟨start, stop, eq⟩ := window
  unfold shiftFields
  rw [eq]
  exact ⟨_, rfl⟩

/-- The records of shifts can be written if their windows can be told. -/
theorem exists_shiftRecords (employees : List Employee)
    (windows : ∀ shift ∈ shifts, ∃ start stop,
      shift.number.window? shift.date = some (start, stop)) :
    ∃ rows, List.Forall₂ (fun shift fields => shiftFields employees shift = .ok fields) shifts
      rows := by
  induction shifts with
  | nil => exact ⟨[], .nil⟩
  | cons shift shifts ih =>
    obtain ⟨window, others⟩ := List.forall_mem_cons.mp windows
    obtain ⟨fields, first⟩ := exists_shiftFields employees window
    obtain ⟨rows, rest⟩ := ih others
    exact ⟨fields :: rows, .cons first rest⟩

/-- Two shifts with the same record agree in all that it tells. -/
theorem IsShiftRecord.exported_eq (h : IsShiftRecord employees shift fields)
    (h' : IsShiftRecord employees' shift' fields) : shift.exported = shift'.exported := by
  obtain ⟨start, stop, name, -, -, rfl⟩ := h
  obtain ⟨start', stop', name', -, -, same⟩ := h'
  simp only [List.cons.injEq, and_true] at same
  obtain ⟨id, date, number, -, -, employee, -, role⟩ := same
  have same_id : shift.id = shift'.id := congrArg AssignmentId.mk (Text.integer_injective id)
  have same_date : shift.date = shift'.date := Date.text_injective (String.toList_inj.mp date)
  have same_number : shift.number = shift'.number :=
    SlotNumber.number_injective (Text.natural_injective number)
  have same_employee : shift.employee = shift'.employee :=
    congrArg EmployeeId.mk (Text.integer_injective employee)
  have same_role : shift.role = shift'.role := Role.name_injective (String.toList_inj.mp role)
  simp only [Assignment.exported, same_id, same_date, same_number, same_employee, same_role]

/-- The records are written one by one, and not at all if one of them cannot be written. -/
theorem shiftRows_eq_ok_iff : shiftRows employees shifts = .ok rows ↔
    List.Forall₂ (fun shift fields => shiftFields employees shift = .ok fields) shifts rows := by
  induction shifts generalizing rows with
  | nil =>
    rw [shiftRows, Except.ok.injEq, List.forall₂_nil_left_iff]
    exact eq_comm
  | cons shift shifts ih =>
    rw [shiftRows, List.forall₂_cons_left_iff]
    constructor
    · intro written
      obtain ⟨fields, first, written⟩ := exists_of_bind written
      obtain ⟨others, rest, written⟩ := exists_of_bind written
      cases written
      exact ⟨fields, others, first, ih.mp rest, rfl⟩
    · rintro ⟨fields, others, first, rest, rfl⟩
      simp only [first, ih.mpr rest, bind, Except.bind]

/-- The text of a shift file is that of its heading and the records of its shifts, if all of these
can be written. -/
theorem shiftFile_eq_ok_iff {text : List Char} : shiftFile shifts employees = .ok text ↔
    ∃ rows, List.Forall₂ (fun shift fields => shiftFields employees shift = .ok fields)
      shifts rows ∧ Csv.fileText (shiftFileHeading :: rows) = text := by
  simp only [← shiftRows_eq_ok_iff, shiftFile]
  cases shiftRows employees shifts <;> simp [bind, Except.bind]

/-- There is a shift file of shifts whose windows can be told. -/
theorem exists_shiftFile (employees : List Employee) (windows : ∀ shift ∈ shifts,
    ∃ start stop, shift.number.window? shift.date = some (start, stop)) :
    ∃ text, shiftFile shifts employees = .ok text := by
  obtain ⟨rows, written⟩ := exists_shiftRecords employees windows
  exact ⟨_, shiftFile_eq_ok_iff.mpr ⟨rows, written, rfl⟩⟩

/-- Every record of a shift file has eight fields, as the heading has. -/
theorem length_of_mem_shiftFile (records : List.Forall₂ (IsShiftRecord employees) shifts rows) :
    ∀ row ∈ shiftFileHeading :: rows, row.length = 8 := by
  refine List.forall_mem_cons.mpr ⟨rfl, ?_⟩
  induction records with
  | nil => exact nofun
  | cons record _ ih =>
    refine List.forall_mem_cons.mpr ⟨?_, ih⟩
    obtain ⟨-, -, -, -, -, rfl⟩ := record
    rfl

/-- Lists of shifts with the same records agree in all that these tell. -/
theorem exported_eq_of_records (records : List.Forall₂ (IsShiftRecord employees) shifts rows)
    (records' : List.Forall₂ (IsShiftRecord employees') shifts' rows) :
    shifts.map Assignment.exported = shifts'.map Assignment.exported := by
  induction records generalizing shifts' with
  | nil =>
    cases records'
    rfl
  | cons record _ ih =>
    cases records' with
    | cons record' rest => rw [List.map_cons, List.map_cons, record.exported_eq record', ih rest]

/-- A shift file begins with a letter. -/
theorem head?_shiftFile (rows : List (List (List Char))) :
    (Csv.fileText (shiftFileHeading :: rows)).head? = some 'a' := by
  have heading : (Csv.recordText shiftFileHeading).head? = some 'a' := by decide +kernel
  rw [Csv.fileText, List.flatMap_cons, List.head?_append, heading]
  rfl

/-- A shift file is read as its heading and the records that were written. -/
theorem readRows_shiftFile (records : List.Forall₂ (IsShiftRecord employees) shifts rows) :
    readRows (Text.encode (Csv.fileText (shiftFileHeading :: rows))) =
      .ok (shiftFileHeading :: rows) := by
  apply readRows_encode_fileText
  · intro row mem empty
    have length := length_of_mem_shiftFile records row mem
    rw [empty] at length
    cases length
  · rw [head?_shiftFile]
    decide

/-- For shifts whose windows can be told and for any list of employees, there is a shift file.
Reading it by the rules by which staff files are read gives the heading, of eight fields, and then
one record for each shift, in the order of the shifts: with as many fields as the heading, and these
are the identifier of the shift, its date, its slot number, the start and the end of its window, the
identifier of the employee, the name of the first employee on the list with that identifier, and the
role. Only files about shifts with the same identifiers, dates, slots, employees and roles have the
same text. -/
theorem shiftFile_is_faithful (shifts : List Assignment) (employees : List Employee)
    (windows : ∀ shift ∈ shifts, ∃ start stop,
      shift.number.window? shift.date = some (start, stop)) :
    ∃ text rows, shiftFile shifts employees = .ok text ∧
      readRows (Text.encode text) = .ok (shiftFileHeading :: rows) ∧
      (∀ row ∈ shiftFileHeading :: rows, row.length = 8) ∧
      List.Forall₂ (IsShiftRecord employees) shifts rows ∧
      ∀ shifts' employees', shiftFile shifts' employees' = .ok text →
        shifts'.map Assignment.exported = shifts.map Assignment.exported := by
  obtain ⟨rows, written⟩ := exists_shiftRecords employees windows
  have records : List.Forall₂ (IsShiftRecord employees) shifts rows :=
    written.imp fun _ _ => isShiftRecord_of_shiftFields
  refine ⟨_, rows, shiftFile_eq_ok_iff.mpr ⟨rows, written, rfl⟩, readRows_shiftFile records,
    length_of_mem_shiftFile records, records, ?_⟩
  intro shifts' employees' same_text
  obtain ⟨rows', written', same⟩ := shiftFile_eq_ok_iff.mp same_text
  have records' : List.Forall₂ (IsShiftRecord employees') shifts' rows' :=
    written'.imp fun _ _ => isShiftRecord_of_shiftFields
  -- what was written twice can be read only once
  have read := readRows_shiftFile records'
  rw [same, readRows_shiftFile records, Except.ok.injEq, List.cons.injEq] at read
  rw [← read.2] at records'
  exact exported_eq_of_records records' records

/-- A name with commas, quotes and line ends, and no name at all, survive the file of two shifts. -/
theorem shiftFile_is_faithful_to_odd_names :
    let day : Date := ⟨738003, by decide, by decide⟩
    let shifts : List Assignment :=
      [⟨⟨4⟩, ⟨1⟩, ⟨1⟩, day, .early, .medic⟩, ⟨⟨9⟩, ⟨2⟩, ⟨3⟩, day, .night, .technical⟩]
    let employees : List Employee := [⟨⟨1⟩, "Ada, \"née\"\r\nBée", .medic⟩, ⟨⟨1⟩, "Bea", .medic⟩]
    let text := ("assignment_id,date,slot,start,end,employee_id,employee_name,role\n" ++
      "4,2020-08-01,1,2020-08-01T06:00:00+00:00,2020-08-01T14:00:00+00:00,1," ++
      "\"Ada, \"\"née\"\"\r\nBée\",medic\n" ++
      "9,2020-08-01,3,2020-08-01T22:00:00+00:00,2020-08-02T06:00:00+00:00,2,,technical\n").toList
    (∀ shift ∈ shifts, ∃ start stop, shift.number.window? shift.date = some (start, stop)) ∧
    shiftFile shifts employees = .ok text ∧
    ∃ rows, readRows (Text.encode text) = .ok (shiftFileHeading :: rows) ∧
      List.Forall₂ (IsShiftRecord employees) shifts rows := by
  intro day shifts employees text
  have windows : ∀ shift ∈ shifts, ∃ start stop,
      shift.number.window? shift.date = some (start, stop) := by
    have early : ∃ start stop, SlotNumber.early.window? day = some (start, stop) :=
      SlotNumber.exists_window (by decide +kernel)
    have night : ∃ start stop, SlotNumber.night.window? day = some (start, stop) :=
      SlotNumber.exists_window (by decide +kernel)
    simp only [shifts, List.forall_mem_cons]
    exact ⟨early, night, by simp⟩
  have written : shiftFile shifts employees = .ok text := by decide +kernel
  obtain ⟨_, rows, same, read, -, records, -⟩ := shiftFile_is_faithful shifts employees windows
  rw [written, Except.ok.injEq] at same
  subst same
  exact ⟨windows, written, rows, read, records⟩

end DutyRoster
