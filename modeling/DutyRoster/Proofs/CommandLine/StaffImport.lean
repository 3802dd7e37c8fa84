import DutyRoster.Proofs.CommandLine.ExitCode

/-!
# A staff file is imported as a whole

Whether a staff file can be read is decided by its records one by one, and so is what it is refused
for (`readStaffFile_eq_ok_iff`, `readStaffFile_eq_error_iff`). Nobody is registered before the last
of them has been read: if the file can be read, all of its staff are registered, in a session and by
the command alike, and otherwise nothing changes (`staffFile_is_imported_as_a_whole`).
-/

set_option autoImplicit false

namespace DutyRoster

section Steps

variable {session : Session} {octets : List UInt8} {staff : List NewEmployee} {fault : ImportError}

/-- A session refuses a staff file that cannot be read, and stays as it was. -/
theorem Session.step_importStaff_of_error (refused : readStaffFile octets = .error fault) :
    session.step (.importStaff octets) = (.error (.staffFile fault), session) := by
  simp only [step, importStaff, refused]

/-- While the lock is free, a session registers all members of staff of a file that can be read. -/
theorem Session.step_importStaff_of_ok (free : session.store.lock = .free)
    (read : readStaffFile octets = .ok staff) : session.step (.importStaff octets) =
      (.ok (.number staff.length), session.withLedger
        (session.store.ledger.withStaff (session.store.ledger.newRows staff))) := by
  rcases session.store.registerAll_cases staff with eq | ⟨held, -⟩
  · simp only [step, importStaff, read, eq, Ledger.enrol_eq_withStaff]
    rfl
  · exact absurd free held

variable {desk : Desk} {workspace : Workspace} {file : String}

/-- The command fails for a staff file that cannot be read, and prints nothing. -/
theorem Desk.execute_importEmployees_of_error (found : workspace.readFile file = .ok octets)
    (refused : readStaffFile octets = .error fault) :
    (desk.execute workspace (.importEmployees file)).1 = ⟨.failed fault.causes, ""⟩ := by
  have loaded : loadStaff (workspace.readFile file) = .error fault := by rw [found, ← refused]; rfl
  rw [execute, importEmployees, loaded]

/-- While the database can be changed, the command succeeds if the file can be read. -/
theorem Desk.execute_importEmployees_of_ok (free : desk.store.lock = .free)
    (found : workspace.readFile file = .ok octets) (read : readStaffFile octets = .ok staff) :
    (desk.execute workspace (.importEmployees file)).1 =
      ⟨.success, s!"imported {staff.length} employee(s)\n"⟩ := by
  have loaded : loadStaff (workspace.readFile file) = .ok staff := by rw [found, ← read]; rfl
  rcases desk.store.registerAll_cases staff with eq | ⟨held, -⟩
  · rw [execute, importEmployees, loaded]
    dsimp only
    rw [eq]
    rfl
  · exact absurd free held

end Steps

open CommandLine in
/-- A file is read exactly if all of its records after the heading are in order, and then it gives
one member of staff for each of them, in their order; otherwise it is refused for the first record
that is not in order. While the lock is free, a session to which it is given, and the command that
is given its name for a database in a file, then register all of its staff, in their order and with
consecutive identifiers, or else nobody. -/
theorem staffFile_is_imported_as_a_whole (octets : List UInt8) :
    (∀ staff, readStaffFile octets = .ok staff ↔
      List.Forall₂ (IsStaffRecord (staffWidth octets)) (fileRecords octets).tail staff) ∧
    (∀ fault, readStaffFile octets = .error fault ↔
      IsFirstFault (staffWidth octets) 1 (fileRecords octets).tail fault) ∧
    (∀ session : Session, session.store.lock = .free →
      (∀ staff, readStaffFile octets = .ok staff → session.step (.importStaff octets) =
        (.ok (.number staff.length), session.withLedger
          (session.store.ledger.withStaff (session.store.ledger.newRows staff)))) ∧
      ∀ fault, readStaffFile octets = .error fault →
        session.step (.importStaff octets) = (.error (.staffFile fault), session)) ∧
    ∀ (home path : FilePath) (before : Workspace) (now : Instant) (words : List String)
      (invocation : Invocation) (file : String) (desk : Desk) (opened : Workspace),
      home.IsPlain → before.Owned home path → Addresses home path words →
      Arguments.read words = .ok invocation → invocation.command = .importEmployees file →
      desk? now invocation before = some (desk, opened) → desk.connection.path ≠ none →
      desk.store.lock = .free → opened.readFile file = .ok octets →
      let ledger := before.ledgerAt path
      let outcome := (run now words before).1
      let after := (run now words before).2
      (∀ staff, readStaffFile octets = .ok staff →
        outcome = ⟨.success, s!"imported {staff.length} employee(s)\n"⟩ ∧
          after.ledgerAt path = ledger.withStaff (ledger.newRows staff)) ∧
      ∀ fault, readStaffFile octets = .error fault →
        outcome = ⟨.failed fault.causes, ""⟩ ∧ after.ledgerAt path = ledger := by
  refine ⟨fun staff => readStaffFile_eq_ok_iff, fun fault => readStaffFile_eq_error_iff,
    fun session free => ⟨fun staff => Session.step_importStaff_of_ok free,
      fun fault => Session.step_importStaff_of_error⟩, ?_⟩
  intro home path before now words invocation file desk opened plain owned addresses read asked
    at_desk in_file free found ledger outcome after
  obtain ⟨ledger', keeps, orderly⟩ := owned.exists_keeps plain
  obtain ⟨kept, keeps', -, unchanged, left⟩ := exists_leaves_run now plain keeps orderly addresses
  rw [read] at left
  have ledger_eq : ledger = ledger' := keeps.ledgerAt_eq
  have kept_eq : after.ledgerAt path = kept := keeps'.ledgerAt_eq
  have performed : outcome = (desk.execute opened (.importEmployees file)).1 := by
    rw [← asked, ← (of_desk? at_desk).1]
    exact congrArg Prod.fst (show run now words before = _ by rw [run, read])
  refine ⟨fun staff staff_read => ?_, fun fault refused => ?_⟩
  · have success := performed.trans (Desk.execute_importEmployees_of_ok free found staff_read)
    refine ⟨success, ?_⟩
    obtain ⟨desk', opened', at_desk', effect⟩ :=
      left.effect (show outcome.ending = .success by rw [success])
    rw [at_desk] at at_desk'
    cases at_desk'
    rw [if_neg in_file, asked] at effect
    obtain ⟨octets', staff', found', read', -, eq⟩ := effect
    obtain rfl := Except.ok.inj (found.symm.trans found')
    obtain rfl := Except.ok.inj (staff_read.symm.trans read')
    rw [kept_eq, ledger_eq, eq]
  · have failed := performed.trans (Desk.execute_importEmployees_of_error found refused)
    refine ⟨failed, ?_⟩
    rw [kept_eq, ledger_eq]
    exact unchanged (show outcome.ending ≠ .success by simp [failed])

open CommandLine in
/-- A file with two records after its heading is imported into a database that is not there yet, and
into the sample session. -/
theorem staffFile_is_imported_as_a_whole_of_two_records :
    let octets := Text.encode "name,role\n Ada ,medic\nBob,ADMIN\n".toList
    let staff : List NewEmployee := [⟨"Ada", .medic⟩, ⟨"Bob", .administrator⟩]
    let rows : List EmployeeRow := [⟨⟨1⟩, "Ada", "medic"⟩, ⟨⟨2⟩, "Bob", "administrator"⟩]
    let path := (FileName.ofText "roster.db").path []
    let before : Workspace :=
      { files := [((FileName.ofText "staff.csv").path [], .plain octets)] }
    let now := Session.sample.now
    let words := ["import-employees", "--csv", "staff.csv"]
    List.Forall₂ (IsStaffRecord (staffWidth octets)) (fileRecords octets).tail staff ∧
      (Session.sample.step (.importStaff octets)).2.store.ledger.employees = rows ∧
      (run now words before).1 = ⟨.success, "imported 2 employee(s)\n"⟩ ∧
      ((run now words before).2.ledgerAt path).employees = rows := by
  intro octets staff rows path before now words
  have read : readStaffFile octets = .ok staff := by decide +kernel
  have asks : Arguments.read words = .ok ⟨"roster.db", none, .importEmployees "staff.csv"⟩ := by
    decide +kernel
  have named : DatabaseName.read "roster.db" =
      .ok { file := Text.encode "roster.db".toList } := by decide +kernel
  have plain : FilePath.IsPlain [] := nofun
  have owned : before.Owned [] path := .fresh rfl (by decide +kernel)
  have addresses : Addresses [] path words := addresses_of_read asks named (.inr rfl) nofun
  have empty : before.ledgerAt path = {} := by decide +kernel
  obtain ⟨⟨desk, opened⟩, at_desk⟩ := Option.isSome_iff_exists.mp
    (show (desk? now ⟨"roster.db", none, .importEmployees "staff.csv"⟩ before).isSome = true by
      decide +kernel)
  have ready : ∀ result ∈ desk? now ⟨"roster.db", none, .importEmployees "staff.csv"⟩ before,
      result.1.connection.path ≠ none ∧ result.1.store.lock = .free ∧
        result.2.readFile "staff.csv" = .ok octets := by decide +kernel
  obtain ⟨in_file, free, found⟩ := ready _ at_desk
  obtain ⟨reads, -, steps, imports⟩ := staffFile_is_imported_as_a_whole octets
  have step := (steps Session.sample rfl).1 staff read
  have done := (imports [] path before now words _ "staff.csv" desk opened plain owned addresses
    asks rfl at_desk in_file free found).1 staff read
  refine ⟨(reads staff).mp read, by rw [step]; rfl, done.1.trans (by decide +kernel), ?_⟩
  rw [done.2, empty]
  rfl

end DutyRoster
