import DutyRoster.Proofs.Workspace.Keep

/-!
# Opening a database changes nothing that it holds

A database that is found by its name either has no file or is the one in question
(`Workspace.Connected`). The first is empty (`Workspace.prepare_transient`); the second holds what
it held before, also once it has been made ready for use (`Workspace.prepare_stored`).
-/

set_option autoImplicit false

namespace DutyRoster

/-- Whether a database, by its name, is the one in a file or has no file at all. -/
def DatabaseName.IsAt (database : DatabaseName) (home path : FilePath) : Prop :=
  database.isTransient = true ∨ (FileName.ofOctets database.file).path home = path

/-- A frozen database that has a file cannot be written. -/
theorem DatabaseName.isWritable_of_frozen {database : DatabaseName}
    (stored : database.isTransient = false) (frozen : database.frozen = true) :
    database.isWritable = false := by
  rw [isTransient, Bool.or_eq_false_iff] at stored
  rw [isWritable, frozen, stored.2]
  simp

namespace Workspace

variable {workspace after : Workspace} {home path : FilePath} {ledger : Ledger}
  {connection : Connection} {name : String}

/-- What is known of a database that has been found: it has no file, and nothing has been done; or
it is the one in question, and a log that goes with it can be reached. -/
inductive Connected (home path : FilePath) (ledger : Ledger) (before : Workspace) :
    Connection → Workspace → Prop where
  | transient {database : DatabaseName} (no_file : database.isTransient = true) :
      Connected home path ledger before ⟨database, none⟩ before
  | stored {database : DatabaseName} {after : Workspace} (has_file : database.isTransient = false)
      (plain : path.IsPlain) (nonempty : path ≠ []) (keeps : after.Keeps home path ledger)
      (reachable : after.log? path ≠ none → ∃ place, after.reach path = .ok place) :
      Connected home path ledger before ⟨database, some path⟩ after

/-- A database that has been connected to has a name that can be read, and has been found by it. -/
theorem exists_of_connect (found : workspace.connect name = .ok (connection, after)) :
    ∃ database, DatabaseName.read name = .ok database ∧
      workspace.findDatabase database = .ok (connection, after) := by
  unfold connect at found
  split at found
  · cases found
  · rename_i database read
    split at found
    · rename_i result eq
      rw [Except.ok.inj found] at eq
      exact ⟨database, read, eq⟩
    · cases found
    · cases found

/-- A file that is opened is there already, or is created empty. -/
theorem Keeps.openFile (plain : path.IsPlain) (nonempty : path ≠ [])
    (keeps : workspace.Keeps home path ledger) {access : DatabaseAccess}
    (opened : workspace.openFile path access = .ok after) : after.Keeps home path ledger ∧
      (after.log? path ≠ none → ∃ place, after.reach path = .ok place) := by
  unfold Workspace.openFile at opened
  split at opened
  · rename_i reached
    cases opened
    exact ⟨keeps, fun _ => ⟨_, reached⟩⟩
  · rename_i reached
    cases opened
    have absent : workspace.content? path = none := by
      rcases reach_cases plain nonempty reached with eq | ⟨content, -, eq⟩ | ⟨absent, -⟩
      · cases eq
      · cases eq
      · exact absent
    have empty : workspace.contentAt path = .plain [] := by
      rw [contentAt, absent, Option.getD_none]
    have no_log : workspace.log? path = none := keeps.filed.log_eq_none (by rw [empty]; rfl)
    have alike : Alike path workspace (workspace.put path (.plain [])) := by
      refine ⟨rfl, by rw [contentAt_put_self, empty], ?_, ?_⟩
      · rw [log?, contentAt_put_of_ne (FilePath.ne_log nonempty).symm, log?]
      · rw [contentAt_put_of_ne (FilePath.ne_journal nonempty).symm]
    exact ⟨alike.keeps keeps, fun logged => absurd (alike.log_eq.trans no_log) logged⟩
  · cases opened
  · cases opened

/-- What is known of a database that has been found, if it is the one in question or has no file.
What that one holds is as it was. -/
theorem connected_of_findDatabase (plain : home.IsPlain) (keeps : workspace.Keeps home path ledger)
    {database : DatabaseName} (at_path : database.IsAt home path)
    (found : workspace.findDatabase database = .ok (connection, after)) :
    Connected home path ledger workspace connection after := by
  unfold findDatabase at found
  split at found
  · rename_i transient
    cases found
    exact .transient transient
  · rename_i stored
    split at found
    · cases found
    · rename_i way named
      obtain ⟨rfl, nonempty⟩ := path_of_databasePath? named
      have own : (FileName.ofOctets database.file).path workspace.home = path := by
        rw [keeps.home_eq]
        exact at_path.resolve_left stored
      rw [own] at found nonempty
      have plain_path : path.IsPlain := by
        rw [← own, keeps.home_eq]
        exact plain.namedPath _
      split at found
      · cases opened : workspace.openFile path database.access with
        | error fault =>
          rw [opened] at found
          cases found
        | ok after =>
          rw [opened] at found
          cases found
          obtain ⟨keeps', reachable⟩ := keeps.openFile plain_path nonempty opened
          exact .stored (by simpa using stored) plain_path nonempty keeps' reachable
      · cases found

/-- What a database holds is not changed when it is found. -/
theorem connected_of_connect (plain : home.IsPlain) (keeps : workspace.Keeps home path ledger)
    (at_path : ∀ database, DatabaseName.read name = .ok database → database.IsAt home path)
    (found : workspace.connect name = .ok (connection, after)) :
    Connected home path ledger workspace connection after := by
  obtain ⟨database, read, found⟩ := exists_of_connect found
  exact connected_of_findDatabase plain keeps (at_path database read) found

/-- A database that has no file is empty, and can be changed unless its name rules that out. -/
theorem prepare_transient {database : DatabaseName} : workspace.prepare ⟨database, none⟩ =
    (if database.isWritable then .ok {} else .error .readOnly, { database }, workspace) :=
  rfl

/-- A database in a file that is made ready for use holds what it held before. -/
theorem prepare_stored (plain : path.IsPlain) (nonempty : path ≠ [])
    (keeps : workspace.Keeps home path ledger)
    (reachable : workspace.log? path ≠ none → ∃ place, workspace.reach path = .ok place)
    {database : DatabaseName} (has_file : database.isTransient = false) :
    match workspace.prepare ⟨database, some path⟩ with
    | (.ok answer, use, after) =>
      Preparation.Prepared home path ledger database answer (use, after)
    | (.error _, _, after) => after.Keeps home path ledger := by
  have ensured : (Preparation.prepare path).Ensures ({ database }, workspace)
      (Preparation.Prepared home path ledger database)
      fun after => after.2.Keeps home path ledger :=
    Preparation.ensures_prepare plain nonempty keeps rfl reachable
      (DatabaseName.isWritable_of_frozen has_file)
  unfold Preparation.Ensures at ensured
  generalize ran : (Preparation.prepare path).run.run ({ database }, workspace) = result at ensured
  obtain ⟨answer, use, after⟩ := result
  have prepared : workspace.prepare ⟨database, some path⟩ = (answer, use, after) := ran
  rw [prepared]
  cases answer <;> exact ensured

end Workspace

end DutyRoster
