import DutyRoster.Proofs.CommandLine.Desk
import DutyRoster.Proofs.CommandLine.Ending

/-!
# The exit code tells what has become of the database

A database is followed through all command lines that are run on it, from the time when it is not
there (`Workspace.Owned`). Other files may change in between, and no command line names another
database in a file or writes a file of this one (`CommandLine.Addresses`).

A run gets as far as its command if the settings can be loaded and the database be opened
(`CommandLine.desk?`); if it does not, or if the command fails, the database holds what it held
before. The code tells this apart from success, and a rejection by a rule of the roster from all
other failures (`CommandLine.exitCode_tells_of_database`).
-/

set_option autoImplicit false

namespace DutyRoster

namespace CommandLine

/-- A command line that is in order names no database in a file but the one, and it writes none of
the files of that. -/
structure Addresses (home path : FilePath) (words : List String) : Prop where
  database : ∀ invocation, Arguments.read words = .ok invocation →
    ∀ name, DatabaseName.read invocation.database = .ok name → name.IsAt home path
  exports : ∀ invocation, Arguments.read words = .ok invocation →
    ∀ name ∈ invocation.command.exports, (FileName.ofText name).path home ∉ path.databaseFiles

/-- What the command of an invocation works with and the files as it finds them, if the settings can
be loaded and the database be opened. -/
def desk? (now : Instant) (invocation : Invocation) (workspace : Workspace) :
    Option (Desk × Workspace) :=
  match settings invocation workspace with
  | .error _ => none
  | .ok config =>
    match workspace.connect invocation.database with
    | .error _ => none
    | .ok (connection, workspace) =>
      if config.canWait then
        match workspace.prepare connection with
        | (.ok ledger, use, workspace) =>
          some (⟨connection, use, ledger, config.options, now⟩, workspace)
        | (.error _, _, _) => none
      else none

end CommandLine

/-- A working directory with a database that only the program has written: the database was not
there at first, and since then command lines have been run, or files have changed that are none of
it. -/
inductive Workspace.Owned (home path : FilePath) : Workspace → Prop where
  | fresh {workspace : Workspace} (home_eq : workspace.home = home)
      (absent : ∀ file ∈ path.databaseFiles, workspace.contentAt file = .plain []) :
      Owned home path workspace
  | run {workspace : Workspace} (owned : Owned home path workspace) (now : Instant)
      {words : List String} (addresses : CommandLine.Addresses home path words) :
      Owned home path (CommandLine.run now words workspace).2
  | elsewhere {workspace after : Workspace} (owned : Owned home path workspace)
      (home_eq : after.home = workspace.home)
      (same : ∀ file ∈ path.databaseFiles, after.contentAt file = workspace.contentAt file) :
      Owned home path after

section Performance

namespace CommandLine

variable {home path : FilePath} {ledger : Ledger} {workspace : Workspace} {now : Instant}
  {invocation : Invocation}

/-- How an invocation goes: it stops at the settings, at the database, at the time to wait, or
before the database is ready for use; or else its command is carried out, and the database may be
settled afterwards. -/
inductive Course (now : Instant) (invocation : Invocation) (workspace : Workspace) :
    Outcome × Workspace → Prop where
  | noSettings {causes : List String} (refused : settings invocation workspace = .error causes)
      (no_desk : desk? now invocation workspace = none) :
      Course now invocation workspace (⟨.failed causes, ""⟩, workspace)
  | noDatabase {config : RosterConfig} {causes : List String}
      (loaded : settings invocation workspace = .ok config)
      (no_desk : desk? now invocation workspace = none) :
      Course now invocation workspace (⟨.failed causes, ""⟩, workspace)
  | waitTooLong {config : RosterConfig} {connection : Connection} {found : Workspace}
      (loaded : settings invocation workspace = .ok config) (long : config.canWait = false)
      (connected : workspace.connect invocation.database = .ok (connection, found))
      (no_desk : desk? now invocation workspace = none) :
      Course now invocation workspace (⟨.waitTooLong, ""⟩, found)
  | notReady {config : RosterConfig} {connection : Connection} {found after : Workspace}
      {fault : DatabaseFault} {use : DatabaseUse} {causes : List String}
      (loaded : settings invocation workspace = .ok config)
      (connected : workspace.connect invocation.database = .ok (connection, found))
      (refused : found.prepare connection = (.error fault, use, after))
      (no_desk : desk? now invocation workspace = none) :
      Course now invocation workspace (⟨.failed causes, ""⟩, after.settle connection use)
  | command {config : RosterConfig} {desk : Desk} {found opened after : Workspace}
      (loaded : settings invocation workspace = .ok config)
      (at_desk : desk? now invocation workspace = some (desk, opened))
      (connected : workspace.connect invocation.database = .ok (desk.connection, found))
      (prepared : found.prepare desk.connection = (.ok desk.ledger, desk.use, opened))
      (left : after = (desk.execute opened invocation.command).2 ∨
        after = (desk.execute opened invocation.command).2.settle desk.connection desk.use) :
      Course now invocation workspace ((desk.execute opened invocation.command).1, after)

/-- Every invocation goes in one of these ways. -/
theorem course_of_perform (now : Instant) (invocation : Invocation) (workspace : Workspace) :
    Course now invocation workspace (perform now invocation workspace) := by
  unfold perform
  cases loaded : settings invocation workspace with
  | error causes => exact .noSettings loaded (by rw [desk?, loaded])
  | ok config =>
    dsimp only
    cases connected : workspace.connect invocation.database with
    | error causes =>
      exact .noDatabase loaded (by simp only [desk?, loaded, connected])
    | ok result =>
      obtain ⟨connection, found⟩ := result
      dsimp only
      cases waits : config.canWait with
      | false =>
        exact .waitTooLong loaded waits connected (by simp [desk?, loaded, connected, waits])
      | true =>
        rcases prepared : found.prepare connection with ⟨answer, use, opened⟩
        cases answer with
        | error fault =>
          exact .notReady loaded connected prepared
            (by simp [desk?, loaded, connected, waits, prepared])
        | ok ledger =>
          let desk : Desk := ⟨connection, use, ledger, config.options, now⟩
          have at_desk : desk? now invocation workspace = some (desk, opened) := by
            simp [desk?, loaded, connected, waits, prepared, desk]
          have settled {outcome : Outcome} {after : Workspace} :
              (if outcome.ending.settles then after.settle connection use else after) = after ∨
              (if outcome.ending.settles then after.settle connection use else after) =
                after.settle connection use := by
            split
            · exact .inr rfl
            · exact .inl rfl
          exact .command loaded at_desk connected prepared settled

/-- An invocation that gets as far as its command ends as that does. -/
theorem of_desk? {desk : Desk} {opened : Workspace}
    (at_desk : desk? now invocation workspace = some (desk, opened)) :
    (perform now invocation workspace).1 = (desk.execute opened invocation.command).1 ∧
      ∃ found, workspace.connect invocation.database = .ok (desk.connection, found) ∧
        found.prepare desk.connection = (.ok desk.ledger, desk.use, opened) := by
  have course := course_of_perform now invocation workspace
  generalize perform now invocation workspace = result at course ⊢
  cases course with
  | noSettings _ no_desk | noDatabase _ no_desk | waitTooLong _ _ _ no_desk
  | notReady _ _ _ no_desk =>
    rw [no_desk] at at_desk
    cases at_desk
  | command _ at_desk' connected prepared _ =>
    rw [at_desk] at at_desk'
    cases at_desk'
    exact ⟨rfl, _, connected, prepared⟩

/-- A command works on the database that its command line names. -/
theorem worksOn_of_prepare (plain : home.IsPlain) (keeps : workspace.Keeps home path ledger)
    {name : String} (at_path : ∀ database, DatabaseName.read name = .ok database →
      database.IsAt home path) {desk : Desk} {found opened : Workspace}
    (connected : workspace.connect name = .ok (desk.connection, found))
    (prepared : found.prepare desk.connection = (.ok desk.ledger, desk.use, opened)) :
    desk.WorksOn opened home path ledger := by
  have is_connected := Workspace.connected_of_connect plain keeps at_path connected
  obtain ⟨⟨database, file⟩, use, read, options, now⟩ := desk
  cases is_connected with
  | transient no_file =>
    rw [Workspace.prepare_transient] at prepared
    split at prepared
    · cases prepared
      exact .transient rfl rfl keeps
    · cases prepared
  | stored has_file plain nonempty keeps reachable =>
    have ready := Workspace.prepare_stored plain nonempty keeps reachable has_file
    rw [prepared] at ready
    exact .stored rfl nonempty has_file ready

/-- A database that is not ready for use holds what it held before, whether it is settled or not. -/
theorem keeps_of_not_ready (plain : home.IsPlain) (keeps : workspace.Keeps home path ledger)
    {name : String} (at_path : ∀ database, DatabaseName.read name = .ok database →
      database.IsAt home path) {connection : Connection} {found after : Workspace}
    {fault : DatabaseFault} {use : DatabaseUse}
    (connected : workspace.connect name = .ok (connection, found))
    (refused : found.prepare connection = (.error fault, use, after)) :
    (after.settle connection use).Keeps home path ledger := by
  cases Workspace.connected_of_connect plain keeps at_path connected with
  | transient no_file =>
    rw [Workspace.prepare_transient, Prod.mk.injEq, Prod.mk.injEq] at refused
    exact refused.2.2 ▸ keeps
  | stored has_file plain nonempty keeps reachable =>
    have left := Workspace.prepare_stored plain nonempty keeps reachable has_file
    rw [refused] at left
    exact left.settle _ (fun other eq => ⟨(Option.some.inj eq).symm, nonempty⟩) _

/-- A database that has been found holds what it held before. -/
theorem keeps_of_connect (plain : home.IsPlain) (keeps : workspace.Keeps home path ledger)
    {name : String} (at_path : ∀ database, DatabaseName.read name = .ok database →
      database.IsAt home path) {connection : Connection} {found : Workspace}
    (connected : workspace.connect name = .ok (connection, found)) :
    found.Keeps home path ledger := by
  cases Workspace.connected_of_connect plain keeps at_path connected with
  | transient no_file => exact keeps
  | stored _ _ _ keeps _ => exact keeps

/-- What an invocation leaves in a database: what was there, unless it succeeds and its command
works on that database. -/
structure Leaves (now : Instant) (invocation : Invocation) (workspace : Workspace)
    (home path : FilePath) (ledger : Ledger) (result : Outcome × Workspace) (kept : Ledger) :
    Prop where
  keeps : result.2.Keeps home path kept
  orderly : kept.Orderly
  unchanged : result.1.ending ≠ .success → kept = ledger
  effect : result.1.ending = .success → ∃ desk opened,
    desk? now invocation workspace = some (desk, opened) ∧
    if desk.connection.path = none then kept = ledger
    else invocation.command.Effect opened ledger kept

/-- Whatever comes of an invocation, the database in question holds a ledger that only the program
has written: what it held before, or what the command should make of it. -/
theorem exists_leaves_perform (now : Instant) (plain : home.IsPlain)
    (keeps : workspace.Keeps home path ledger) (orderly : ledger.Orderly)
    (at_path : ∀ database, DatabaseName.read invocation.database = .ok database →
      database.IsAt home path)
    (outside : ∀ name ∈ invocation.command.exports,
      (FileName.ofText name).path home ∉ path.databaseFiles) :
    ∃ kept, Leaves now invocation workspace home path ledger (perform now invocation workspace)
      kept := by
  have course := course_of_perform now invocation workspace
  generalize perform now invocation workspace = result at course
  cases course with
  | noSettings refused no_desk => exact ⟨ledger, keeps, orderly, fun _ => rfl, nofun⟩
  | noDatabase loaded no_desk => exact ⟨ledger, keeps, orderly, fun _ => rfl, nofun⟩
  | waitTooLong loaded long connected no_desk =>
    exact ⟨ledger, keeps_of_connect plain keeps at_path connected, orderly, fun _ => rfl, nofun⟩
  | notReady loaded connected refused no_desk =>
    exact ⟨ledger, keeps_of_not_ready plain keeps at_path connected refused, orderly, fun _ => rfl,
      nofun⟩
  | @command config desk found opened after loaded at_desk connected prepared left =>
    have works_on := worksOn_of_prepare plain keeps at_path connected prepared
    have settled {kept : Ledger}
        (keeps : (desk.execute opened invocation.command).2.Keeps home path kept) :
        after.Keeps home path kept := by
      rcases left with rfl | rfl
      · exact keeps
      · exact keeps.settle _ (fun other eq => by
          obtain ⟨found, nonempty⟩ := works_on.at_path (by rw [eq]; exact nofun)
          exact ⟨Option.some.inj (eq.symm.trans found), nonempty⟩) _
    cases works_on.leaves_execute orderly outside with
    | unchanged keeps effect =>
      refine ⟨ledger, settled keeps, orderly, fun _ => rfl, fun success =>
        ⟨desk, opened, at_desk, ?_⟩⟩
      split
      · rfl
      · rename_i in_file
        exact effect success in_file
    | changed success in_file keeps orderly effect =>
      exact ⟨_, settled keeps, orderly, fun failed => absurd success failed, fun _ =>
        ⟨desk, opened, at_desk, by rwa [if_neg in_file]⟩⟩

/-- A command line leaves a database as it was if it is not accepted, or else as its invocation
does. -/
theorem exists_leaves_run (now : Instant) (plain : home.IsPlain)
    (keeps : workspace.Keeps home path ledger) (orderly : ledger.Orderly)
    {words : List String} (addresses : Addresses home path words) :
    ∃ kept, (run now words workspace).2.Keeps home path kept ∧ kept.Orderly ∧
      ((run now words workspace).1.ending ≠ .success → kept = ledger) ∧
      match Arguments.read words with
      | .error _ => kept = ledger
      | .ok invocation =>
        Leaves now invocation workspace home path ledger (run now words workspace) kept := by
  unfold run
  cases read : Arguments.read words with
  | error fault => cases fault <;> exact ⟨ledger, keeps, orderly, fun _ => rfl, rfl⟩
  | ok invocation =>
    obtain ⟨kept, leaves⟩ := exists_leaves_perform now plain keeps orderly
      (addresses.database invocation read) (addresses.exports invocation read)
    exact ⟨kept, leaves.keeps, leaves.orderly, leaves.unchanged, leaves⟩

end CommandLine

/-- A database that only the program has written is such as it leaves one. -/
theorem Workspace.Owned.exists_keeps {home path : FilePath} {workspace : Workspace}
    (owned : workspace.Owned home path) (plain : home.IsPlain) :
    ∃ ledger : Ledger, workspace.Keeps home path ledger ∧ ledger.Orderly := by
  induction owned with
  | @fresh workspace home_eq absent =>
    have no_log : workspace.log? path = none := by
      rw [log?, absent path.log (by simp [FilePath.databaseFiles])]
      rfl
    refine ⟨{}, ⟨home_eq, ?_, absent path.journal (by simp [FilePath.databaseFiles]),
      fun logged => absurd no_log logged⟩, .empty⟩
    rw [absent path (by simp [FilePath.databaseFiles]), no_log]
    exact .nothing
  | run owned now addresses ih =>
    obtain ⟨ledger, keeps, orderly⟩ := ih
    obtain ⟨kept, keeps, orderly, -⟩ :=
      CommandLine.exists_leaves_run now plain keeps orderly addresses
    exact ⟨kept, keeps, orderly⟩
  | @elsewhere workspace after owned home_eq same ih =>
    obtain ⟨ledger, keeps, orderly⟩ := ih
    have alike : Alike path workspace after := by
      refine ⟨home_eq, same path (by simp [FilePath.databaseFiles]), ?_,
        same path.journal (by simp [FilePath.databaseFiles])⟩
      rw [log?, log?, same path.log (by simp [FilePath.databaseFiles])]
    exact ⟨ledger, alike.keeps keeps, orderly⟩

end Performance

section Codes

namespace CommandLine

variable {home path : FilePath} {workspace : Workspace} {now : Instant} {invocation : Invocation}
  {cause : SchedulingError}

/-- The invocation is a request to assign, and a rule of the roster refuses it. -/
def Rejects (now : Instant) (invocation : Invocation) (workspace : Workspace)
    (cause : SchedulingError) : Prop :=
  ∃ desk opened employee date slot, desk? now invocation workspace = some (desk, opened) ∧
    invocation.command = .assign employee date slot ∧
    (desk.store.assign desk.options desk.now.date employee date slot).1 = .error cause ∧
    cause.ByRule

/-- The settings of an invocation cannot be loaded, or the database cannot be opened, or the command
fails. -/
inductive Fails (now : Instant) (invocation : Invocation) (workspace : Workspace) : Prop where
  | settings {causes : List String} (refused : settings invocation workspace = .error causes)
  | database {config : RosterConfig}
      (loaded : CommandLine.settings invocation workspace = .ok config)
      (waits : config.canWait = true) (no_desk : desk? now invocation workspace = none)
  | command {desk : Desk} {opened : Workspace}
      (at_desk : desk? now invocation workspace = some (desk, opened))
      (fails : desk.Fails opened invocation.command)

/-- An invocation that fails ends in failure, with the causes to be told. -/
theorem ending_of_fails (fails : Fails now invocation workspace) :
    ∃ causes, (perform now invocation workspace).1.ending = .failed causes := by
  have course := course_of_perform now invocation workspace
  cases fails with
  | settings refused =>
    generalize perform now invocation workspace = result at course
    cases course with
    | noSettings => exact ⟨_, rfl⟩
    | noDatabase loaded | waitTooLong loaded | notReady loaded | command loaded =>
      rw [refused] at loaded
      cases loaded
  | database loaded waits no_desk =>
    generalize perform now invocation workspace = result at course
    cases course with
    | noSettings | noDatabase | notReady => exact ⟨_, rfl⟩
    | waitTooLong loaded' long =>
      rw [loaded] at loaded'
      cases loaded'
      rw [waits] at long
      cases long
    | command _ at_desk =>
      rw [no_desk] at at_desk
      cases at_desk
  | command at_desk fails => exact (of_desk? at_desk).1 ▸ fails.ending

/-- An invocation ends in a rejection exactly if it is a request to assign that a rule of the roster
refuses. -/
theorem ending_eq_rejected_iff :
    (perform now invocation workspace).1.ending = .rejected cause ↔
      Rejects now invocation workspace cause := by
  constructor
  · intro rejected
    have course := course_of_perform now invocation workspace
    generalize perform now invocation workspace = result at course rejected
    cases course with
    | noSettings | noDatabase | waitTooLong | notReady => cases rejected
    | @command _ desk _ opened _ _ at_desk =>
      obtain ⟨employee, date, slot, request⟩ := Desk.execute_eq_rejected_iff.mp rejected
      exact ⟨desk, opened, employee, date, slot, at_desk, request⟩
  · rintro ⟨desk, opened, employee, date, slot, at_desk, request⟩
    rw [(of_desk? at_desk).1]
    exact Desk.execute_eq_rejected_iff.mpr ⟨employee, date, slot, request⟩

/-- Beside success, rejection and failure there are just two ways to end: that the time to wait is
too long, or that the staff on call is asked for at the end of the calendar. -/
theorem ending_cases (now : Instant) (plain : home.IsPlain) {ledger : Ledger}
    (keeps : workspace.Keeps home path ledger) (orderly : ledger.Orderly)
    (at_path : ∀ database, DatabaseName.read invocation.database = .ok database →
      database.IsAt home path) :
    (perform now invocation workspace).1.ending = .success ∨
    (∃ cause, (perform now invocation workspace).1.ending = .rejected cause) ∨
    (∃ causes, (perform now invocation workspace).1.ending = .failed causes) ∨
    (perform now invocation workspace).1.ending.code = 101 ∧
      ((∃ config, settings invocation workspace = .ok config ∧ config.canWait = false) ∨
        ∃ instant minutes, invocation.command = .onCall instant minutes) := by
  have course := course_of_perform now invocation workspace
  generalize perform now invocation workspace = result at course
  cases course with
  | noSettings | noDatabase | notReady => exact .inr (.inr (.inl ⟨_, rfl⟩))
  | waitTooLong loaded long => exact .inr (.inr (.inr ⟨rfl, .inl ⟨_, loaded, long⟩⟩))
  | @command _ desk _ opened _ _ _ connected prepared _ =>
    by_cases request : ∃ employee date slot, invocation.command = .assign employee date slot
    · obtain ⟨employee, date, slot, eq⟩ := request
      rw [eq]
      exact (desk.execute_assign_cases opened employee date slot).imp_right (Or.imp_right .inl)
    · have is_plain := desk.isPlain_execute opened fun employee date slot eq =>
        request ⟨employee, date, slot, eq⟩
      have works_on := worksOn_of_prepare plain keeps at_path connected prepared
      have within : (∀ instant minutes, invocation.command ≠ .onCall instant minutes) → _ :=
        desk.execute_ends_within_calendar opened (works_on.short_years orderly)
      generalize (desk.execute opened invocation.command).1.ending = ending at is_plain within
      cases is_plain with
      | success => exact .inl rfl
      | failed causes => exact .inr (.inr (.inl ⟨causes, rfl⟩))
      | windowBeyondCalendar =>
        refine .inr (.inr (.inr ⟨rfl, .inr ?_⟩))
        by_contra other
        exact within (fun instant minutes eq => other ⟨instant, minutes, eq⟩) rfl

/-- What is found in a database that has no file or is not frozen is what it holds. -/
theorem ledger_of_desk? (plain : home.IsPlain) {ledger : Ledger}
    (keeps : workspace.Keeps home path ledger)
    (at_path : ∀ database, DatabaseName.read invocation.database = .ok database →
      database.IsAt home path) {desk : Desk} {opened : Workspace}
    (at_desk : desk? now invocation workspace = some (desk, opened)) :
    if desk.connection.path = none then desk.ledger = {}
    else desk.connection.database.frozen = false → desk.ledger = ledger := by
  obtain ⟨-, found, connected, prepared⟩ := of_desk? at_desk
  cases worksOn_of_prepare plain keeps at_path connected prepared with
  | transient no_file empty => rwa [if_pos no_file]
  | stored found nonempty has_file prepared =>
    rw [found, if_neg nofun]
    exact prepared.answer_eq

end CommandLine

end Codes

namespace CommandLine

/-- In a working directory with a database that only the program has written, whatever the clock
shows: a command line that ends with another code than 0 leaves what the database holds, identifiers
set aside included. If it is accepted, the code is 2 for the requests to assign that a rule of the
roster refuses, which are told as rejections, and for nothing else; it is 1 for all failures, those
of settings and databases, other refusals, and files that cannot be read or written; and there is no
other code, except for a time to wait that is too long and the staff on call at the end of the
calendar. If it ends with 0, its command has been carried out, with the effect that it has on a
database in a file and with none on another one. A request is weighed against what the database
holds, unless that is frozen. -/
theorem exitCode_tells_of_database {home path : FilePath} (plain : home.IsPlain)
    {before : Workspace} (owned : before.Owned home path) {words : List String}
    (addresses : Addresses home path words) (now : Instant) :
    let outcome := (run now words before).1
    let after := (run now words before).2
    (outcome.ending.code ≠ 0 → after.ledgerAt path = before.ledgerAt path) ∧
    (∀ fault, Arguments.read words = .error fault →
      after.ledgerAt path = before.ledgerAt path) ∧
    ∀ invocation, Arguments.read words = .ok invocation →
      (outcome.ending.code = 2 ↔ ∃ cause, Rejects now invocation before cause) ∧
      (∀ cause, Rejects now invocation before cause →
        outcome.ending.report = "rejected: " ++ cause.message ++ "\n") ∧
      (Fails now invocation before → outcome.ending.code = 1) ∧
      (outcome.ending.code ∉ [0, 1, 2] → outcome.ending.code = 101 ∧
        ((∃ config, settings invocation before = .ok config ∧ config.canWait = false) ∨
          ∃ instant minutes, invocation.command = .onCall instant minutes)) ∧
      (outcome.ending.code = 0 → ∃ desk opened, desk? now invocation before = some (desk, opened) ∧
        if desk.connection.path = none then after.ledgerAt path = before.ledgerAt path
        else invocation.command.Effect opened (before.ledgerAt path) (after.ledgerAt path)) ∧
      ∀ desk opened, desk? now invocation before = some (desk, opened) →
        if desk.connection.path = none then desk.ledger = {}
        else desk.connection.database.frozen = false → desk.ledger = before.ledgerAt path := by
  intro outcome after
  obtain ⟨ledger, keeps, orderly⟩ := owned.exists_keeps plain
  obtain ⟨kept, keeps', -, unchanged, left⟩ :=
    exists_leaves_run now plain keeps orderly addresses
  rw [show after.ledgerAt path = kept from keeps'.ledgerAt_eq, keeps.ledgerAt_eq]
  refine ⟨fun code => unchanged fun success => ?_, fun fault read => ?_, fun invocation read => ?_⟩
  · exact code (by rw [show outcome.ending = .success from success]; rfl)
  · rw [read] at left
    exact left
  · rw [read] at left
    have performed : outcome = (perform now invocation before).1 :=
      congrArg Prod.fst (show run now words before = _ by rw [run, read])
    have at_path := addresses.database invocation read
    have rejected_of {cause : SchedulingError} (rejects : Rejects now invocation before cause) :
        outcome.ending = .rejected cause := by
      rw [performed]
      exact ending_eq_rejected_iff.mpr rejects
    have ends := ending_cases now plain keeps orderly at_path
    rw [← performed] at ends
    -- of the four ways to end no two have the same code, so the code tells which one it was
    refine ⟨⟨fun code => ?_, fun ⟨cause, rejects⟩ => by rw [rejected_of rejects]; rfl⟩,
      fun cause rejects => by rw [rejected_of rejects]; rfl, fun fails => ?_, fun other => ?_,
      fun code => ?_, fun desk opened at_desk => ledger_of_desk? plain keeps at_path at_desk⟩
    · rcases ends with eq | ⟨cause, eq⟩ | ⟨causes, eq⟩ | ⟨eq, -⟩
      · rw [eq] at code
        cases code
      · exact ⟨cause, ending_eq_rejected_iff.mp (performed ▸ eq)⟩
      · rw [eq] at code
        cases code
      · rw [eq] at code
        cases code
    · obtain ⟨causes, eq⟩ := ending_of_fails fails
      rw [performed, eq]
      rfl
    · rcases ends with eq | ⟨cause, eq⟩ | ⟨causes, eq⟩ | why
      · rw [eq] at other
        exact absurd (by simp [Ending.code]) other
      · rw [eq] at other
        exact absurd (by simp [Ending.code]) other
      · rw [eq] at other
        exact absurd (by simp [Ending.code]) other
      · exact why
    · rcases ends with eq | ⟨cause, eq⟩ | ⟨causes, eq⟩ | ⟨eq, -⟩
      · exact left.effect eq
      · rw [eq] at code
        cases code
      · rw [eq] at code
        cases code
      · rw [eq] at code
        cases code

/-- An invocation addresses a database if its words can be read and name that database, and its
export goes elsewhere. -/
theorem addresses_of_read {home path : FilePath} {words : List String} {invocation : Invocation}
    {database : DatabaseName} (read : Arguments.read words = .ok invocation)
    (named : DatabaseName.read invocation.database = .ok database)
    (at_path : database.IsAt home path) (outside : ∀ name ∈ invocation.command.exports,
      (FileName.ofText name).path home ∉ path.databaseFiles) : Addresses home path words where
  database other read' name named' := by
    obtain rfl := Except.ok.inj (read.symm.trans read')
    obtain rfl := Except.ok.inj (named.symm.trans named')
    exact at_path
  exports other read' := by
    obtain rfl := Except.ok.inj (read.symm.trans read')
    exact outside

/-- Ada is registered in an empty directory; a request to assign her to a day that is past is
rejected, and nothing changes. -/
theorem exitCode_tells_of_database_for_past_day :
    let path := (FileName.ofText "roster.db").path []
    let now := Session.sample.now
    let first := ["add-employee", "--name", "Ada", "--role", "medic"]
    let words := ["assign", "--employee", "1", "--date", "2020-07-01", "--slot", "1"]
    let before := (run now first {}).2
    let request : Invocation := ⟨"roster.db", none, .assign ⟨1⟩ "2020-07-01" 1⟩
    (FilePath.IsPlain [] ∧ before.Owned [] path ∧ Addresses [] path words) ∧
      (before.ledgerAt path).employees.length = 1 ∧
      (run now words before).1.ending.code = 2 ∧
      (∃ cause, Rejects now request before cause) ∧
      (run now words before).2.ledgerAt path = before.ledgerAt path := by
  intro path now first words before request
  have named : DatabaseName.read "roster.db" =
      .ok { file := Text.encode "roster.db".toList } := by decide +kernel
  have at_path : DatabaseName.IsAt { file := Text.encode "roster.db".toList } [] path := .inr rfl
  have registers : Arguments.read first = .ok ⟨"roster.db", none, .addEmployee "Ada" .medic⟩ := by
    decide +kernel
  have asks : Arguments.read words = .ok request := by decide +kernel
  have plain : FilePath.IsPlain [] := nofun
  have fresh : Workspace.Owned [] path {} := .fresh rfl fun _ _ => rfl
  have owned : before.Owned [] path :=
    fresh.run now (addresses_of_read registers named at_path nofun)
  have addresses := addresses_of_read asks named at_path nofun
  have one : (before.ledgerAt path).employees.length = 1 := by decide +kernel
  have code : (run now words before).1.ending.code = 2 := by decide +kernel
  obtain ⟨unchanged, -, accepted⟩ := exitCode_tells_of_database plain owned addresses now
  exact ⟨⟨plain, owned, addresses⟩, one, code, (accepted request asks).1.mp code,
    unchanged (by rw [code]; decide)⟩

end CommandLine

end DutyRoster
