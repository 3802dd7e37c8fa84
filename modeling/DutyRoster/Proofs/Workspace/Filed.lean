import DutyRoster.Proofs.Workspace.Files
import DutyRoster.Workspace.Keep

/-!
# What the files of a database hold

The program leaves a ledger in the file of a database, or in the log beside it, or in neither if the
ledger is empty (`Filed`). `Workspace.ledgerAt` reads it from there, and `Workspace.Keeps` says that
it is so and that nothing stands in the way of reading it again. Changes of other files do not
matter (`Workspace.Alike.keeps`).
-/

set_option autoImplicit false

namespace DutyRoster

/-- How the files of a database can hold a ledger, given what is in its file and in its log. -/
inductive Filed : FileContent → Option ChangeLog → Ledger → Prop where
  | nothing : Filed (.plain []) none {}
  | blank : Filed (.plain blankPage) none {}
  | inFile (image : DatabaseImage) : Filed (.database image) none image.ledger
  | inLog (image : DatabaseImage) (log : ChangeLog)
      (older : image.ledger.slots ⊆ log.image.ledger.slots) : Filed (.database image)
      (some log) log.image.ledger
  | inLogAlone (log : ChangeLog) (complete : log.complete = true) :
      Filed (.plain blankPage) (some log) log.image.ledger

/-- A file with the page that the program writes is not without pages. -/
theorem hasNoPages_blankPage : (FileContent.plain blankPage).hasNoPages = false := by
  decide +kernel

/-- A file without pages has no log. -/
theorem Filed.log_eq_none {content : FileContent} {log : Option ChangeLog} {ledger : Ledger}
    (filed : Filed content log ledger) (empty : content.hasNoPages = true) : log = none := by
  cases filed with
  | nothing => rfl
  | blank => rfl
  | inFile image => rfl
  | inLog image log older => cases empty
  | inLogAlone log complete =>
    rw [hasNoPages_blankPage] at empty
    cases empty

/-- A file without tables and without a log holds nothing. -/
theorem Filed.eq_empty {octets : List UInt8} {ledger : Ledger}
    (filed : Filed (.plain octets) none ledger) : ledger = {} := by
  cases filed <;> rfl

namespace Workspace

variable {workspace after later : Workspace} {home path : FilePath} {ledger : Ledger}

/-- What a database holds: the ledger of its log, if there is a log, or else that of its file. -/
def ledgerAt (workspace : Workspace) (path : FilePath) : Ledger :=
  match workspace.log? path, workspace.contentAt path with
  | some log, _ => log.image.ledger
  | none, .database image => image.ledger
  | none, _ => {}

/-- The files of a database are such as the program leaves them, and hold a ledger. -/
structure Keeps (workspace : Workspace) (home path : FilePath) (ledger : Ledger) : Prop where
  home_eq : workspace.home = home
  filed : Filed (workspace.contentAt path) (workspace.log? path) ledger
  no_journal : workspace.contentAt path.journal = .plain []
  nameable : workspace.log? path ≠ none → path.log.IsNameable

/-- What the files of a database hold is what is read from them. -/
theorem Keeps.ledgerAt_eq (keeps : workspace.Keeps home path ledger) :
    workspace.ledgerAt path = ledger := by
  have filed := keeps.filed
  unfold ledgerAt
  generalize workspace.contentAt path = content at filed
  generalize workspace.log? path = log at filed
  cases filed <;> rfl

/-- No file is found where there is none or an empty one. -/
theorem present?_of_empty (plain : path.IsPlain) (nonempty : path ≠ [])
    (empty : workspace.contentAt path = .plain []) :
    workspace.present? path = none ∨ workspace.present? path = some (.directory path) := by
  unfold present?
  cases reached : workspace.reach path with
  | error fault => exact .inl rfl
  | ok place =>
    rcases reach_cases plain nonempty reached with rfl | ⟨content, there, rfl⟩ | ⟨-, rfl⟩
    · exact .inr rfl
    · rw [contentAt, there, Option.getD_some] at empty
      exact .inl (if_pos empty)
    · exact .inl rfl

/-- Two workspaces have the same working directory and the same in the files of a database, but for
the index of the log. -/
structure Alike (path : FilePath) (workspace after : Workspace) : Prop where
  home_eq : after.home = workspace.home
  file_eq : after.contentAt path = workspace.contentAt path
  log_eq : after.log? path = workspace.log? path
  journal_eq : after.contentAt path.journal = workspace.contentAt path.journal

namespace Alike

/-- A workspace is like itself. -/
theorem refl (workspace : Workspace) : Alike path workspace workspace :=
  ⟨rfl, rfl, rfl, rfl⟩

/-- What is alike in two steps is alike. -/
theorem trans (first : Alike path workspace after) (second : Alike path after later) :
    Alike path workspace later :=
  ⟨second.home_eq.trans first.home_eq, second.file_eq.trans first.file_eq,
    second.log_eq.trans first.log_eq, second.journal_eq.trans first.journal_eq⟩

/-- If the files of a database stay alike, they hold what they held. -/
theorem keeps (alike : Alike path workspace after) (keeps : workspace.Keeps home path ledger) :
    after.Keeps home path ledger where
  home_eq := alike.home_eq.trans keeps.home_eq
  filed := by
    rw [alike.file_eq, alike.log_eq]
    exact keeps.filed
  no_journal := alike.journal_eq.trans keeps.no_journal
  nameable := by
    rw [alike.log_eq]
    exact keeps.nameable

/-- A file that is none of these can be written. -/
theorem put {other : FilePath} {content : FileContent} (ne_file : path ≠ other)
    (ne_log : path.log ≠ other) (ne_journal : path.journal ≠ other) :
    Alike path workspace (workspace.put other content) where
  home_eq := rfl
  file_eq := contentAt_put_of_ne ne_file
  log_eq := by rw [log?, contentAt_put_of_ne ne_log, log?]
  journal_eq := contentAt_put_of_ne ne_journal

/-- A file that is none of these can be taken away. -/
theorem remove {other : FilePath} (ne_file : path ≠ other) (ne_log : path.log ≠ other)
    (ne_journal : path.journal ≠ other) : Alike path workspace (workspace.remove other) where
  home_eq := rfl
  file_eq := contentAt_remove_of_ne ne_file
  log_eq := by rw [log?, contentAt_remove_of_ne ne_log, log?]
  journal_eq := contentAt_remove_of_ne ne_journal

end Alike

end Workspace

namespace FilePath

variable {path : FilePath}

/-- The file of a database is not its log. -/
theorem ne_log (nonempty : path ≠ []) : path ≠ path.log :=
  beside_ne_self nonempty (by decide +kernel)

/-- The file of a database is not the index of its log. -/
theorem ne_index (nonempty : path ≠ []) : path ≠ path.index :=
  beside_ne_self nonempty (by decide +kernel)

/-- The file of a database is not its journal. -/
theorem ne_journal (nonempty : path ≠ []) : path ≠ path.journal :=
  beside_ne_self nonempty (by decide +kernel)

/-- The log of a database is not the index of the log. -/
theorem log_ne_index (nonempty : path ≠ []) : path.log ≠ path.index :=
  beside_ne_beside nonempty (by decide +kernel)

/-- The log of a database is not its journal. -/
theorem log_ne_journal (nonempty : path ≠ []) : path.log ≠ path.journal :=
  beside_ne_beside nonempty (by decide +kernel)

/-- The journal of a database is not the index of its log. -/
theorem journal_ne_index (nonempty : path ≠ []) : path.journal ≠ path.index :=
  beside_ne_beside nonempty (by decide +kernel)

/-- The way to the log has no dots if the way to the database has none. -/
theorem IsPlain.log (plain : path.IsPlain) (nonempty : path ≠ []) : path.log.IsPlain :=
  plain.beside nonempty (by decide +kernel)

/-- The way to the journal has no dots if the way to the database has none. -/
theorem IsPlain.journal (plain : path.IsPlain) (nonempty : path ≠ []) : path.journal.IsPlain :=
  plain.beside nonempty (by decide +kernel)

end FilePath

namespace Workspace

variable {workspace : Workspace} {home path : FilePath} {ledger : Ledger}

/-- Where there is room for a file, its name is short enough. -/
theorem isNameable_of_hasRoom (plain : path.IsPlain) (nonempty : path ≠ [])
    (room : workspace.hasRoom path = true) : path.IsNameable := by
  unfold hasRoom at room
  cases reached : workspace.reach path with
  | error fault =>
    rw [reached] at room
    cases room
  | ok place => exact isNameable_of_reach plain nonempty reached

/-- An empty log is as good as none. -/
theorem Alike.put_empty_log (nonempty : path ≠ []) (absent : workspace.log? path = none) :
    Alike path workspace (workspace.put path.log (.plain [])) where
  home_eq := rfl
  file_eq := contentAt_put_of_ne (FilePath.ne_log nonempty)
  log_eq := by
    rw [absent, log?, contentAt_put_self]
    rfl
  journal_eq := contentAt_put_of_ne (FilePath.log_ne_journal nonempty).symm

/-- If there is no log, removing the file that would hold it leaves the files of the database alike.
-/
theorem Alike.remove_log (nonempty : path ≠ []) (absent : workspace.log? path = none) :
    Alike path workspace (workspace.remove path.log) where
  home_eq := rfl
  file_eq := contentAt_remove_of_ne (FilePath.ne_log nonempty)
  log_eq := by
    rw [absent, log?, contentAt_remove_self]
    rfl
  journal_eq := contentAt_remove_of_ne (FilePath.log_ne_journal nonempty).symm

/-- A log that is there is found, if the database is. -/
theorem log?_eq_none_of_present? (plain : path.IsPlain) (nonempty : path ≠ [])
    (nameable : workspace.log? path ≠ none → path.log.IsNameable)
    (reachable : workspace.log? path ≠ none → ∃ place, workspace.reach path = .ok place)
    (not_found : workspace.present? path.log = none) : workspace.log? path = none := by
  by_contra logged
  obtain ⟨place, reached⟩ := reachable logged
  cases there : workspace.content? path.log with
  | none =>
    rw [log?, contentAt, there] at logged
    exact logged rfl
  | some content =>
    have found := reach_beside plain nonempty reached (by decide +kernel) (nameable logged) there
    have not_empty : content ≠ .plain [] := by
      rintro rfl
      rw [log?, contentAt, there] at logged
      exact logged rfl
    rw [present?, FilePath.log, found] at not_found
    simp only [if_neg not_empty] at not_found
    cases not_found

/-- A log that is there goes on. -/
theorem isSome_logToExtend? {log : ChangeLog} (log_eq : workspace.log? path = some log) :
    (workspace.logToExtend? path).isSome = true := by
  rw [logToExtend?, log_eq]
  rfl

/-- The file of a database that has no log is written anew. -/
theorem Keeps.renewFile (keeps : workspace.Keeps home path ledger) (nonempty : path ≠ [])
    (no_log : workspace.log? path = none) {content : FileContent} {ledger' : Ledger}
    (filed : Filed content none ledger') :
    ((workspace.put path content).remove path.journal).Keeps home path ledger' ∧
      ((workspace.put path content).remove path.journal).contentAt path = content ∧
      ((workspace.put path content).remove path.journal).log? path = none := by
  have file_eq : ((workspace.put path content).remove path.journal).contentAt path = content := by
    rw [contentAt_remove_of_ne (FilePath.ne_journal nonempty), contentAt_put_self]
  have log_eq : ((workspace.put path content).remove path.journal).log? path = none := by
    rw [log?, contentAt_remove_of_ne (FilePath.log_ne_journal nonempty),
      contentAt_put_of_ne (FilePath.ne_log nonempty).symm, ← log?, no_log]
  refine ⟨⟨keeps.home_eq, ?_, contentAt_remove_self, ?_⟩, file_eq, log_eq⟩
  · rw [file_eq, log_eq]
    exact filed
  · intro logged
    exact absurd log_eq logged

/-- The log of a database is written anew. -/
theorem Keeps.renewLog (keeps : workspace.Keeps home path ledger) (nonempty : path ≠ [])
    (nameable : path.log.IsNameable) {log : ChangeLog} {ledger' : Ledger}
    (filed : Filed (workspace.contentAt path) (some log) ledger') :
    (workspace.put path.log (.log log)).Keeps home path ledger' ∧
      (workspace.put path.log (.log log)).contentAt path = workspace.contentAt path ∧
      (workspace.put path.log (.log log)).log? path = some log := by
  have file_eq : (workspace.put path.log (.log log)).contentAt path = workspace.contentAt path :=
    contentAt_put_of_ne (FilePath.ne_log nonempty)
  have log_eq : (workspace.put path.log (.log log)).log? path = some log := by
    rw [log?, contentAt_put_self]
    rfl
  refine ⟨⟨keeps.home_eq, ?_, ?_, fun _ => nameable⟩, file_eq, log_eq⟩
  · rw [file_eq, log_eq]
    exact filed
  · rw [contentAt_put_of_ne (FilePath.log_ne_journal nonempty).symm]
    exact keeps.no_journal

end Workspace

end DutyRoster
