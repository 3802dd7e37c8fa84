import DutyRoster.Proofs.Session.Run
import DutyRoster.Proofs.Workspace.Prepare

/-!
# What has been changed is kept

A run changes a ledger in one step or, if it registers staff, in one step for each member. The last
of these steps leads to the ledger that the run ends with (`Ledger.exists_last_change`), whether
they are recorded in the log or in the file (`Workspace.Keeps.record`). Bringing the log into the
file loses nothing (`Workspace.Keeps.settle`).
-/

set_option autoImplicit false

namespace DutyRoster

section Changes

namespace Ledger

variable {before after : Ledger}

/-- The last of several changes of the staff leaves all of it. -/
theorem exists_last_staffChange (before : Ledger) (extent : StaffExtent) {rows : List EmployeeRow}
    (nonempty : rows ≠ []) : ∃ last, (before.staffChanges extent rows).getLast? = some last ∧
      last.ledger = before.withStaff rows := by
  induction rows generalizing before extent with
  | nil => exact absurd rfl nonempty
  | cons row rest ih =>
    cases rest with
    | nil => exact ⟨_, rfl, rfl⟩
    | cons next others =>
      obtain ⟨last, is_last, eq⟩ := ih (before.withStaff [row]) (extent.add row)
        (List.cons_ne_nil next others)
      refine ⟨last, ?_, ?_⟩
      · change (_ :: (before.withStaff [row]).staffChanges _ _).getLast? = _
        rw [List.getLast?_cons, is_last, Option.getD_some]
      · rw [eq]
        simp [withStaff, Nat.add_assoc, Nat.add_comm 1]

/-- Changes of the staff leave the slots as they are. -/
theorem slots_of_staffChanges (before : Ledger) (extent : StaffExtent) (rows : List EmployeeRow) :
    ∀ change ∈ before.staffChanges extent rows, change.ledger.slots = before.slots := by
  induction rows generalizing before extent with
  | nil => exact nofun
  | cons row rest ih =>
    rw [staffChanges, List.forall_mem_cons]
    exact ⟨rfl, ih (before.withStaff [row]) _⟩

/-- The changes that lead to a ledger end in it, if only the staff has grown or has stayed as it
is. -/
theorem exists_last_change (ne : before ≠ after)
    (change : after.employees = before.employees ∨ ∃ rows, after = before.withStaff rows) :
    (∃ last, (before.changesTo after).getLast? = some last ∧ last.ledger = after) ∧
      ∀ change ∈ before.changesTo after, change.ledger.slots = after.slots := by
  rw [changesTo, if_neg ne]
  rcases change with same | ⟨rows, rfl⟩
  · rw [same, List.drop_length]
    exact ⟨⟨_, rfl, rfl⟩, by simp⟩
  · have added : (before.withStaff rows).employees.drop before.employees.length = rows :=
      List.drop_left
    rw [added]
    cases rows with
    | nil => exact absurd (by simp [withStaff]) ne
    | cons row rest =>
      exact ⟨before.exists_last_staffChange _ (List.cons_ne_nil row rest),
        before.slots_of_staffChanges _ _⟩

end Ledger

end Changes

section Recording

namespace Recording

variable {recording : Recording} {changes : Nat}

/-- As long as nothing has been brought into the file, the log goes on as it was begun. -/
structure GoesOn (complete : Bool) (recording : Recording) : Prop where
  begun : recording.settled = none → recording.renews = false ∧ recording.log.complete = complete

/-- After a change the log ends in what the change led to. -/
theorem add_ledger (change : RecordedChange) :
    (recording.add changes change).log.image.ledger = change.ledger := by
  unfold add
  dsimp only
  split_ifs <;> rfl

/-- A log goes on as it was begun after another change. -/
theorem GoesOn.add {complete : Bool} (goes_on : recording.GoesOn complete)
    (change : RecordedChange) : (recording.add changes change).GoesOn complete where
  begun := by
    unfold Recording.add
    extract_lets before image log
    split
    · exact nofun
    · intro unsettled
      obtain ⟨not_renewed, same⟩ := goes_on.begun unsettled
      refine ⟨rfl, ?_⟩
      simp only [log, not_renewed, Bool.false_eq_true, if_false]
      exact same

/-- After all changes the log ends in the last one. -/
theorem foldl_add (changes : Nat) {complete : Bool} (goes_on : recording.GoesOn complete)
    {recorded : List RecordedChange} {last : RecordedChange}
    (is_last : recorded.getLast? = some last) :
    (recorded.foldl (add changes) recording).GoesOn complete ∧
      (recorded.foldl (add changes) recording).log.image.ledger = last.ledger := by
  obtain ⟨others, rfl⟩ := List.getLast?_eq_some_iff.mp is_last
  rw [List.foldl_append]
  refine ⟨GoesOn.add ?_ last, add_ledger last⟩
  clear is_last
  induction others generalizing recording with
  | nil => exact goes_on
  | cons change rest ih => exact ih (goes_on.add change)

/-- What has been brought into the file by the end of a change was there before, or is what the
change led to. -/
theorem settled_add {change : RecordedChange} {image : DatabaseImage}
    (settled : (recording.add changes change).settled = some image) :
    recording.settled = some image ∨ image.ledger = change.ledger := by
  unfold add at settled
  extract_lets before changed log at settled
  split at settled
  · exact .inr (by rw [← Option.some.inj settled])
  · exact .inl settled

/-- What has been brought into the file on the way is what one of the changes led to. -/
theorem settled_foldl_add {recorded : List RecordedChange} {image : DatabaseImage}
    (settled : (recorded.foldl (add changes) recording).settled = some image) :
    recording.settled = some image ∨ ∃ change ∈ recorded, image.ledger = change.ledger := by
  induction recorded generalizing recording with
  | nil => exact .inl settled
  | cons change rest ih =>
    rcases ih settled with added | ⟨later, mem, eq⟩
    · exact (settled_add added).imp_right fun eq => ⟨change, List.mem_cons_self, eq⟩
    · exact .inr ⟨later, List.mem_cons_of_mem change mem, eq⟩

end Recording

end Recording

section Files

namespace Workspace

variable {workspace : Workspace} {home path : FilePath} {ledger : Ledger}
  {recorded : List RecordedChange} {last : RecordedChange}

/-- A log that is gone on with goes with a database in its file, or holds all of it. -/
theorem Keeps.of_logToExtend? (keeps : workspace.Keeps home path ledger) {log : ChangeLog}
    (found : workspace.logToExtend? path = some log) :
    (∃ image, workspace.contentAt path = .database image ∧ image.ledger.slots ⊆ ledger.slots) ∨
      workspace.contentAt path = .plain blankPage ∧ log.complete = true := by
  have filed := keeps.filed
  unfold logToExtend? at found
  generalize workspace.contentAt path = content at filed found ⊢
  generalize workspace.log? path = kept at filed found
  cases filed with
  | nothing => cases found
  | blank => cases found
  | inFile image => exact .inl ⟨image, rfl, fun _ => id⟩
  | inLog image log older => exact .inl ⟨image, rfl, older⟩
  | inLogAlone log complete =>
    cases found
    exact .inr ⟨rfl, complete⟩

/-- The file of a database that has a log is written anew. -/
theorem Keeps.put_file (nonempty : path ≠ []) (keeps : workspace.Keeps home path ledger)
    (nameable : path.log.IsNameable) {log : ChangeLog} {image : DatabaseImage}
    (older : image.ledger.slots ⊆ log.image.ledger.slots) :
    ((workspace.put path.log (.log log)).put path (.database image)).Keeps home path
      log.image.ledger := by
  have log_eq : ((workspace.put path.log (.log log)).put path (.database image)).log? path =
      some log := by
    rw [log?, contentAt_put_of_ne (FilePath.ne_log nonempty).symm, contentAt_put_self]
    rfl
  refine ⟨keeps.home_eq, ?_, ?_, fun _ => nameable⟩
  · rw [contentAt_put_self, log_eq]
    exact .inLog image log older
  · rw [contentAt_put_of_ne (FilePath.ne_journal nonempty).symm,
      contentAt_put_of_ne (FilePath.log_ne_journal nonempty).symm]
    exact keeps.no_journal

/-- Changes that go to the log are kept, also if the log is brought into the file on the way. -/
theorem Keeps.recordInLog (nonempty : path ≠ []) (keeps : workspace.Keeps home path ledger)
    (extended : (workspace.logToExtend? path).isSome = true) (nameable : path.log.IsNameable)
    (is_last : recorded.getLast? = some last) (grown : ledger.slots ⊆ last.ledger.slots)
    (older : ∀ change ∈ recorded, change.ledger.slots = last.ledger.slots) (changes : Nat) :
    (workspace.recordInLog path changes recorded).Keeps home path last.ledger := by
  obtain ⟨log, found⟩ := Option.isSome_iff_exists.mp extended
  have begun : Recording.GoesOn log.complete { log } := ⟨fun _ => ⟨rfl, rfl⟩⟩
  obtain ⟨goes_on, ends⟩ := Recording.foldl_add changes begun is_last
  have brought {image : DatabaseImage}
      (settled : (recorded.foldl (Recording.add changes) { log }).settled = some image) :
      image.ledger.slots = last.ledger.slots := by
    rcases Recording.settled_foldl_add settled with at_first | ⟨change, mem, eq⟩
    · cases at_first
    · rw [eq, older change mem]
  rw [Workspace.recordInLog, found]
  dsimp only
  generalize recorded.foldl (Recording.add changes) { log } = recording at goes_on ends brought
  rw [← ends] at grown ⊢
  cases settled : recording.settled with
  | some image =>
    have older : image.ledger.slots ⊆ recording.log.image.ledger.slots := by
      rw [brought settled, ends]
      exact fun _ => id
    exact keeps.put_file nonempty nameable older
  | none =>
    have filed : Filed (workspace.contentAt path) (some recording.log)
        recording.log.image.ledger := by
      rcases keeps.of_logToExtend? found with
          ⟨image, file_eq, older⟩ | ⟨file_eq, complete⟩ <;>
        rw [file_eq]
      · exact .inLog image recording.log (List.Subset.trans older grown)
      · exact .inLogAlone recording.log ((goes_on.begun settled).2.trans complete)
    exact (keeps.renewLog nonempty nameable filed).1

/-- Changes that go to the file are kept. -/
theorem Keeps.recordInFile (nonempty : path ≠ []) (keeps : workspace.Keeps home path ledger)
    {image : DatabaseImage} (file_eq : workspace.contentAt path = .database image)
    (no_log : workspace.log? path = none) (is_last : recorded.getLast? = some last) :
    (workspace.recordInFile path recorded).Keeps home path last.ledger := by
  rw [Workspace.recordInFile, file_eq, is_last]
  exact (keeps.renewFile nonempty no_log (.inFile _)).1

/-- A change of a database without a file is not recorded. -/
theorem record_of_no_file {connection : Connection} (no_file : connection.path = none)
    (use : DatabaseUse) (before after : Ledger) :
    workspace.record connection use before after = workspace := by
  rw [record, no_file]

/-- Nothing is recorded of a ledger that has not changed. -/
theorem record_of_same (connection : Connection) (use : DatabaseUse) (ledger : Ledger) :
    workspace.record connection use ledger ledger = workspace := by
  rw [record, Ledger.changesTo, if_pos rfl]
  cases connection.path <;> rfl

/-- A ledger that has been changed is kept, if only the staff has grown or has stayed as it is. -/
theorem Keeps.record (nonempty : path ≠ []) {use : DatabaseUse} {before after : Ledger}
    (keeps : workspace.Keeps home path before) (records : Preparation.Records path (use, workspace))
    (change : after.employees = before.employees ∨ ∃ rows, after = before.withStaff rows)
    (grown : before.slots ⊆ after.slots) {connection : Connection}
    (at_path : connection.path = some path) :
    (workspace.record connection use before after).Keeps home path after := by
  by_cases same : before = after
  · rw [same, record_of_same]
    exact same ▸ keeps
  · obtain ⟨⟨last, is_last, rfl⟩, older⟩ := Ledger.exists_last_change same change
    unfold Workspace.record
    rw [at_path]
    generalize before.changesTo last.ledger = recorded at is_last older
    cases recorded with
    | nil => cases is_last
    | cons first rest =>
      dsimp only
      split
      · rename_i logging
        obtain ⟨extended, nameable⟩ := records.in_log logging
        exact keeps.recordInLog nonempty extended nameable is_last grown older use.changes
      · rename_i closed
        obtain ⟨⟨image, file_eq⟩, no_log⟩ := records.in_file (by simpa using closed)
        exact keeps.recordInFile nonempty file_eq no_log is_last

/-- The log of a database is brought into its file and taken away. -/
theorem Keeps.settleFile (nonempty : path ≠ []) (keeps : workspace.Keeps home path ledger) :
    ((workspace.settleFile path).remove path.log).Keeps home path ledger := by
  have brought (image : DatabaseImage) :
      ((workspace.put path (.database image)).remove path.log).Keeps home path image.ledger := by
    have log_eq : ((workspace.put path (.database image)).remove path.log).log? path = none := by
      rw [log?, contentAt_remove_self]
      rfl
    refine ⟨keeps.home_eq, ?_, ?_, fun logged => absurd log_eq logged⟩
    · rw [contentAt_remove_of_ne (FilePath.ne_log nonempty), contentAt_put_self, log_eq]
      exact .inFile image
    · rw [contentAt_remove_of_ne (FilePath.log_ne_journal nonempty).symm,
        contentAt_put_of_ne (FilePath.ne_journal nonempty).symm]
      exact keeps.no_journal
  have filed := keeps.filed
  unfold Workspace.settleFile
  cases log_eq : workspace.log? path with
  | none => exact (Alike.remove_log nonempty log_eq).keeps keeps
  | some log =>
    rw [log_eq] at filed
    cases content_eq : workspace.contentAt path with
    | database image =>
      rw [content_eq] at filed
      cases filed
      exact brought log.image
    | plain octets =>
      rw [content_eq] at filed
      -- a log beside a file without tables has to be complete, since there is nothing else
      have complete : log.complete = true ∧ ledger = log.image.ledger := by
        cases filed with
        | inLogAlone _ complete => exact ⟨complete, rfl⟩
      dsimp only
      rw [if_pos complete.1, complete.2]
      exact brought log.image
    | _ =>
      rw [content_eq] at filed
      cases filed

/-- Bringing the log into the file and taking it away changes nothing that is kept. -/
theorem Keeps.settle (keeps : workspace.Keeps home path ledger) (connection : Connection)
    (at_path : ∀ other, connection.path = some other → other = path ∧ path ≠ [])
    (use : DatabaseUse) : (workspace.settle connection use).Keeps home path ledger := by
  unfold Workspace.settle
  cases found : connection.path with
  | none => exact keeps
  | some other =>
    obtain ⟨rfl, nonempty⟩ := at_path other found
    dsimp only
    split
    · split
      · exact keeps.settleFile nonempty
      · exact (Alike.remove (FilePath.ne_index nonempty) (FilePath.log_ne_index nonempty)
          (FilePath.journal_ne_index nonempty)).keeps (keeps.settleFile nonempty)
    · exact keeps

end Workspace

end Files

end DutyRoster
