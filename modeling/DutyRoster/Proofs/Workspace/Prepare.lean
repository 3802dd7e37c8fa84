import DutyRoster.Proofs.Workspace.Ensures

/-!
# Getting a database ready changes nothing that it holds

A database is made ready for use according to what its files hold: it is made out of nothing, or its
tables are added, or the ledger is taken from it. Either way its files hold afterwards what they
held before, also if it fails (`Preparation.ensures_prepare`), and the ledger that has been read is
that, unless it was read from the file alone.
-/

set_option autoImplicit false

namespace DutyRoster

namespace Preparation

section Tables

variable {home path : FilePath} {ledger : Ledger} {before : DatabaseUse × Workspace}

/-- The place of a change is known: at the end of the log that is open, or in the file if there is
no log. -/
structure Records (path : FilePath) (state : DatabaseUse × Workspace) : Prop where
  in_log : state.1.logging = true →
    (state.2.logToExtend? path).isSome = true ∧ path.log.IsNameable
  in_file : state.1.logging = false →
    (∃ image, state.2.contentAt path = .database image) ∧ state.2.log? path = none

/-- What it means that a database is ready for use: its files hold what they held before, the ledger
that has been read is what they hold unless that was read from the file alone, and changes find
their place if they are allowed. -/
structure Ready (home path : FilePath) (ledger : Ledger) (database : DatabaseName)
    (answer : Ledger) (state : DatabaseUse × Workspace) : Prop where
  database_eq : state.1.database = database
  keeps : state.2.Keeps home path ledger
  answer_eq : database.frozen = false → answer = ledger
  older : answer.slots ⊆ ledger.slots
  records : database.isWritable = true →
    ¬ (state.1.logging = true ∧ state.1.indexReadOnly = true) → Records path state

/-- A log is begun for a file that is written anew. If that succeeds the log is open; either way the
files of the database are like those that have been written. -/
theorem ensures_beginLog (plain : path.IsPlain) (nonempty : path ≠ []) {content : FileContent} :
    (beginLog path content).Ensures before
      (fun _ after => after.1.database = before.1.database ∧ after.1.logging = true ∧
        ((before.2.put path content).remove path.journal).Alike path after.2 ∧
        path.log.IsNameable)
      fun after => ((before.2.put path content).remove path.journal).Alike path after.2 := by
  simp only [beginLog, ensures_bind, ensures_put, ensures_remove]
  exact ensures_openLog plain nonempty

/-- The tables are made in the log of a database without any, or else in its file. -/
theorem ensures_makeTables (nonempty : path ≠ []) (keeps : before.2.Keeps home path {})
    (no_log : before.2.log? path = none)
    (logging : before.1.logging = true →
      before.2.contentAt path = .plain blankPage ∧ path.log.IsNameable)
    (changes : Nat) (logged : Bool) : (makeTables path changes logged).Ensures before
      (Ready home path {} before.1.database) fun after => after.2.Keeps home path {} := by
  simp only [makeTables, canJournal, ensures_bind, ensures_use, ensures_workspace, ensures_ite,
    ensures_throw, ensures_put, ensures_remove, ensures_pure]
  refine ⟨fun _ => keeps, fun _ =>
    ⟨fun logging' => ?_, fun closed => ⟨fun _ => ?_, fun _ => keeps⟩⟩⟩
  · obtain ⟨blank, nameable⟩ := logging logging'
    have filed : Filed (before.2.contentAt path)
        (some ⟨⟨{}, logged, changes + 1⟩, Ledger.pagesTouchedAtFirst, true⟩) {} := by
      rw [blank]
      exact .inLogAlone _ rfl
    obtain ⟨keeps', -, log_eq⟩ := keeps.renewLog nonempty nameable filed
    have extended := Workspace.isSome_logToExtend? log_eq
    exact ⟨rfl, keeps', fun _ => rfl, fun _ => id, fun _ _ => ⟨fun _ => ⟨extended, nameable⟩,
      fun closed => absurd logging' (by rw [closed]; exact Bool.false_ne_true)⟩⟩
  · obtain ⟨keeps', file_eq, log_eq⟩ :=
      keeps.renewFile nonempty no_log (.inFile ⟨{}, false, changes + 4⟩)
    exact ⟨rfl, keeps', fun _ => rfl, fun _ => id, fun _ _ =>
      ⟨fun logging' => absurd logging' closed, fun _ => ⟨⟨_, file_eq⟩, log_eq⟩⟩⟩

/-- A database is made out of nothing. -/
theorem ensures_found (plain : path.IsPlain) (nonempty : path ≠ [])
    (keeps : before.2.Keeps home path {}) (no_log : before.2.log? path = none)
    (closed : before.1.logging = false) : (found path).Ensures before
      (Ready home path {} before.1.database) fun after => after.2.Keeps home path {} := by
  simp only [found, canBeginLog, canJournal, ensures_bind, ensures_use, ensures_workspace,
    ensures_ite, ensures_throw, ensures_pure]
  refine ⟨fun _ => keeps, fun _ => ⟨fun _ => ?_, fun _ => ?_⟩⟩
  · obtain ⟨begun, file_eq, log_eq⟩ := keeps.renewFile nonempty no_log .blank
    refine (ensures_beginLog plain nonempty).imp ?_ fun after alike => alike.keeps begun
    rintro _ after ⟨database, -, alike, nameable⟩
    rw [← database]
    exact ensures_makeTables nonempty (alike.keeps begun) (alike.log_eq.trans log_eq)
      (fun _ => ⟨alike.file_eq.trans file_eq, nameable⟩) 1 true
  · refine ensures_makeTables nonempty keeps no_log (fun logging => ?_) 0 false
    rw [closed] at logging
    cases logging

section BlankPage

open DatabasePage

/-- The numbers in the page that the program writes, which is the only one of its file. -/
theorem blankPage_numbers : (BlankPage.mk blankPage).pageSize = 4096 ∧
    (BlankPage.mk blankPage).usableSize = 4096 ∧ (BlankPage.mk blankPage).pages = 1 ∧
    (BlankPage.mk blankPage).lastRoot = 0 ∧ numberAt blankPage 36 4 = 0 ∧
    numberAt blankPage 101 2 = 0 ∧
    octetAt blankPage 107 + (numberAt blankPage 105 2 + 65535) % 65536 + 1 = 4096 := by
  decide +kernel

/-- The page that the program writes is of the usual size. -/
theorem length_blankPage : blankPage.length = 4096 := by
  have size :
      (PageHeader.octets ⟨true, 1, 1, false⟩ ++ [13, 0, 0, 0, 0, 16, 0, 0]).length = 108 := by
    decide +kernel
  rw [blankPage, padded, List.length_append, List.length_replicate, size, DatabasePage.size]

/-- Nothing is found to be wrong with the page that the program writes. -/
theorem fault?_blankPage : (BlankPage.mk blankPage).fault? = none := by
  obtain ⟨page_size, usable, pages, -⟩ := blankPage_numbers
  have pages_there : (BlankPage.mk blankPage).pagesThere = 1 := by
    rw [BlankPage.pagesThere, page_size, length_blankPage]
  have format : ¬ ((blankPage.drop 21).take 3 ≠ [64, 32, 32]) := by decide +kernel
  have page_size_known : 4096 ∈ BlankPage.pageSizes := by decide
  rw [BlankPage.fault?, page_size, pages_there, pages, usable,
    if_neg (by simp [format, page_size_known]),
    if_neg (by decide), if_neg (by decide), if_neg (by decide +kernel), if_neg (by decide +kernel)]

/-- Tables can be added to the page that the program writes. -/
theorem isSound_blankPage : (BlankPage.mk blankPage).isSound = true := by
  obtain ⟨-, usable, -, no_root, no_free, no_free_block, room⟩ := blankPage_numbers
  unfold BlankPage.isSound
  dsimp only
  rw [no_root, no_free, no_free_block, room, usable]
  decide

/-- The page that the program writes says that there is a log. -/
theorem isLogged_blankPage : (BlankPage.mk blankPage).isLogged = true := by
  decide +kernel

/-- The page that the program writes is read as such. -/
theorem read?_blankPage : BlankPage.read? blankPage = some (BlankPage.mk blankPage) :=
  if_pos (by decide +kernel)

/-- A file with the page that the program writes is blank: it has no tables. -/
theorem holding_blankPage : (FileContent.plain blankPage).holding = .ok (.blank ⟨blankPage⟩) := by
  have size := length_blankPage
  have read := read?_blankPage
  generalize blankPage = octets at size read
  match octets, size with
  | first :: second :: rest, _ => simp only [FileContent.holding, read]

end BlankPage

/-- How the tables are added to a database once its log is open if it is to have one. -/
def addTables (path : FilePath) (page : BlankPage) : Preparation Ledger := do
  match page.fault? with
  | some fault => throw fault
  | none => pure ()
  if !page.isWritable ∨ !(← use).database.isWritable then throw .readOnly
  let page ←
    if page.allowsNewHeader ∧ (← canBeginLog path) then
      let page := page.turnedToLog
      beginLog path (.plain page.octets)
      pure page
    else pure page
  if !(← use).logging ∧ !(← canJournal path) then throw .noRoom
  if (← use).logging ∧ (← use).indexReadOnly then throw .readOnly
  if page.isSound then makeTables path page.changes page.isLogged
  else
    unless (← use).logging do remove path.journal
    throw .malformed

/-- A database is completed in two steps: its log is opened if there is to be one, and the tables
are added. -/
theorem complete_eq (path : FilePath) (page : BlankPage) : complete path page = (do
    if page.isLogged ∧ !(← use).logging ∧ !(← use).database.frozen then openLog path
    addTables path page) :=
  rfl

section Completion

variable {page : BlankPage}

/-- The tables are added to the page that the program writes, in the log that is open. -/
theorem ensures_addTables (own : page = ⟨blankPage⟩) (nonempty : path ≠ [])
    (keeps : before.2.Keeps home path {}) (blank : before.2.contentAt path = .plain blankPage)
    (no_log : before.2.log? path = none) (logging : before.1.logging = true)
    (nameable : path.log.IsNameable) : (addTables path page).Ensures before
      (Ready home path {} before.1.database) fun after => after.2.Keeps home path {} := by
  have no_fault : page.fault? = none := own ▸ fault?_blankPage
  have sound : page.isSound = true := own ▸ isSound_blankPage
  simp only [addTables, canBeginLog, canJournal, no_fault, sound, logging, ensures_bind,
    ensures_use, ensures_workspace, ensures_ite, ensures_throw, ensures_pure]
  refine ⟨fun _ => keeps, fun _ => ⟨fun begins => ?_, fun _ => ⟨fun _ => keeps, fun _ =>
    ⟨fun _ => keeps, fun _ => ⟨fun _ => ?_, fun unsound => absurd trivial unsound⟩⟩⟩⟩⟩
  · simp at begins
  · exact ensures_makeTables nonempty keeps no_log (fun _ => ⟨blank, nameable⟩) _ _

/-- No tables are added to a database that cannot be written, and nothing changes. -/
theorem ensures_addTables_of_not_writable (own : page = ⟨blankPage⟩)
    (read_only : before.1.database.isWritable = false) :
    (addTables path page).Ensures before (fun _ _ => False) fun after => after = before := by
  have no_fault : page.fault? = none := own ▸ fault?_blankPage
  simp only [addTables, no_fault, read_only, ensures_bind, ensures_use, ensures_ite, ensures_throw]
  exact ⟨fun _ => trivial, fun writable => absurd (.inr rfl) writable⟩

/-- A database without tables gets them, or is left as it is. -/
theorem ensures_complete (own : page = ⟨blankPage⟩) (plain : path.IsPlain) (nonempty : path ≠ [])
    (keeps : before.2.Keeps home path ledger)
    (frozen : before.1.database.frozen = true → before.1.database.isWritable = false)
    (blank : before.2.contentAt path = .plain blankPage)
    (no_log : before.1.database.frozen = false → before.2.log? path = none)
    (nameable : before.1.logging = true → path.log.IsNameable) :
    (complete path page).Ensures before
      (Ready home path ledger before.1.database) fun after => after.2.Keeps home path ledger := by
  have logged : page.isLogged = true := own ▸ isLogged_blankPage
  rw [complete_eq]
  simp only [ensures_bind, ensures_use, ensures_ite]
  cases is_frozen : before.1.database.frozen with
  | true =>
    refine ⟨fun opens => absurd opens.2.2 Bool.false_ne_true, fun _ => ?_⟩
    exact (ensures_addTables_of_not_writable own (frozen is_frozen)).imp (fun _ _ => False.elim)
      fun _ same => same ▸ keeps
  | false =>
    have no_log := no_log is_frozen
    have empty : ledger = {} := by
      have filed := keeps.filed
      rw [blank, no_log] at filed
      exact filed.eq_empty
    rw [empty] at keeps ⊢
    refine ⟨fun _ => ?_, fun opened => ?_⟩
    · refine (ensures_openLog plain nonempty).imp ?_ fun _ alike => alike.keeps keeps
      rintro _ after ⟨database, logging, alike, nameable⟩
      rw [← database]
      exact ensures_addTables own nonempty (alike.keeps keeps) (alike.file_eq.trans blank)
        (alike.log_eq.trans no_log) logging nameable
    · have logging : before.1.logging = true := by
        by_contra closed
        exact opened ⟨logged, by simpa using closed, rfl⟩
      exact ensures_addTables own nonempty keeps blank no_log logging (nameable logging)

end Completion

/-- The ledger of a database that has its tables is taken, and a log is opened for it if there has
to be one. -/
theorem ensures_take (plain : path.IsPlain) (nonempty : path ≠ [])
    (keeps : before.2.Keeps home path ledger) {image : DatabaseImage}
    (frozen : before.1.database.frozen = true → before.1.database.isWritable = false)
    (answer : before.1.database.frozen = false → image.ledger = ledger)
    (older : image.ledger.slots ⊆ ledger.slots)
    (in_file : before.1.database.frozen = false → before.1.logging = false →
      before.2.contentAt path = .database image ∧ before.2.log? path = none)
    (in_log : before.1.logging = true →
      (before.2.logToExtend? path).isSome = true ∧ path.log.IsNameable) :
    (take path image).Ensures before (Ready home path ledger before.1.database)
      fun after => after.2.Keeps home path ledger := by
  simp only [take, canBeginLog, canJournal, ensures_bind, ensures_use, ensures_workspace,
    ensures_ite, ensures_pure, ensures_note]
  -- a log that is begun goes on from the file
  have ready_of_log {after : DatabaseUse × Workspace} {image' : DatabaseImage}
      (database : after.1.database = before.1.database)
      (keeps' : after.2.Keeps home path ledger) (unfrozen : before.1.database.frozen = false)
      (logging : after.1.logging = true) (file_eq : after.2.contentAt path = .database image')
      (no_log : after.2.log? path = none) (nameable : path.log.IsNameable) :
      Ready home path ledger before.1.database image.ledger
        ({ after.1 with changes := image.changes }, after.2) := by
    refine ⟨database, keeps', answer, older, fun _ _ => ⟨fun _ => ⟨?_, nameable⟩, fun closed => ?_⟩⟩
    · rw [Workspace.logToExtend?, no_log, file_eq]
      rfl
    · rw [show after.1.logging = false from closed] at logging
      cases logging
  have unchanged : Ready home path ledger before.1.database image.ledger
      ({ before.1 with changes := image.changes }, before.2) := by
    refine ⟨rfl, keeps, answer, older, fun writable _ => ⟨in_log, fun closed => ?_⟩⟩
    have unfrozen : before.1.database.frozen = false := by
      by_contra is_frozen
      rw [frozen (by simpa using is_frozen)] at writable
      cases writable
    obtain ⟨file_eq, no_log⟩ := in_file unfrozen closed
    exact ⟨⟨image, file_eq⟩, no_log⟩
  refine ⟨fun _ => ⟨fun _ => unchanged, fun opens => ?_⟩,
    fun _ => ⟨fun begins => ?_, fun _ => unchanged⟩⟩
  · rw [not_or, Bool.not_eq_true, Bool.not_eq_true] at opens
    obtain ⟨file_eq, no_log⟩ := in_file opens.2 opens.1
    refine (ensures_openLog plain nonempty).imp ?_ fun _ alike => alike.keeps keeps
    rintro _ after ⟨database, logging, alike, nameable⟩
    exact ready_of_log database (alike.keeps keeps) opens.2 logging (alike.file_eq.trans file_eq)
      (alike.log_eq.trans no_log) nameable
  · rw [decide_eq_true_eq, Bool.not_eq_true'] at begins
    have unfrozen : before.1.database.frozen = false := by
      by_contra is_frozen
      have read_only := frozen (by simpa using is_frozen)
      rw [read_only] at begins
      cases begins.2.1
    obtain ⟨-, no_log⟩ := in_file unfrozen begins.1
    have filed : Filed (.database { image with logged := true, changes := image.changes + 1 }) none
        ledger := answer unfrozen ▸ .inFile _
    obtain ⟨begun, file_eq, log_eq⟩ := keeps.renewFile nonempty no_log filed
    refine (ensures_beginLog plain nonempty).imp ?_ fun _ alike => alike.keeps begun
    rintro _ after ⟨database, logging, alike, nameable⟩
    exact ready_of_log database (alike.keeps begun) unfrozen logging
      (alike.file_eq.trans file_eq) (alike.log_eq.trans log_eq) nameable

end Tables

section Whole

variable {home path : FilePath} {ledger : Ledger} {before : DatabaseUse × Workspace}

/-- What is known once the log has been opened if it was found: it can be written, and the file has
pages; or there is none. A frozen database has no log that matters. -/
structure Opened (path : FilePath) (state : DatabaseUse × Workspace) : Prop where
  open_log : state.1.logging = true → state.1.database.frozen = false ∧ path.log.IsNameable ∧
    state.2.contentAt path ≠ .plain []
  no_log : state.1.logging = false → state.1.database.frozen = false → state.2.log? path = none

/-- The database is made ready according to what it holds. -/
theorem ensures_answer (plain : path.IsPlain) (nonempty : path ≠ [])
    (keeps : before.2.Keeps home path ledger) (opened : Opened path before)
    (frozen : before.1.database.frozen = true → before.1.database.isWritable = false)
    {holding : Holding} (held : before.2.holding path before.1.logging = .ok holding) :
    (match holding with
      | .nothing => found path
      | .blank page => complete path page
      | .tables image => take path image).Ensures before (Ready home path ledger before.1.database)
        fun after => after.2.Keeps home path ledger := by
  have filed := keeps.filed
  unfold Workspace.holding at held
  generalize content_eq : before.2.contentAt path = content at filed held
  generalize log_eq : before.2.log? path = log at filed held
  have nameable (logging : before.1.logging = true) := (opened.open_log logging).2.1
  -- a log that is there and not open belongs to a database that is taken from its file
  have frozen_of_log {log : ChangeLog} (eq : before.2.log? path = some log)
      (closed : before.1.logging = false) : before.1.database.frozen = true := by
    by_contra unfrozen
    rw [opened.no_log closed (by simpa using unfrozen)] at eq
    cases eq
  cases filed with
  | nothing =>
    have closed : before.1.logging = false := by
      by_contra logging
      exact (opened.open_log (by simpa using logging)).2.2 content_eq
    rw [ite_self] at held
    obtain rfl := Except.ok.inj held
    exact ensures_found plain nonempty keeps log_eq closed
  | blank =>
    rw [ite_self] at held
    dsimp only at held
    rw [holding_blankPage] at held
    obtain rfl := Except.ok.inj held
    exact ensures_complete rfl plain nonempty keeps frozen content_eq (fun _ => log_eq) nameable
  | inFile image =>
    rw [ite_self] at held
    obtain rfl := Except.ok.inj held
    refine ensures_take plain nonempty keeps frozen (fun _ => rfl) (fun _ => id)
      (fun _ _ => ⟨content_eq, log_eq⟩) fun logging => ⟨?_, nameable logging⟩
    rw [Workspace.logToExtend?, log_eq, content_eq]
    rfl
  | inLog image log older =>
    cases logging : before.1.logging with
    | true =>
      rw [logging] at held
      obtain rfl := Except.ok.inj held
      exact ensures_take plain nonempty keeps frozen (fun _ => rfl) (fun _ => id)
        (fun _ closed => absurd (logging.symm.trans closed) (by decide))
        fun logging => ⟨Workspace.isSome_logToExtend? log_eq, nameable logging⟩
    | false =>
      have is_frozen := frozen_of_log log_eq logging
      have contradictory {P : Prop} (unfrozen : before.1.database.frozen = false) : P :=
        absurd (is_frozen.symm.trans unfrozen) (by decide)
      rw [logging] at held
      obtain rfl := Except.ok.inj held
      exact ensures_take plain nonempty keeps frozen contradictory older
        (fun unfrozen => contradictory unfrozen)
        fun logging => ⟨Workspace.isSome_logToExtend? log_eq, nameable logging⟩
  | inLogAlone log complete =>
    cases logging : before.1.logging with
    | true =>
      rw [logging] at held
      dsimp only at held
      rw [if_pos rfl] at held
      dsimp only at held
      rw [if_pos complete] at held
      obtain rfl := Except.ok.inj held
      exact ensures_take plain nonempty keeps frozen (fun _ => rfl) (fun _ => id)
        (fun _ closed => absurd (logging.symm.trans closed) (by decide))
        fun logging => ⟨Workspace.isSome_logToExtend? log_eq, nameable logging⟩
    | false =>
      have is_frozen := frozen_of_log log_eq logging
      rw [logging] at held
      dsimp only at held
      rw [if_neg Bool.false_ne_true] at held
      dsimp only at held
      rw [holding_blankPage] at held
      obtain rfl := Except.ok.inj held
      exact ensures_complete rfl plain nonempty keeps frozen content_eq
        (fun unfrozen => absurd (is_frozen.symm.trans unfrozen) (by decide)) nameable

/-- How a database is made ready once its log has been looked for. -/
def proceed (path : FilePath) : Preparation Ledger := do
  let holding ← MonadExcept.ofExcept ((← workspace).holding path (← use).logging)
  let ledger ←
    match holding with
    | .nothing => found path
    | .blank page => complete path page
    | .tables image => take path image
  note fun use =>
    { use with changeable := use.database.isWritable && !(use.logging && use.indexReadOnly) }
  return ledger

/-- A database is made ready in two steps: its log is looked for unless it is to be left alone, and
what its files hold is put to use. -/
theorem prepare_eq (path : FilePath) : prepare path = (do
    unless (← use).database.frozen do
      awaitLock path
      useUpJournal path
      openFoundLog path
    proceed path) :=
  rfl

/-- A database that is ready for use, of which it is known whether it can be changed. -/
structure Prepared (home path : FilePath) (ledger : Ledger) (database : DatabaseName)
    (answer : Ledger) (state : DatabaseUse × Workspace) : Prop
    extends Ready home path ledger database answer state where
  changeable_eq : state.1.changeable =
    (database.isWritable && !(state.1.logging && state.1.indexReadOnly))

/-- A database that is ready for use is known to be changeable or not as soon as that has been
noted. -/
theorem Ready.prepared {database : DatabaseName} {answer : Ledger}
    {state : DatabaseUse × Workspace} (ready : Ready home path ledger database answer state) :
    Prepared home path ledger database answer
      ({ state.1 with changeable := state.1.database.isWritable &&
        !(state.1.logging && state.1.indexReadOnly) }, state.2) where
  database_eq := ready.database_eq
  keeps := ready.keeps
  answer_eq := ready.answer_eq
  older := ready.older
  records writable able :=
    have records := ready.records writable able
    ⟨records.in_log, records.in_file⟩
  changeable_eq := by rw [ready.database_eq]

/-- Once its log has been looked for, a database is made ready, or at least holds what it held
before. -/
theorem ensures_proceed (plain : path.IsPlain) (nonempty : path ≠ [])
    (keeps : before.2.Keeps home path ledger) (opened : Opened path before)
    (frozen : before.1.database.frozen = true → before.1.database.isWritable = false) :
    (proceed path).Ensures before (Prepared home path ledger before.1.database)
      fun after => after.2.Keeps home path ledger := by
  simp only [proceed, ensures_bind, ensures_use, ensures_workspace, ensures_ofExcept]
  refine ⟨fun holding held => ?_, fun _ _ => keeps⟩
  have answered := ensures_answer plain nonempty keeps opened frozen held
  cases holding with
  | nothing | blank page | tables image =>
    simp only [ensures_bind, ensures_note, ensures_pure]
    exact answered.imp (fun _ _ => Ready.prepared) fun _ => id

/-- Whatever comes of making a database ready, it holds what it held before. -/
theorem ensures_prepare (plain : path.IsPlain) (nonempty : path ≠ [])
    (keeps : before.2.Keeps home path ledger) (closed : before.1.logging = false)
    (reachable : before.2.log? path ≠ none → ∃ place, before.2.reach path = .ok place)
    (frozen : before.1.database.frozen = true → before.1.database.isWritable = false) :
    (prepare path).Ensures before (Prepared home path ledger before.1.database)
      fun after => after.2.Keeps home path ledger := by
  rw [prepare_eq]
  simp only [ensures_bind, ensures_use, ensures_ite]
  refine ⟨fun is_frozen => ?_, fun unfrozen => ?_⟩
  · refine ensures_proceed plain nonempty keeps ⟨fun logging => ?_, fun _ unfrozen => ?_⟩ frozen
    · rw [closed] at logging
      cases logging
    · rw [is_frozen] at unfrozen
      cases unfrozen
  · -- up to the log nothing changes
    refine ensures_awaitLock.imp ?_ fun _ same => same ▸ keeps
    rintro _ _ rfl
    refine (ensures_useUpJournal plain nonempty keeps.no_journal).imp ?_ fun _ same => same ▸ keeps
    rintro _ _ rfl
    refine (ensures_openFoundLog plain nonempty keeps closed reachable).imp ?_
      fun _ alike => alike.keeps keeps
    rintro _ after ⟨database, alike, no_log, open_log⟩
    have opened : Opened path after := by
      refine ⟨fun logging => ⟨?_, (open_log logging).1, ?_⟩, fun shut _ => ?_⟩
      · rw [database]
        simpa using unfrozen
      · rw [alike.file_eq]
        exact (open_log logging).2
      · rw [alike.log_eq]
        exact no_log shut
    rw [← database]
    exact ensures_proceed plain nonempty (alike.keeps keeps) opened (database ▸ frozen)

end Whole

end Preparation

end DutyRoster
