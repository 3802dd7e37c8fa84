import DutyRoster.Proofs.Workspace.Filed

/-!
# What the steps of getting ready lead to

`Preparation.Ensures` says of a step what is so after it if it succeeds and if it fails. Each way of
putting steps together has a rule, so that a step is taken apart by `simp only` with these rules.
Waiting for the lock, using up the journal and opening the log leave the files of a database alike,
whatever comes of them.
-/

set_option autoImplicit false

namespace DutyRoster

namespace Preparation

/-- What a step leads to: one condition on its answer and on what it leaves if it succeeds, and
another one on what it leaves if it fails. -/
def Ensures {α : Type} (step : Preparation α) (before : DatabaseUse × Workspace)
    (done : α → DatabaseUse × Workspace → Prop) (failed : DatabaseUse × Workspace → Prop) : Prop :=
  match step.run.run before with
  | (.ok a, after) => done a after
  | (.error _, after) => failed after

section Rules

variable {α β : Type} {before : DatabaseUse × Workspace}
  {done : α → DatabaseUse × Workspace → Prop} {failed : DatabaseUse × Workspace → Prop}

/-- An answer that is just given leads to what is so before it. -/
@[simp] theorem ensures_pure (a : α) :
    (pure a : Preparation α).Ensures before done failed ↔ done a before :=
  Iff.rfl

/-- Two steps lead to something if the first one leads to where the second one does; they fail where
either of them fails. -/
@[simp] theorem ensures_bind (step : Preparation β) (next : β → Preparation α) :
    (step >>= next).Ensures before done failed ↔
      step.Ensures before (fun b after => (next b).Ensures after done failed) failed := by
  unfold Ensures
  simp only [ExceptT.run_bind, StateT.run_bind]
  cases step.run.run before with
  | mk answer after => cases answer <;> rfl

/-- A fault leads to failure. -/
@[simp] theorem ensures_throw (fault : DatabaseFault) :
    (throw fault : Preparation α).Ensures before done failed ↔ failed before :=
  Iff.rfl

/-- How the database is used is told, and nothing changes. -/
@[simp] theorem ensures_use {done : DatabaseUse → DatabaseUse × Workspace → Prop} :
    use.Ensures before done failed ↔ done before.1 before :=
  Iff.rfl

/-- The workspace is told, and nothing changes. -/
@[simp] theorem ensures_workspace {done : Workspace → DatabaseUse × Workspace → Prop} :
    workspace.Ensures before done failed ↔ done before.2 before :=
  Iff.rfl

/-- A note changes how the database is used, and nothing in the workspace. -/
@[simp] theorem ensures_note {done : Unit → DatabaseUse × Workspace → Prop}
    (change : DatabaseUse → DatabaseUse) :
    (note change).Ensures before done failed ↔ done () (change before.1, before.2) :=
  Iff.rfl

/-- Writing a file leads to the workspace with that file. -/
@[simp] theorem ensures_put {done : Unit → DatabaseUse × Workspace → Prop} (path : FilePath)
    (content : FileContent) : (put path content).Ensures before done failed ↔
      done () (before.1, before.2.put path content) :=
  Iff.rfl

/-- Removing a file leads to the workspace without it. -/
@[simp] theorem ensures_remove {done : Unit → DatabaseUse × Workspace → Prop} (path : FilePath) :
    (remove path).Ensures before done failed ↔ done () (before.1, before.2.remove path) :=
  Iff.rfl

/-- An answer that is there already is given, or its fault is thrown. -/
@[simp] theorem ensures_ofExcept (answer : Except DatabaseFault α) :
    (MonadExcept.ofExcept answer : Preparation α).Ensures before done failed ↔
      (∀ a, answer = .ok a → done a before) ∧ (∀ fault, answer = .error fault → failed before) := by
  cases answer with
  | ok a => exact ⟨fun h => ⟨fun _ eq => Except.ok.inj eq ▸ h, nofun⟩, fun h => h.1 a rfl⟩
  | error fault => exact ⟨fun h => ⟨nofun, fun _ _ => h⟩, fun h => h.2 fault rfl⟩

/-- A choice leads to something if either step does whenever it is the one that is taken. -/
@[simp] theorem ensures_ite {c : Prop} [Decidable c] (step other : Preparation α) :
    (if c then step else other).Ensures before done failed ↔
      (c → step.Ensures before done failed) ∧ (¬ c → other.Ensures before done failed) := by
  split
  · simp [*]
  · simp [*]

/-- A step that leads to something leads to whatever follows from it. -/
theorem Ensures.imp {step : Preparation α} {done' : α → DatabaseUse × Workspace → Prop}
    {failed' : DatabaseUse × Workspace → Prop} (ensures : step.Ensures before done failed)
    (done_imp : ∀ a after, done a after → done' a after)
    (failed_imp : ∀ after, failed after → failed' after) : step.Ensures before done' failed' := by
  unfold Ensures at ensures ⊢
  split
  · rename_i a after ran
    rw [ran] at ensures
    exact done_imp a after ensures
  · rename_i fault after ran
    rw [ran] at ensures
    exact failed_imp after ensures

end Rules

section Steps

variable {path : FilePath} {before : DatabaseUse × Workspace}

/-- Waiting for the lock changes nothing, whether it succeeds or not. -/
theorem ensures_awaitLock : (awaitLock path).Ensures before (fun _ after => after = before)
    fun after => after = before := by
  simp only [awaitLock, ensures_bind, ensures_use, ensures_ite, ensures_workspace, ensures_pure,
    implies_true, and_true]
  intro locked
  cases before.2.reach path.lockFile with
  | error fault => exact rfl
  | ok place => cases place <;> exact rfl

/-- If there is no journal, using it up changes nothing. -/
theorem ensures_useUpJournal (plain : path.IsPlain) (nonempty : path ≠ [])
    (no_journal : before.2.contentAt path.journal = .plain []) :
    (useUpJournal path).Ensures before (fun _ after => after = before)
      fun after => after = before := by
  have found := Workspace.present?_of_empty (plain.journal nonempty)
    (path.beside_nonempty nonempty) no_journal
  have none_or_directory : (if before.1.database.locking = .lockFile then none
      else before.2.present? path.journal) = none ∨
      (if before.1.database.locking = .lockFile then none
      else before.2.present? path.journal) = some (.directory path.journal) := by
    split
    · exact .inl rfl
    · exact found
  simp only [useUpJournal, ensures_bind, ensures_use, ensures_workspace]
  rcases none_or_directory with eq | eq <;> rw [eq]
  · exact rfl
  · simp only [ensures_bind, ensures_workspace, ensures_ite, ensures_pure, ensures_throw,
      implies_true, and_self]

/-- Opening the index leaves the files of the database alike, and the log open or closed as it was.
-/
theorem ensures_openIndex (nonempty : path ≠ []) : (openIndex path).Ensures before
    (fun _ after => after.1.database = before.1.database ∧ after.1.logging = before.1.logging ∧
      before.2.Alike path after.2) fun after => before.2.Alike path after.2 := by
  have same : before.2.Alike path before.2 := .refl before.2
  have written : before.2.Alike path (before.2.put path.index .index) :=
    .put (FilePath.ne_index nonempty) (FilePath.log_ne_index nonempty)
      (FilePath.journal_ne_index nonempty)
  have borrowed : (borrowIndex path).Ensures before
      (fun _ after => after.1.database = before.1.database ∧
        after.1.logging = before.1.logging ∧ before.2.Alike path after.2)
      fun after => before.2.Alike path after.2 := by
    simp only [borrowIndex, ensures_bind, ensures_workspace, ensures_ite, ensures_throw,
      ensures_note]
    exact ⟨fun _ => same, fun _ => ⟨trivial, trivial, same⟩⟩
  simp only [openIndex, ensures_bind, ensures_use, ensures_workspace]
  cases before.2.reach path.index with
  | error fault => exact same
  | ok place =>
    cases place with
    | directory _ => exact borrowed
    | file _ _ =>
      simp only [ensures_ite, ensures_put]
      exact ⟨fun _ => borrowed, fun _ => ⟨trivial, trivial, written⟩⟩
    | vacant _ =>
      simp only [ensures_ite, ensures_put, ensures_throw]
      exact ⟨fun _ => same, fun _ => ⟨trivial, trivial, written⟩⟩

/-- If the log is opened, its name is short enough for a file; either way the files of the database
stay alike. -/
theorem ensures_openLog (plain : path.IsPlain) (nonempty : path ≠ []) :
    (openLog path).Ensures before
      (fun _ after => after.1.database = before.1.database ∧ after.1.logging = true ∧
        before.2.Alike path after.2 ∧ path.log.IsNameable)
      fun after => before.2.Alike path after.2 := by
  have opened (workspace : Workspace) (alike : before.2.Alike path workspace)
      (nameable : path.log.IsNameable) : (openIndex path).Ensures (before.1, workspace)
        (fun _ after => after.1.database = before.1.database ∧ True ∧
          before.2.Alike path after.2 ∧ path.log.IsNameable)
        fun after => before.2.Alike path after.2 :=
    (ensures_openIndex nonempty).imp
      (fun _ _ done => ⟨done.1, trivial, alike.trans done.2.2, nameable⟩) fun _ => alike.trans
  have same : before.2.Alike path before.2 := .refl before.2
  simp only [openLog, ensures_bind, ensures_use, ensures_ite, ensures_workspace, ensures_put,
    ensures_note, ensures_throw]
  refine ⟨fun ⟨_, room⟩ => ?_, fun _ => same⟩
  have nameable := Workspace.isNameable_of_hasRoom (plain.log nonempty)
    (path.beside_nonempty nonempty) room
  refine ⟨fun absent => ?_, fun _ => ?_⟩
  · have no_log : before.2.log? path = none := by
      rw [Workspace.log?, Workspace.contentAt, Option.isNone_iff_eq_none.mp absent]
      rfl
    have created := Workspace.Alike.put_empty_log nonempty no_log
    exact ⟨fun _ => ⟨trivial, trivial, created, nameable⟩, fun _ => opened _ created nameable⟩
  · exact ⟨fun _ => ⟨trivial, trivial, same, nameable⟩, fun _ => opened _ same nameable⟩

/-- The log is open if it is there; otherwise the database has no log. -/
theorem ensures_openFoundLog (plain : path.IsPlain) (nonempty : path ≠ [])
    {home : FilePath} {ledger : Ledger} (keeps : before.2.Keeps home path ledger)
    (closed : before.1.logging = false)
    (reachable : before.2.log? path ≠ none → ∃ place, before.2.reach path = .ok place) :
    (openFoundLog path).Ensures before
      (fun _ after => after.1.database = before.1.database ∧ before.2.Alike path after.2 ∧
        (after.1.logging = false → before.2.log? path = none) ∧
        (after.1.logging = true →
          path.log.IsNameable ∧ before.2.contentAt path ≠ .plain []))
      fun after => before.2.Alike path after.2 := by
  have same : before.2.Alike path before.2 := .refl before.2
  have not_open {after : DatabaseUse} (eq : after.logging = false) {P : Prop} :
      after.logging = true → P := fun opened => by rw [eq] at opened; cases opened
  simp only [openFoundLog, ensures_bind, ensures_workspace]
  cases found : before.2.present? path.log with
  | none =>
    have no_log := Workspace.log?_eq_none_of_present? plain nonempty keeps.nameable reachable found
    exact ⟨rfl, same, fun _ => no_log, not_open closed⟩
  | some place =>
    simp only [ensures_bind, ensures_workspace, ensures_ite]
    refine ⟨fun empty => ?_, fun pages => ?_⟩
    · have no_log := keeps.filed.log_eq_none empty
      cases place with
      | file _ _ =>
        rw [ensures_remove]
        exact ⟨rfl, .remove_log nonempty no_log, fun _ => no_log, not_open closed⟩
      | directory _ => exact same
      | vacant _ => exact same
    · refine (ensures_openLog plain nonempty).imp ?_ fun _ alike => alike
      rintro _ after ⟨database, opened, alike, nameable⟩
      refine ⟨database, alike, fun shut => ?_, fun _ => ⟨nameable, fun nothing => ?_⟩⟩
      · rw [opened] at shut
        cases shut
      · rw [nothing] at pages
        exact pages rfl

end Steps

end Preparation

end DutyRoster
