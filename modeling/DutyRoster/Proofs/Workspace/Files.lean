import DutyRoster.Workspace.Prepare
import Mathlib.Data.List.Basic
import Mathlib.Tactic.SplitIfs

/-!
# Where names lead, and what stays

A name is followed part by part, and each step goes where `FilePath.step` says. So whatever a name
leads to lies on the way that the name alone tells, no matter which directories are there
(`Workspace.path_of_target`, `Workspace.path_of_databasePath?`). A way without dots leads to its own
end (`Workspace.reach_cases`), and so do the ways to the files beside that end
(`Workspace.reach_beside`).

Writing and removing files changes what is at one way and nothing at others.
-/

set_option autoImplicit false

namespace DutyRoster

variable {workspace : Workspace} {path other directory : FilePath} {content : FileContent}

section Contents

namespace Workspace

/-- A file that has been removed is not there. -/
theorem content?_remove_self : (workspace.remove path).content? path = none := by
  simp [content?, remove, List.find?_eq_none]

/-- Removing a file leaves the others where they are. -/
theorem content?_remove_of_ne (ne : other ≠ path) :
    (workspace.remove path).content? other = workspace.content? other := by
  have same : (fun entry : FilePath × FileContent =>
      decide (decide (entry.1 ≠ path) = true ∧ decide (entry.1 = other) = true)) =
      fun entry => decide (entry.1 = other) := by
    funext entry
    by_cases at_other : entry.1 = other
    · simp [at_other, ne]
    · simp [at_other]
  rw [content?, remove, List.find?_filter, same, content?]

/-- What is put into a workspace is put into one from which the file has been taken away. -/
theorem content?_put : (workspace.put path content).content? other =
    ((workspace.remove path).content? other).or (if path = other then some content else none) := by
  rw [content?, put, List.find?_append, content?, remove]
  cases (workspace.files.filter fun entry => entry.1 ≠ path).find? fun entry => entry.1 = other with
  | some entry => rfl
  | none =>
    by_cases same : path = other
    · simp [same]
    · simp [same]

/-- A file that has been written is there, with what was written. -/
theorem content?_put_self : (workspace.put path content).content? path = some content := by
  rw [content?_put, content?_remove_self, if_pos rfl, Option.none_or]

/-- Writing a file leaves the others where they are. -/
theorem content?_put_of_ne (ne : other ≠ path) :
    (workspace.put path content).content? other = workspace.content? other := by
  rw [content?_put, content?_remove_of_ne ne, if_neg ne.symm, Option.or_none]

/-- A file that has been written holds what was written. -/
@[simp] theorem contentAt_put_self : (workspace.put path content).contentAt path = content := by
  rw [contentAt, content?_put_self, Option.getD_some]

/-- Writing a file does not change what others hold. -/
theorem contentAt_put_of_ne (ne : other ≠ path) :
    (workspace.put path content).contentAt other = workspace.contentAt other := by
  rw [contentAt, content?_put_of_ne ne, contentAt]

/-- Nothing is in a file that has been removed. -/
@[simp] theorem contentAt_remove_self : (workspace.remove path).contentAt path = .plain [] := by
  rw [contentAt, content?_remove_self, Option.getD_none]

/-- Removing a file does not change what others hold. -/
theorem contentAt_remove_of_ne (ne : other ≠ path) :
    (workspace.remove path).contentAt other = workspace.contentAt other := by
  rw [contentAt, content?_remove_of_ne ne, contentAt]

end Workspace

end Contents

section Ways

namespace Workspace

variable {part : PathPart} {parts : List PathPart} {place : Place} {name : FileName}

/-- Where something is found under a part of a name: one step further. -/
theorem look_cases (found : workspace.look directory part = .ok place) :
    place = .directory (directory.step part) ∨
      (∃ content, workspace.content? (directory.step part) = some content ∧
        place = .file (directory.step part) content) ∨
      workspace.content? (directory.step part) = none ∧ place = .vacant (directory.step part) := by
  unfold look at found
  dsimp only at found
  split at found
  · exact .inl (Except.ok.inj found).symm
  · split at found
    · cases found
    · split at found
      · rename_i content there
        exact .inr (.inl ⟨content, there, (Except.ok.inj found).symm⟩)
      · rename_i absent
        split at found
        · exact .inl (Except.ok.inj found).symm
        · exact .inr (.inr ⟨absent, (Except.ok.inj found).symm⟩)

/-- A walk that succeeds ends where its parts lead one by one. -/
theorem walk_eq_ok {stop : FilePath} (walked : workspace.walk directory parts = .ok stop) :
    stop = parts.foldl FilePath.step directory := by
  induction parts generalizing directory with
  | nil => exact (Except.ok.inj walked).symm
  | cons part rest ih =>
    rw [walk, enter] at walked
    rw [List.foldl_cons]
    cases found : workspace.look directory part with
    | error fault =>
      rw [found] at walked
      cases walked
    | ok place =>
      rw [found] at walked
      rcases look_cases found with rfl | ⟨content, -, rfl⟩ | ⟨-, rfl⟩
      · exact ih walked
      · cases walked
      · cases walked

/-- The approach to a name stops before its last part, where the parts before it lead. -/
theorem of_approach {last : Option PathPart}
    (approached : workspace.approach name = .ok (directory, last)) :
    directory = name.parts.dropLast.foldl FilePath.step (name.start workspace.home) ∧
      name.parts.getLast? = last := by
  unfold approach at approached
  split at approached
  · cases approached
  split at approached
  · cases approached
  cases walked : workspace.walk (name.start workspace.home) name.parts.dropLast with
  | error fault =>
    rw [walked] at approached
    cases approached
  | ok stop =>
    rw [walked] at approached
    cases approached
    exact ⟨walk_eq_ok walked, rfl⟩

/-- What a file is moved to lies on the way that its name tells. -/
theorem path_of_target (found : workspace.target name = .ok path) :
    path = name.path workspace.home := by
  unfold target at found
  split at found
  · cases found
  · cases found
  · rename_i directory part approached
    obtain ⟨walked, last⟩ := of_approach approached
    have way : directory.step part = name.path workspace.home := by
      rw [FileName.path, ← List.dropLast_append_getLast? part last, List.foldl_append, ← walked]
      rfl
    rw [← way]
    split at found
    · cases found
    cases seen : workspace.look directory part with
    | error fault =>
      rw [seen] at found
      cases found
    | ok place =>
      rw [seen] at found
      rcases look_cases seen with rfl | ⟨content, -, rfl⟩ | ⟨-, rfl⟩
      · cases found
      all_goals
        dsimp only at found
        split at found
        · cases found
        · exact (Except.ok.inj found).symm

/-- The way to the file of a database is the one that its name tells. -/
theorem path_of_databasePath? (found : workspace.databasePath? name = some path) :
    path = name.path workspace.home ∧ path ≠ [] := by
  obtain ⟨followed, fits⟩ := Option.filter_eq_some_iff.mp found
  refine ⟨?_, (of_decide_eq_true fits).1⟩
  rw [FileName.path]
  generalize name.start workspace.home = start at followed ⊢
  generalize name.parts = parts at followed ⊢
  clear found fits
  induction parts generalizing start with
  | nil => exact (Option.some.inj followed).symm
  | cons part rest ih =>
    obtain ⟨next, went, followed⟩ := Option.bind_eq_some_iff.mp followed
    have step : next = start.step part := by
      unfold detour at went
      dsimp only at went
      split at went
      · cases went
      · split at went
        · exact (Option.some.inj went).symm
        · exact (Option.some.inj went).symm
        · cases went
    rw [List.foldl_cons, ← step]
    exact ih next followed

end Workspace

end Ways

section Beside

namespace FilePath

/-- There is no dot in a way that stands for a place. -/
def IsPlain (path : FilePath) : Prop :=
  ∀ part ∈ path, part ≠ .here ∧ part ≠ .above

/-- Parts without dots lead on from where they are followed. -/
theorem IsPlain.foldl_step {parts : List PathPart} (plain : IsPlain parts) :
    parts.foldl step directory = directory ++ parts := by
  induction parts generalizing directory with
  | nil => rw [List.foldl_nil, List.append_nil]
  | cons part rest ih =>
    obtain ⟨own, others⟩ := List.forall_mem_cons.mp plain
    rw [List.foldl_cons, step, if_neg own.1, if_neg own.2, ih others, List.append_assoc,
      List.singleton_append]

/-- A step from a place whose way has no dots leads to another such place. -/
theorem IsPlain.step (plain : IsPlain directory) (part : PathPart) :
    IsPlain (directory.step part) := by
  unfold FilePath.step
  split_ifs with here above
  · exact plain
  · exact fun part mem => plain part ((List.dropLast_sublist directory).mem mem)
  · exact List.forall_mem_append.mpr ⟨plain, List.forall_mem_singleton.mpr ⟨here, above⟩⟩

/-- A name leads along a way without dots if it is followed from one. -/
theorem IsPlain.namedPath {home : FilePath} (plain : home.IsPlain) (name : FileName) :
    (name.path home).IsPlain := by
  have start_plain : (name.start home).IsPlain := by
    unfold FileName.start
    split
    · exact nofun
    · exact plain
  unfold FileName.path
  generalize name.start home = start at start_plain ⊢
  induction name.parts generalizing start with
  | nil => exact start_plain
  | cons part rest ih => exact ih (start.step part) (start_plain.step part)

variable {path : FilePath} {ending : String}

/-- A file beside another one lies in the same directory, under a longer name. -/
theorem beside_eq (nonempty : path ≠ []) (ending : String) :
    path.beside ending =
      path.dropLast ++ [path.getLast nonempty ++ Text.encode ending.toList] := by
  rw [beside, List.getLast?_eq_some_getLast nonempty]
  rfl

/-- The way to a file beside another one is not empty. -/
theorem beside_nonempty (nonempty : path ≠ []) : path.beside ending ≠ [] := by
  rw [beside_eq nonempty]
  exact List.append_ne_nil_of_right_ne_nil _ (List.cons_ne_nil _ _)

/-- A file beside another one is not that file, as its name is longer. -/
theorem beside_ne_self (nonempty : path ≠ []) (longer : Text.encode ending.toList ≠ []) :
    path ≠ path.beside ending := by
  intro same
  have longer_name := (List.dropLast_concat_getLast nonempty).trans
    (same.trans (beside_eq nonempty ending))
  have names := List.append_cancel_left longer_name
  rw [List.cons.injEq, List.self_eq_append_right] at names
  exact longer names.1

/-- Files beside one another have different names if these end differently. -/
theorem beside_ne_beside (nonempty : path ≠ []) {another : String}
    (ne : Text.encode ending.toList ≠ Text.encode another.toList) :
    path.beside ending ≠ path.beside another := by
  rw [beside_eq nonempty, beside_eq nonempty]
  intro same
  have names := List.append_cancel_left same
  rw [List.cons.injEq] at names
  exact ne (List.append_cancel_left names.1)

/-- The way to a file beside another one has no dots: its last part is too long to be one. -/
theorem IsPlain.beside (plain : path.IsPlain) (nonempty : path ≠ [])
    (long : 2 < (Text.encode ending.toList).length) : (path.beside ending).IsPlain := by
  rw [beside_eq nonempty]
  refine List.forall_mem_append.mpr ⟨fun part mem => plain part
    ((List.dropLast_sublist path).mem mem), List.forall_mem_singleton.mpr ⟨?_, ?_⟩⟩ <;>
  · intro dots
    have size := congrArg List.length dots
    simp only [List.length_append, PathPart.here, PathPart.above, List.length_cons,
      List.length_nil] at size
    omega

/-- Whether the last part of a way is short enough to be the name of a file. -/
def IsNameable (path : FilePath) : Prop :=
  ∀ part ∈ path.getLast?, part.length ≤ PathPart.maxSize

end FilePath

namespace Workspace

variable {path : FilePath} {place : Place} {ending : String}

/-- What a way without dots leads to is looked for in the directory above its end. -/
theorem look_of_reach (plain : path.IsPlain) (nonempty : path ≠ [])
    (reached : workspace.reach path = .ok place) :
    workspace.walk [] path.dropLast = .ok path.dropLast ∧
      workspace.look path.dropLast (path.getLast nonempty) = .ok place := by
  rw [reach, List.getLast?_eq_some_getLast nonempty] at reached
  dsimp only at reached
  cases walked : workspace.walk [] path.dropLast with
  | error fault =>
    rw [walked] at reached
    cases reached
  | ok directory =>
    have plain_directory : FilePath.IsPlain path.dropLast := fun part mem =>
      plain part ((List.dropLast_sublist path).mem mem)
    have own := (walk_eq_ok walked).trans plain_directory.foldl_step
    rw [List.nil_append] at own
    rw [walked, own] at reached
    exact ⟨by rw [own], reached⟩

/-- The last step of a way without dots leads to its end. -/
theorem step_dropLast_getLast (plain : path.IsPlain) (nonempty : path ≠ []) :
    FilePath.step path.dropLast (path.getLast nonempty) = path := by
  have last := plain _ (List.getLast_mem nonempty)
  rw [FilePath.step, if_neg last.1, if_neg last.2, List.dropLast_concat_getLast]

/-- A way without dots leads to its own end. -/
theorem reach_cases (plain : path.IsPlain) (nonempty : path ≠ [])
    (reached : workspace.reach path = .ok place) :
    place = .directory path ∨
      (∃ content, workspace.content? path = some content ∧ place = .file path content) ∨
      workspace.content? path = none ∧ place = .vacant path := by
  have seen := look_cases (look_of_reach plain nonempty reached).2
  rwa [step_dropLast_getLast plain nonempty] at seen

/-- Only a file whose name is short enough can be reached. -/
theorem isNameable_of_reach (plain : path.IsPlain) (nonempty : path ≠ [])
    (reached : workspace.reach path = .ok place) : path.IsNameable := by
  have seen := (look_of_reach plain nonempty reached).2
  have last := plain _ (List.getLast_mem nonempty)
  intro part mem
  rw [List.getLast?_eq_some_getLast nonempty, Option.mem_some_iff] at mem
  rw [← mem]
  unfold look at seen
  dsimp only at seen
  rw [if_neg (not_or.mpr last)] at seen
  split at seen
  · cases seen
  · rename_i fits
    exact Nat.le_of_not_lt fits

/-- A file beside one that can be reached can be reached too, if its name is short enough. -/
theorem reach_beside (plain : path.IsPlain) (nonempty : path ≠ [])
    (reached : workspace.reach path = .ok place) (long : 2 < (Text.encode ending.toList).length)
    (nameable : (path.beside ending).IsNameable)
    (there : workspace.content? (path.beside ending) = some content) :
    workspace.reach (path.beside ending) = .ok (.file (path.beside ending) content) := by
  have plain_beside := plain.beside nonempty long
  have walked := (look_of_reach plain nonempty reached).1
  have eq := FilePath.beside_eq nonempty ending
  generalize path.getLast nonempty ++ Text.encode ending.toList = part at eq
  rw [eq] at plain_beside nameable there ⊢
  have not_dots := plain_beside part (List.mem_append_right _ (List.mem_singleton.mpr rfl))
  have fits := nameable part (by rw [List.getLast?_concat, Option.mem_some_iff])
  have found : workspace.look path.dropLast part =
      .ok (.file (path.dropLast ++ [part]) content) := by
    rw [look, FilePath.step, if_neg not_dots.1, if_neg not_dots.2, if_neg (not_or.mpr not_dots),
      if_neg (Nat.not_lt.mpr fits), there]
  rw [reach, List.getLast?_concat]
  dsimp only
  rw [List.dropLast_concat, walked]
  exact found

end Workspace

end Beside

end DutyRoster
