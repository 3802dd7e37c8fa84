import DutyRoster.Rules.ConsecutiveDuty
import DutyRoster.Proofs.Calendar.Civil
import Mathlib.Data.Finset.Card
import Mathlib.Data.Int.Interval

/-!
# Blocks of days in a row

The rule walks from a candidate day in both directions until it meets a day off. `RunAround` says
where the two walks end, and it determines their lengths, so that whatever has the same ends has the
same run. Five things follow.

* The run is the number of days that are joined with the candidate
  (`consecutiveRun_eq_blockLength`), in whatever order the days come and however often.
* The days near the candidate are enough to find it (`consecutiveRun_eq_of_run_le` and
  `consecutiveRun_eq_of_blocks_le`), if either the run found or the blocks there were before are not
  longer than the distance up to which days are known.
* More days on duty never make a run shorter (`consecutiveRun_mono`).
* The check that has a limit needs no more history than the limit says: the days that are at most
  that far from the candidate decide whether it passes (`checkConsecutive_of_daysAround`).
* If the run is within a limit, so are all blocks after the candidate has been added
  (`IsBlock.le_of_insert`); it may make one longer on either side or join two.
-/

set_option autoImplicit false

namespace DutyRoster

/-- The day with this number is one of the days. -/
def Covers (days : List Date) (n : Int) : Prop :=
  ∃ day ∈ days, day.number = n

instance (days : List Date) (n : Int) : Decidable (Covers days n) :=
  inferInstanceAs (Decidable (∃ day ∈ days, _))

/-- Days in a row, given by the number of the first and by how many they are. -/
def IsBlock (days : List Date) (first : Int) (length : Nat) : Prop :=
  ∀ i < length, Covers days (first + i)

instance (days : List Date) (first : Int) (length : Nat) : Decidable (IsBlock days first length) :=
  inferInstanceAs (Decidable (∀ i < length, _))

/-- No day between two days, themselves included, is a day off. -/
def Joined (days : List Date) (a b : Date) : Prop :=
  ∀ i ≤ (b.number - a.number).natAbs, Covers days (min a.number b.number + i)

instance (days : List Date) (a b : Date) : Decidable (Joined days a b) :=
  inferInstanceAs (Decidable (∀ i ≤ _, _))

/-- The number of days that are joined with a day. -/
def blockLength (days : List Date) (day : Date) : Nat :=
  (days.dedup.filter fun other => Joined days day other).length

/-- Some of the days are known, and those that are at most so far from a day are all known. -/
structure KnowsAround (known days : List Date) (day : Int) (radius : Nat) : Prop where
  sound : ∀ n, Covers known n → Covers days n
  near : ∀ n, day - radius ≤ n → n ≤ day + radius → Covers days n → Covers known n

/-- Where the days in a row before a day and after it end. -/
structure RunAround (days : List Date) (day : Int) (before after : Nat) : Prop where
  filled_before : ∀ i : Nat, 1 ≤ i → i ≤ before → Covers days (day - i)
  filled_after : ∀ i : Nat, 1 ≤ i → i ≤ after → Covers days (day + i)
  stop_before : ¬ Covers days (day - (before + 1 : Nat))
  stop_after : ¬ Covers days (day + (after + 1 : Nat))

section Walk

variable {days : List Date}

/-- The number of a day on duty is one of the calendar. -/
theorem Covers.bounds {n : Int} (h : Covers days n) : firstDayNumber ≤ n ∧ n ≤ lastDayNumber := by
  obtain ⟨day, -, rfl⟩ := h
  exact ⟨day.first_le, day.le_last⟩

/-- Equal numbers are covered alike. -/
theorem Covers.of_eq {m n : Int} (h : Covers days m) (eq : m = n) : Covers days n :=
  eq ▸ h

/-- A step leads to one of the days exactly if the number that it leads to is covered. -/
theorem covers_iff_step {day : Date} {offset : Int} : Covers days (day.number + offset) ↔
    ∃ neighbour, day.addDays? offset = some neighbour ∧ neighbour ∈ days := by
  simp only [Date.addDays?_eq_some_iff]
  constructor
  · rintro ⟨neighbour, mem, eq⟩
    exact ⟨neighbour, eq, mem⟩
  · rintro ⟨neighbour, eq, mem⟩
    exact ⟨neighbour, mem, eq⟩

/-- A walk passes days on duty only, and unless it reaches its bound it ends at a day off. -/
theorem unbroken_spec {σ : Int} (direction : σ = 1 ∨ σ = -1) (bound : Nat) (day : Date) :
    let n := unbroken days (fun d => d.addDays? σ) bound day
    n ≤ bound ∧ (∀ i : Nat, 1 ≤ i → i ≤ n → Covers days (day.number + σ * i)) ∧
      (n < bound → ¬ Covers days (day.number + σ * (n + 1 : Nat))) := by
  induction bound generalizing day with
  | zero =>
    refine ⟨Nat.le_refl 0, ?_, fun lt => absurd lt (Nat.lt_irrefl 0)⟩
    intro i one_le le
    exact absurd (Nat.le_trans one_le le) (Nat.not_succ_le_zero 0)
  | succ bound ih =>
    by_cases next : Covers days (day.number + σ)
    · obtain ⟨neighbour, step, mem⟩ := covers_iff_step.mp next
      have number := Date.addDays?_eq_some_iff.mp step
      -- the rest of the walk starts at the neighbour, so its days are counted from there
      obtain ⟨le, filled, stop⟩ := ih neighbour
      simp only [unbroken, step, mem, if_true]
      refine ⟨Nat.succ_le_succ le, ?_, ?_⟩
      · intro i one_le i_le
        by_cases one : i = 1
        · exact next.of_eq (by rcases direction with rfl | rfl <;> omega)
        · have earlier := filled (i - 1) (by omega) (by omega)
          exact earlier.of_eq (by rcases direction with rfl | rfl <;> omega)
      · intro lt covered
        apply stop (by omega)
        exact covered.of_eq (by rcases direction with rfl | rfl <;> omega)
    · have none : unbroken days (fun d => d.addDays? σ) (bound + 1) day = 0 := by
        unfold unbroken
        cases step : day.addDays? σ with
        | none => rfl
        | some neighbour =>
          have off : neighbour ∉ days := fun mem => next (covers_iff_step.mpr ⟨_, step, mem⟩)
          simp only [off, if_false]
      rw [none]
      refine ⟨Nat.zero_le _, ?_, ?_⟩
      · intro i one_le le
        exact absurd (Nat.le_trans one_le le) (Nat.not_succ_le_zero 0)
      · intro _ covered
        exact next (covered.of_eq (by rcases direction with rfl | rfl <;> omega))

/-- The run of the rule is made up of the days before and after the candidate that are in a row with
it. -/
theorem exists_runAround (days : List Date) (day : Date) :
    ∃ before after, consecutiveRun days day = before + 1 + after ∧
      RunAround days day.number before after := by
  have first_le := day.first_le
  have le_last := day.le_last
  obtain ⟨before_le, before_filled, before_stop⟩ := @unbroken_spec days _ (.inr rfl)
    (day.number - firstDayNumber).toNat day
  obtain ⟨after_le, after_filled, after_stop⟩ := @unbroken_spec days _ (.inl rfl)
    (lastDayNumber - day.number).toNat day
  refine ⟨unbroken days (fun d => d.addDays? (-1)) _ day,
    unbroken days (fun d => d.addDays? 1) _ day, rfl, ?_, ?_, ?_, ?_⟩
  · intro i one_le le
    exact (before_filled i one_le le).of_eq (by omega)
  · intro i one_le le
    exact (after_filled i one_le le).of_eq (by omega)
  · -- a walk that reaches its bound has reached the end of the calendar
    intro covered
    have bounds := covered.bounds
    exact before_stop (by omega) (covered.of_eq (by omega))
  · intro covered
    have bounds := covered.bounds
    exact after_stop (by omega) (covered.of_eq (by omega))

end Walk

namespace RunAround

variable {days other : List Date} {day : Int} {before after before' after' : Nat}

/-- The ends of a run determine it. -/
theorem unique (h : RunAround days day before after) (k : RunAround days day before' after') :
    before = before' ∧ after = after' := by
  constructor
  · rcases Nat.lt_trichotomy before before' with lt | eq | gt
    · exact absurd (k.filled_before (before + 1) (by omega) lt) h.stop_before
    · exact eq
    · exact absurd (h.filled_before (before' + 1) (by omega) gt) k.stop_before
  · rcases Nat.lt_trichotomy after after' with lt | eq | gt
    · exact absurd (k.filled_after (after + 1) (by omega) lt) h.stop_after
    · exact eq
    · exact absurd (h.filled_after (after' + 1) (by omega) gt) k.stop_after

/-- The rule finds the run that has these ends. -/
theorem consecutiveRun_eq {day : Date} (h : RunAround days day.number before after) :
    consecutiveRun days day = before + 1 + after := by
  obtain ⟨before', after', eq, found⟩ := exists_runAround days day
  obtain ⟨rfl, rfl⟩ := h.unique found
  exact eq

/-- Other days have the same run if they fill it too and do not go on at its ends. -/
theorem transfer (h : RunAround days day before after)
    (filled : ∀ n, day - before ≤ n → n ≤ day + after → Covers days n → Covers other n)
    (stop : ∀ n, day - (before + 1 : Nat) ≤ n → n ≤ day + (after + 1 : Nat) → Covers other n →
      Covers days n) : RunAround other day before after where
  filled_before i one_le le := filled _ (by omega) (by omega) (h.filled_before i one_le le)
  filled_after i one_le le := filled _ (by omega) (by omega) (h.filled_after i one_le le)
  stop_before covered := h.stop_before (stop _ (by omega) (by omega) covered)
  stop_after covered := h.stop_after (stop _ (by omega) (by omega) covered)

/-- The days before the candidate that are in the run are days in a row. -/
theorem isBlock_before (h : RunAround days day before after) :
    IsBlock days (day - before) before := by
  intro i lt
  exact (h.filled_before (before - i) (by omega) (by omega)).of_eq (by omega)

/-- The days after the candidate that are in the run are days in a row. -/
theorem isBlock_after (h : RunAround days day before after) : IsBlock days (day + 1) after := by
  intro i lt
  exact (h.filled_after (i + 1) (by omega) (by omega)).of_eq (by omega)

/-- Days in a row that take in the candidate do not go beyond the ends of the run. -/
theorem block_within (h : RunAround days day before after) {first : Int} {length : Nat}
    (rest : ∀ i : Nat, i < length → first + i ≠ day → Covers days (first + i))
    (inside : first ≤ day ∧ day < first + length) :
    day - before ≤ first ∧ first + length ≤ day + after + 1 := by
  constructor
  · by_contra beyond
    have covered := rest (day - (before + 1 : Nat) - first).toNat (by omega) (by omega)
    exact h.stop_before (covered.of_eq (by omega))
  · by_contra beyond
    have covered := rest (day + (after + 1 : Nat) - first).toNat (by omega) (by omega)
    exact h.stop_after (covered.of_eq (by omega))

end RunAround

section Count

variable {days : List Date} {day : Date}

/-- One more day covers its own number and no other. -/
theorem covers_cons {n : Int} : Covers (day :: days) n ↔ n = day.number ∨ Covers days n := by
  simp only [Covers, List.exists_mem_cons_iff, eq_comm]

/-- The days joined with the candidate are those between the ends of the run. -/
theorem RunAround.joined_iff {before after : Nat} (h : RunAround days day.number before after)
    (n : Int) : (∃ other ∈ day :: days, Joined (day :: days) day other ∧ other.number = n) ↔
      day.number - before ≤ n ∧ n ≤ day.number + after := by
  have filled : ∀ m, day.number - before ≤ m → m ≤ day.number + after →
      Covers (day :: days) m := by
    intro m low high
    rw [covers_cons]
    rcases Int.lt_trichotomy m day.number with lt | eq | gt
    · exact .inr ((h.filled_before (day.number - m).toNat (by omega) (by omega)).of_eq (by omega))
    · exact .inl eq
    · exact .inr ((h.filled_after (m - day.number).toNat (by omega) (by omega)).of_eq (by omega))
  constructor
  · rintro ⟨other, -, joined, rfl⟩
    -- a day beyond an end of the run would be joined across the day off that stops it there
    constructor
    · by_contra beyond
      have covered := joined (day.number - (before + 1 : Nat) - other.number).toNat (by omega)
      rcases covers_cons.mp covered with eq | covered
      · omega
      · exact h.stop_before (covered.of_eq (by omega))
    · by_contra beyond
      have covered := joined (after + 1) (by omega)
      rcases covers_cons.mp covered with eq | covered
      · omega
      · exact h.stop_after (covered.of_eq (by omega))
  · rintro ⟨low, high⟩
    obtain ⟨other, mem, rfl⟩ := filled n low high
    refine ⟨other, mem, ?_, rfl⟩
    intro i le
    exact filled _ (by omega) (by omega)

/-- The rule counts the days that are joined with the candidate once it is added. -/
theorem consecutiveRun_eq_blockLength (days : List Date) (day : Date) :
    consecutiveRun days day = blockLength (day :: days) day := by
  obtain ⟨before, after, eq, found⟩ := exists_runAround days day
  let joined := (day :: days).dedup.filter fun other => Joined (day :: days) day other
  have nodup : (joined.map (·.number)).Nodup := by
    refine ((List.nodup_dedup _).filter _).map_on ?_
    intro a _ b _ same
    exact Date.ext same
  have between : (joined.map (·.number)).toFinset =
      Finset.Icc (day.number - before) (day.number + after) := by
    ext n
    rw [List.mem_toFinset, Finset.mem_Icc, ← found.joined_iff n]
    simp only [joined, List.mem_map, List.mem_filter, List.mem_dedup, decide_eq_true_eq, and_assoc]
  have card := List.toFinset_card_of_nodup nodup
  rw [between, Int.card_Icc, List.length_map] at card
  change consecutiveRun days day = joined.length
  omega

end Count

section Window

variable {known days : List Date} {day : Date} {radius : Nat}

/-- A run that is not longer than the distance up to which days are known is the run of all days. -/
theorem consecutiveRun_eq_of_run_le (h : KnowsAround known days day.number radius)
    (le : consecutiveRun known day ≤ radius) :
    consecutiveRun days day = consecutiveRun known day := by
  obtain ⟨before, after, eq, found⟩ := exists_runAround known day
  have all : RunAround days day.number before after := by
    apply found.transfer
    · intro n _ _ covered
      exact h.sound n covered
    · intro n low high covered
      exact h.near n (by omega) (by omega) covered
  rw [eq, all.consecutiveRun_eq]

/-- If days in a row are never more than the distance up to which days are known, the run that is
found is the run of all days. -/
theorem consecutiveRun_eq_of_blocks_le (h : KnowsAround known days day.number radius)
    (blocks : ∀ first length, IsBlock days first length → length ≤ radius) :
    consecutiveRun days day = consecutiveRun known day := by
  obtain ⟨before, after, eq, found⟩ := exists_runAround days day
  have before_le := blocks _ _ found.isBlock_before
  have after_le := blocks _ _ found.isBlock_after
  have part : RunAround known day.number before after := by
    apply found.transfer
    · intro n low high covered
      exact h.near n (by omega) (by omega) covered
    · intro n _ _ covered
      exact h.sound n covered
  rw [eq, part.consecutiveRun_eq]

end Window

section Monotone

variable {days more : List Date}

/-- With more days on duty a run does not become shorter. -/
theorem consecutiveRun_mono (subset : ∀ n, Covers days n → Covers more n) (day : Date) :
    consecutiveRun days day ≤ consecutiveRun more day := by
  obtain ⟨before, after, eq, found⟩ := exists_runAround days day
  obtain ⟨before', after', eq', found'⟩ := exists_runAround more day
  have earlier : before ≤ before' := by
    by_contra longer
    exact found'.stop_before (subset _ (found.filled_before _ (by omega) (by omega)))
  have later : after ≤ after' := by
    by_contra longer
    exact found'.stop_after (subset _ (found.filled_after _ (by omega) (by omega)))
  omega

/-- Days that cover the same numbers have the same runs. -/
theorem consecutiveRun_congr (same : ∀ n, Covers days n ↔ Covers more n) (day : Date) :
    consecutiveRun days day = consecutiveRun more day :=
  Nat.le_antisymm (consecutiveRun_mono (fun n => (same n).mp) day)
    (consecutiveRun_mono (fun n => (same n).mpr) day)

end Monotone

section History

variable {known days : List Date} {candidate : Date} {limit : Nat}

/-- The range that is asked for around a day takes in the days up to the radius. Where the calendar
ends before the range does, there are no more days to take in. -/
theorem surroundings_iff {day d : Date} {radius : Nat} :
    (surroundings day radius).1 ≤ d ∧ d ≤ (surroundings day radius).2 ↔
      day.number - radius ≤ d.number ∧ d.number ≤ day.number + radius := by
  have first_le := d.first_le
  have le_last := d.le_last
  have low : (surroundings day radius).1 ≤ d ↔ day.number - radius ≤ d.number := by
    simp only [surroundings, Date.le_iff]
    cases start : day.addDays? (-(radius : Int)) with
    | none =>
      have beyond := Date.addDays?_eq_none_iff.mp start
      have number : Date.first.number = firstDayNumber := rfl
      have day_le := day.le_last
      rw [Option.getD_none]
      omega
    | some first =>
      have number := Date.addDays?_eq_some_iff.mp start
      rw [Option.getD_some]
      omega
  have high : d ≤ (surroundings day radius).2 ↔ d.number ≤ day.number + radius := by
    simp only [surroundings, Date.le_iff]
    cases stop : day.addDays? radius with
    | none =>
      have beyond := Date.addDays?_eq_none_iff.mp stop
      have number : Date.last.number = lastDayNumber := rfl
      have le_day := day.first_le
      rw [Option.getD_none]
      omega
    | some last =>
      have number := Date.addDays?_eq_some_iff.mp stop
      rw [Option.getD_some]
      omega
  rw [low, high]

/-- The days of a history that are at most so far from a day, as they are asked for. -/
def daysAround (days : List Date) (day : Date) (radius : Nat) : List Date :=
  days.filter fun d => (surroundings day radius).1 ≤ d ∧ d ≤ (surroundings day radius).2

/-- Whoever is told of the days around a day, and of no day that is none, knows what is near. -/
theorem knowsAround_of_daysAround {radius : Nat} (near : daysAround days candidate radius ⊆ known)
    (sound : known ⊆ days) : KnowsAround known days candidate.number radius where
  sound := by
    rintro n ⟨day, mem, number⟩
    exact ⟨day, sound mem, number⟩
  near := by
    rintro n low high ⟨day, mem, rfl⟩
    refine ⟨day, near (List.mem_filter.mpr ⟨mem, decide_eq_true ?_⟩), rfl⟩
    exact surroundings_iff.mpr ⟨low, high⟩

/-- The check passes with a run exactly if it is the run of the candidate and within the limit. -/
theorem checkConsecutive_eq_ok_iff {run : Nat} :
    checkConsecutive limit days candidate = .ok run ↔
      consecutiveRun days candidate = run ∧ run ≤ limit := by
  unfold checkConsecutive
  dsimp only
  split_ifs with long
  · simp only [false_iff, not_and, Nat.not_le]
    rintro rfl
    exact long
  · simp only [Except.ok.injEq, iff_self_and]
    rintro rfl
    exact Nat.not_lt.mp long

/-- The check fails with a run exactly if it is the run of the candidate and beyond the limit. -/
theorem checkConsecutive_eq_error_iff {run : Nat} :
    checkConsecutive limit days candidate = .error run ↔
      consecutiveRun days candidate = run ∧ limit < run := by
  unfold checkConsecutive
  dsimp only
  split_ifs with long
  · simp only [Except.error.injEq, iff_self_and]
    rintro rfl
    exact long
  · simp only [false_iff, not_and]
    rintro rfl
    exact long

/-- A run through days that were within a limit before is at most twice as long and one day more,
for the candidate in the middle. -/
theorem consecutiveRun_le_of_blocks_le
    (blocks : ∀ first length, IsBlock days first length → length ≤ limit) :
    consecutiveRun days candidate ≤ 2 * limit + 1 := by
  obtain ⟨before, after, eq, found⟩ := exists_runAround days candidate
  have before_le := blocks _ _ found.isBlock_before
  have after_le := blocks _ _ found.isBlock_after
  omega

/-- The check gives the same verdict on every part of a history that has the days around the
candidate, up to the limit on either side: it passes with the same run or fails on both. It may fail
with another run, unless the days in a row were within the limit before; then it fails with the same
run, which is at most twice the limit and one day more. -/
theorem checkConsecutive_of_daysAround (near : daysAround days candidate limit ⊆ known)
    (sound : known ⊆ days) :
    (∀ run, checkConsecutive limit known candidate = .ok run ↔
      checkConsecutive limit days candidate = .ok run) ∧
    ((∃ run, checkConsecutive limit known candidate = .error run) ↔
      ∃ run, checkConsecutive limit days candidate = .error run) ∧
    ((∀ first length, IsBlock days first length → length ≤ limit) →
      checkConsecutive limit known candidate = checkConsecutive limit days candidate ∧
      ∀ run, checkConsecutive limit days candidate = .error run →
        limit < run ∧ run ≤ 2 * limit + 1) := by
  have knows := knowsAround_of_daysAround near sound
  have le := consecutiveRun_mono knows.sound candidate
  -- a run of the whole history within the limit is one of its part, which is not longer
  have same : consecutiveRun known candidate ≤ limit ∨ consecutiveRun days candidate ≤ limit →
      consecutiveRun days candidate = consecutiveRun known candidate := by
    intro within
    exact consecutiveRun_eq_of_run_le knows (by omega)
  refine ⟨?_, ?_, ?_⟩
  · intro run
    rw [checkConsecutive_eq_ok_iff, checkConsecutive_eq_ok_iff]
    constructor
    · rintro ⟨rfl, within⟩
      exact ⟨same (.inl within), within⟩
    · rintro ⟨rfl, within⟩
      exact ⟨(same (.inr within)).symm, within⟩
  · simp only [checkConsecutive_eq_error_iff, exists_eq_left']
    constructor
    · intro long
      exact Nat.lt_of_lt_of_le long le
    · intro long
      by_contra within
      have := same (.inl (Nat.not_lt.mp within))
      omega
  · intro blocks
    constructor
    · rw [checkConsecutive, checkConsecutive, consecutiveRun_eq_of_blocks_le knows blocks]
    · intro run failed
      obtain ⟨rfl, long⟩ := checkConsecutive_eq_error_iff.mp failed
      exact ⟨long, consecutiveRun_le_of_blocks_le blocks⟩

/-- Under a limit of 2, a day between two blocks of two days each would join them to five days in a
row. The check finds all five without being told of the day on duty after the next day off. -/
theorem checkConsecutive_of_daysAround_joined :
    let day (n : Fin 10) : Date := ⟨738000 + n, by revert n; decide, by revert n; decide⟩
    let days := [day 1, day 2, day 4, day 5, day 7]
    let known := [day 5, day 1, day 4, day 2]
    daysAround days (day 3) 2 ⊆ known ∧ known ⊆ days ∧
      (∀ first length, IsBlock days first length → length ≤ 2) ∧
      checkConsecutive 2 known (day 3) = .error 5 ∧
      checkConsecutive 2 days (day 3) = .error 5 := by
  intro day days known
  have near : daysAround days (day 3) 2 ⊆ known := by decide
  have sound : known ⊆ days := by decide
  have blocks : ∀ first length, IsBlock days first length → length ≤ 2 := by
    intro first length block
    by_contra longer
    have covered (i : Nat) (lt : i < 3) : Covers days (first + i) := block i (by omega)
    have zero := covered 0 (by omega)
    have one := covered 1 (by omega)
    have two := covered 2 (by omega)
    simp [Covers, days, day] at zero one two
    omega
  have check := checkConsecutive_of_daysAround near sound
  have long : checkConsecutive 2 days (day 3) = .error 5 := by decide
  exact ⟨near, sound, blocks, (check.2.2 blocks).1.trans long, long⟩

end History

/-- Adding a day whose run is within a limit leaves all blocks within the limit. -/
theorem IsBlock.le_of_insert {days after : List Date} {day : Date} {limit : Nat}
    (insert : ∀ n, Covers after n → Covers days n ∨ n = day.number)
    (blocks : ∀ first length, IsBlock days first length → length ≤ limit)
    (run : consecutiveRun days day ≤ limit) {first : Int} {length : Nat}
    (block : IsBlock after first length) : length ≤ limit := by
  have rest : ∀ i : Nat, i < length → first + i ≠ day.number → Covers days (first + i) := by
    intro i lt other
    exact (insert _ (block i lt)).resolve_right other
  by_cases inside : first ≤ day.number ∧ day.number < first + length
  · obtain ⟨earlier, later, eq, found⟩ := exists_runAround days day
    have within := found.block_within rest inside
    omega
  · apply blocks first length
    intro i lt
    exact rest i lt (by omega)

end DutyRoster
