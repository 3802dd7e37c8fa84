import DutyRoster.Proofs.Rules.ConsecutiveDuty

/-!
# The run is the largest block around the candidate

What the rule computes by walking can be said without any walk. Consecutive days are a set of days
without a gap, and of all such sets that contain the candidate and otherwise only days on duty there
is one which includes the others (`exists_largest_block`). The run is the number of its days. Hence
runs compare as the sets do: if every block around one day is a block around another, the run of the
second is not shorter (`consecutiveRun_le_of_blocks`), and it does not matter whether the candidate
was on duty before, nor which day of a block is asked about.

The walks come back in the last section, pass by pass and with a count that has 32 bits. They come
to an end from every day, those at the ends of the calendar included, and the count is still that of
the days (`exists_walks`), because the calendar has fewer days than the count can tell apart.
-/

set_option autoImplicit false

namespace DutyRoster

/-- Consecutive days: every day of the calendar between two of them is one of them. -/
def IsConsecutive (block : Finset Date) : Prop :=
  ∀ first ∈ block, ∀ last ∈ block, ∀ day : Date, first ≤ day → day ≤ last → day ∈ block

/-- Consecutive days that contain a candidate and otherwise only days on duty. -/
structure IsBlockAround (days : List Date) (candidate : Date) (block : Finset Date) : Prop where
  consecutive : IsConsecutive block
  candidate_mem : candidate ∈ block
  on_duty : ∀ day ∈ block, day ≠ candidate → day ∈ days

section Largest

variable {days : List Date} {candidate : Date} {block : Finset Date}

/-- Between two days of a block every number is that of a day of the block. -/
theorem IsConsecutive.exists_mem (h : IsConsecutive block) {first last : Date} (hf : first ∈ block)
    (hl : last ∈ block) {n : Int} (low : first.number ≤ n) (high : n ≤ last.number) :
    ∃ day ∈ block, day.number = n := by
  have first_le := first.first_le
  have le_last := last.le_last
  let day : Date := ⟨n, by omega, by omega⟩
  exact ⟨day, h first hf last hl day low high, rfl⟩

/-- Other days of a block than the candidate are on duty. -/
theorem IsBlockAround.covers (h : IsBlockAround days candidate block) {first last : Date}
    (hf : first ∈ block) (hl : last ∈ block) {n : Int} (low : first.number ≤ n)
    (high : n ≤ last.number) (other : n ≠ candidate.number) : Covers days n := by
  obtain ⟨day, mem, rfl⟩ := h.consecutive.exists_mem hf hl low high
  refine ⟨day, h.on_duty day mem ?_, rfl⟩
  rintro rfl
  exact other rfl

/-- No block around the candidate goes beyond the ends of the run. -/
theorem RunAround.le_of_isBlockAround {before after : Nat}
    (found : RunAround days candidate.number before after)
    (h : IsBlockAround days candidate block) {day : Date} (mem : day ∈ block) :
    candidate.number - before ≤ day.number ∧ day.number ≤ candidate.number + after := by
  constructor
  · by_contra beyond
    exact found.stop_before (h.covers mem h.candidate_mem (by omega) (by omega) (by omega))
  · by_contra beyond
    exact found.stop_after (h.covers h.candidate_mem mem (by omega) (by omega) (by omega))

/-- Among the blocks around a candidate there is one that includes all others, and it has as many
days as the run. -/
theorem exists_largest_block (days : List Date) (candidate : Date) :
    ∃ block, IsBlockAround days candidate block ∧ block.card = consecutiveRun days candidate ∧
      ∀ other, IsBlockAround days candidate other → other ⊆ block := by
  obtain ⟨before, after, -, found⟩ := exists_runAround days candidate
  let joined := (candidate :: days).dedup.filter fun day => Joined (candidate :: days) candidate day
  have mem_joined (day : Date) : day ∈ joined.toFinset ↔
      candidate.number - before ≤ day.number ∧ day.number ≤ candidate.number + after := by
    rw [← found.joined_iff, List.mem_toFinset, List.mem_filter, List.mem_dedup, decide_eq_true_eq]
    constructor
    · rintro ⟨mem, near⟩
      exact ⟨day, mem, near, rfl⟩
    · rintro ⟨other, mem, near, same⟩
      obtain rfl := Date.ext same
      exact ⟨mem, near⟩
  refine ⟨joined.toFinset, ⟨?_, ?_, ?_⟩, ?_, ?_⟩
  · intro first hf last hl day low high
    rw [mem_joined] at hf hl ⊢
    rw [Date.le_iff] at low high
    omega
  · rw [mem_joined]
    omega
  · intro day mem other
    rw [List.mem_toFinset, List.mem_filter, List.mem_dedup] at mem
    exact List.mem_of_ne_of_mem other mem.1
  · rw [consecutiveRun_eq_blockLength, blockLength]
    exact List.toFinset_card_of_nodup ((List.nodup_dedup _).filter _)
  · intro other h day mem
    exact (mem_joined day).mpr (found.le_of_isBlockAround h mem)

end Largest

section Compare

variable {days more : List Date} {candidate candidate' : Date} {block : Finset Date}

/-- No block around a candidate has more days than the run. -/
theorem IsBlockAround.card_le (h : IsBlockAround days candidate block) :
    block.card ≤ consecutiveRun days candidate := by
  obtain ⟨largest, -, card, all⟩ := exists_largest_block days candidate
  rw [← card]
  exact Finset.card_le_card (all block h)

/-- A run is not shorter than another if every block around the day of the other is a block around
its own. -/
theorem consecutiveRun_le_of_blocks (blocks : ∀ block, IsBlockAround days candidate block →
    IsBlockAround more candidate' block) :
    consecutiveRun days candidate ≤ consecutiveRun more candidate' := by
  obtain ⟨largest, around, card, -⟩ := exists_largest_block days candidate
  rw [← card]
  exact (blocks largest around).card_le

/-- Only the other days matter for the run of a day. -/
theorem consecutiveRun_eq_of_others (same : ∀ day, day ≠ candidate → (day ∈ days ↔ day ∈ more)) :
    consecutiveRun days candidate = consecutiveRun more candidate := by
  apply Nat.le_antisymm
  · apply consecutiveRun_le_of_blocks
    intro block h
    exact { h with on_duty := fun day mem other => (same day other).mp (h.on_duty day mem other) }
  · apply consecutiveRun_le_of_blocks
    intro block h
    exact { h with on_duty := fun day mem other => (same day other).mpr (h.on_duty day mem other) }

/-- The run is at most one day longer than there are other days on duty. -/
theorem consecutiveRun_le_card (days : List Date) (candidate : Date) :
    consecutiveRun days candidate ≤ (days.toFinset.erase candidate).card + 1 := by
  obtain ⟨block, around, card, -⟩ := exists_largest_block days candidate
  have within : block.erase candidate ⊆ days.toFinset.erase candidate := by
    intro day mem
    rw [Finset.mem_erase] at mem
    rw [Finset.mem_erase, List.mem_toFinset]
    exact ⟨mem.1, around.on_duty day mem.2 mem.1⟩
  have others := Finset.card_le_card within
  have all := Finset.card_erase_add_one around.candidate_mem
  omega

/-- Two days of one block of days on duty have blocks of which the second includes the first. -/
theorem consecutiveRun_le_of_mem_block (consecutive : IsConsecutive block)
    (on_duty : ∀ day ∈ block, day ∈ days) (mem : candidate ∈ block) (mem' : candidate' ∈ block) :
    consecutiveRun days candidate ≤ consecutiveRun days candidate' := by
  obtain ⟨largest, around, card, all⟩ := exists_largest_block days candidate
  have inside : block ⊆ largest := all block ⟨consecutive, mem, fun day mem _ => on_duty day mem⟩
  have around' : IsBlockAround days candidate' largest := by
    refine ⟨around.consecutive, inside mem', ?_⟩
    intro day mem_largest _
    by_cases same : day = candidate
    · rw [same]
      exact on_duty candidate mem
    · exact around.on_duty day mem_largest same
  rw [← card]
  exact around'.card_le

end Compare

section Passes

/-- How far a walk has come: the day that it has reached and the days that it has counted, in
32 bits. -/
structure Walker where
  day : Date
  count : UInt32

/-- One pass of a walk: on to the neighbour if that is a day on duty. If all 32 bits were used up,
the count would start again from zero. -/
def Walker.pass (onDuty : List Date) (step : Date → Option Date) (walker : Walker) :
    Option Walker :=
  (step walker.day).bind fun neighbour =>
    if neighbour ∈ onDuty then some ⟨neighbour, walker.count + 1⟩ else none

/-- A walk of some passes leads from one walker to another. -/
inductive Walks (onDuty : List Date) (step : Date → Option Date) : Nat → Walker → Walker → Prop
  | stay (walker : Walker) : Walks onDuty step 0 walker walker
  | pass {passes : Nat} {walker next final : Walker} (pass : walker.pass onDuty step = some next)
      (rest : Walks onDuty step passes next final) : Walks onDuty step (passes + 1) walker final

/-- A walk comes to its end after some passes: no further pass can be made. -/
def WalksToEnd (onDuty : List Date) (step : Date → Option Date) (passes : Nat)
    (walker final : Walker) : Prop :=
  Walks onDuty step passes walker final ∧ final.pass onDuty step = none

variable {days : List Date}

/-- A walk counts its passes as long as the count does not run over. -/
theorem Walks.toNat_count {step : Date → Option Date} {passes : Nat} {walker final : Walker}
    (walks : Walks days step passes walker final)
    (fits : walker.count.toNat + passes < 4294967296) :
    final.count.toNat = walker.count.toNat + passes := by
  induction walks with
  | stay => rfl
  | @pass passes walker next final pass rest ih =>
    obtain ⟨neighbour, -, made⟩ := Option.bind_eq_some_iff.mp pass
    split_ifs at made
    simp only [Option.some.injEq] at made
    have counted : next.count.toNat = walker.count.toNat + 1 := by
      rw [← made, UInt32.toNat_add, UInt32.toNat_one]
      omega
    have later := ih (by omega)
    omega

/-- A walk cannot go on exactly where the next day is a day off, or is none of the calendar. -/
theorem pass_eq_none_iff {walker : Walker} {σ : Int} :
    walker.pass days (fun day => day.addDays? σ) = none ↔
      ¬ Covers days (walker.day.number + σ) := by
  rw [covers_iff_step]
  unfold Walker.pass
  cases step : walker.day.addDays? σ <;> simp [step]

/-- A walk through days on duty ends before the first day off. -/
theorem exists_walk {σ : Int} {passes : Nat} {day : Date} (count : UInt32)
    (filled : ∀ i : Nat, 1 ≤ i → i ≤ passes → Covers days (day.number + σ * i))
    (stop : ¬ Covers days (day.number + σ * (passes + 1 : Nat))) :
    ∃ final, WalksToEnd days (fun day => day.addDays? σ) passes ⟨day, count⟩ final := by
  induction passes generalizing day count with
  | zero =>
    refine ⟨⟨day, count⟩, .stay _, pass_eq_none_iff.mpr fun covered => stop ?_⟩
    exact covered.of_eq (by simp)
  | succ passes ih =>
    have next : Covers days (day.number + σ) :=
      (filled 1 (Nat.le_refl 1) (by omega)).of_eq (by simp)
    obtain ⟨neighbour, step, mem⟩ := covers_iff_step.mp next
    have number := Date.addDays?_eq_some_iff.mp step
    have shift (i : Nat) : neighbour.number + σ * i = day.number + σ * (i + 1 : Nat) := by
      rw [number, Int.natCast_succ, Int.mul_add, Int.mul_one]
      omega
    obtain ⟨final, walks, ends⟩ := @ih neighbour (count + 1)
      (fun i one_le le => (filled (i + 1) (by omega) (by omega)).of_eq (shift i).symm)
      (fun covered => stop (covered.of_eq (shift (passes + 1))))
    refine ⟨final, .pass ?_ walks, ends⟩
    simp only [Walker.pass, step, Option.bind_some, mem, if_true]

/-- The two walks of the rule, one after the other and with one count: the first back from the
candidate, the second on from it. Both come to an end, and what has been counted then is the run. -/
theorem exists_walks (days : List Date) (candidate : Date) :
    ∃ before after first last, WalksToEnd days Date.previous? before ⟨candidate, 1⟩ first ∧
      WalksToEnd days Date.next? after ⟨candidate, first.count⟩ last ∧
      first.count.toNat = 1 + before ∧ last.count.toNat = first.count.toNat + after ∧
      last.count.toNat = consecutiveRun days candidate := by
  obtain ⟨before, after, eq, found⟩ := exists_runAround days candidate
  obtain ⟨first, back, ends⟩ := @exists_walk days (-1) before candidate 1
    (fun i one_le le => (found.filled_before i one_le le).of_eq (by omega))
    (fun covered => found.stop_before (covered.of_eq (by omega)))
  obtain ⟨last, on, ends'⟩ := @exists_walk days 1 after candidate first.count
    (fun i one_le le => (found.filled_after i one_le le).of_eq (by omega))
    (fun covered => found.stop_after (covered.of_eq (by omega)))
  -- the whole calendar has fewer days than there are counts
  have short : 1 + before + after < 4294967296 := by
    have low := candidate.first_le
    have high := candidate.le_last
    have span : lastDayNumber - firstDayNumber < 200000000 := by decide
    have back_le : before = 0 ∨ firstDayNumber ≤ candidate.number - before := by
      rcases Nat.eq_zero_or_pos before with zero | pos
      · exact .inl zero
      · exact .inr (found.filled_before before pos (Nat.le_refl _)).bounds.1
    have on_le : after = 0 ∨ candidate.number + after ≤ lastDayNumber := by
      rcases Nat.eq_zero_or_pos after with zero | pos
      · exact .inl zero
      · exact .inr (found.filled_after after pos (Nat.le_refl _)).bounds.2
    omega
  have one : (1 : UInt32).toNat = 1 := rfl
  have counted_back := back.toNat_count (by dsimp only; omega)
  have counted_on := on.toNat_count (by dsimp only at counted_back ⊢; omega)
  dsimp only at counted_back counted_on
  refine ⟨before, after, first, last, ⟨back, ends⟩, ⟨on, ends'⟩, ?_, counted_on, ?_⟩ <;> omega

end Passes

/-- The run of a candidate is the number of days of the largest block around it: consecutive days
which contain it and otherwise only days on duty. So it is the same with and without the candidate
among the days on duty, is not shorter with more days, exceeds the number of other days by at most
one, and is the same for all days of a block. The walks that find it come to an end, and the count
of 32 bits that is kept along both of them is never exceeded. -/
theorem consecutiveRun_is_largest_block (days : List Date) (candidate : Date) :
    (∃ block, IsBlockAround days candidate block ∧ block.card = consecutiveRun days candidate ∧
      ∀ other, IsBlockAround days candidate other → other ⊆ block) ∧
    consecutiveRun (candidate :: days) candidate = consecutiveRun days candidate ∧
    consecutiveRun (days.filter fun day => day ≠ candidate) candidate =
      consecutiveRun days candidate ∧
    (∀ more, days ⊆ more → consecutiveRun days candidate ≤ consecutiveRun more candidate) ∧
    consecutiveRun days candidate ≤ (days.toFinset.erase candidate).card + 1 ∧
    (∀ block : Finset Date, IsConsecutive block → (∀ day ∈ block, day ∈ days) →
      candidate ∈ block → ∀ other ∈ block,
        consecutiveRun days other = consecutiveRun days candidate) ∧
    ∃ before after first last, WalksToEnd days Date.previous? before ⟨candidate, 1⟩ first ∧
      WalksToEnd days Date.next? after ⟨candidate, first.count⟩ last ∧
      first.count.toNat = 1 + before ∧ last.count.toNat = first.count.toNat + after ∧
      last.count.toNat = consecutiveRun days candidate := by
  refine ⟨exists_largest_block days candidate, ?_, ?_, ?_, consecutiveRun_le_card days candidate,
    ?_, exists_walks days candidate⟩
  · apply consecutiveRun_eq_of_others
    intro day other
    simp [other]
  · apply consecutiveRun_eq_of_others
    intro day other
    simp [other]
  · intro more subset
    apply consecutiveRun_le_of_blocks
    intro block h
    exact { h with on_duty := fun day mem other => subset (h.on_duty day mem other) }
  · intro block consecutive on_duty mem other mem'
    exact Nat.le_antisymm (consecutiveRun_le_of_mem_block consecutive on_duty mem' mem)
      (consecutiveRun_le_of_mem_block consecutive on_duty mem mem')

/-- On the first two days of the calendar, which make a block, the run is two days for either of
them. It takes in the fourth day as soon as the third is on duty as well. -/
theorem consecutiveRun_is_largest_block_of_first_days :
    let day (n : Fin 4) : Date :=
      ⟨firstDayNumber + n, by revert n; decide, by revert n; decide⟩
    let days := [day 3, day 1, day 0]
    let more := day 2 :: days
    let block := [day 0, day 1].toFinset
    IsConsecutive block ∧ (∀ d ∈ block, d ∈ days) ∧ day 0 ∈ block ∧ day 1 ∈ block ∧ days ⊆ more ∧
      consecutiveRun days (day 1) = consecutiveRun days (day 0) ∧ consecutiveRun days (day 0) = 2 ∧
      consecutiveRun days (day 0) ≤ consecutiveRun more (day 0) ∧
      consecutiveRun more (day 0) = 4 := by
  intro day days more block
  have consecutive : IsConsecutive block := by
    intro first hf last hl d low high
    rw [Date.le_iff] at low high
    simp only [block, day, List.mem_toFinset, List.mem_cons, List.not_mem_nil, or_false,
      Date.ext_iff] at hf hl ⊢
    simp only [Fin.isValue, Fin.val_zero, Fin.val_one] at hf hl ⊢
    omega
  have on_duty : ∀ d ∈ block, d ∈ days := by decide
  have subset : days ⊆ more := by decide
  obtain ⟨-, -, -, mono, -, same, -⟩ := consecutiveRun_is_largest_block days (day 0)
  exact ⟨consecutive, on_duty, by decide, by decide, subset,
    same block consecutive on_duty (by decide) (day 1) (by decide), by decide,
    mono more subset, by decide⟩

end DutyRoster
