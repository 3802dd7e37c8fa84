import DutyRoster.Calendar.Date

/-!
# Consecutive days on duty

Nobody is to be on duty for too many days in a row. `consecutiveRun` counts the days of the unbroken
run that a candidate day would belong to, and `checkConsecutive` compares it with the limit.
-/

set_option autoImplicit false

namespace DutyRoster

/-- The number of days on duty that follow `day` without a gap when days are walked through by
`step`, at most `bound` of them. -/
def unbroken (onDuty : List Date) (step : Date → Option Date) : Nat → Date → Nat
  | 0, _ => 0
  | bound + 1, day =>
    match step day with
    | some neighbour =>
      if neighbour ∈ onDuty then unbroken onDuty step bound neighbour + 1 else 0
    | none => 0

/-- The length of the unbroken run of days that contains `candidate` once it is added to the days
on duty. Neither walk can be longer than what the calendar has on that side. -/
def consecutiveRun (onDuty : List Date) (candidate : Date) : Nat :=
  let before := (candidate.number - firstDayNumber).toNat
  let after := (lastDayNumber - candidate.number).toNat
  unbroken onDuty Date.previous? before candidate + 1 + unbroken onDuty Date.next? after candidate

/-- The run that a candidate day would belong to: as an error if it is longer than `limit`. -/
def checkConsecutive (limit : Nat) (onDuty : List Date) (candidate : Date) : Except Nat Nat :=
  let run := consecutiveRun onDuty candidate
  if limit < run then .error run else .ok run

/-- The days that lie at most `radius` days from `day`, as first and last of them: the only days on
duty that the check has to know. -/
def surroundings (day : Date) (radius : Nat) : Date × Date :=
  ((day.addDays? (-(radius : Int))).getD Date.first, (day.addDays? radius).getD Date.last)

end DutyRoster
