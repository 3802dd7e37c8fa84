import DutyRoster.Proofs.Scheduler.Booked
import DutyRoster.Proofs.Session.Cancellation
import DutyRoster.Proofs.Session.Grid

/-!
# Independent requests commute

Two requests to assign or to remove, made for different employees and not for the same slot of a day
in the same role, do not notice each other: in either order each gets the answer that it gets alone,
and the bookings at the end are the same (`Session.run_independent_requests_commute`). They may well
meet in the tables, where one creates the row of the slot that the other one needs; only identifiers
tell.

What a request does is named by a `BookingChange`. Its answer and its change depend only on what the
request sees of a ledger (`Ledger.SeenAlike`, `Session.settlesAlike_of_seenAlike`), and a change
that an independent request makes is outside of what is seen (`Session.seenAlike_step`). So both
orders take the same decisions, and what remains is that changes of different bookings commute
(`BookingChange.apply_comm`).
-/

set_option autoImplicit false

namespace DutyRoster

/-- What a request to assign or to remove names. -/
structure Target where
  employee : EmployeeId
  date : String
  slot : Nat
deriving DecidableEq

/-- What is named by an operation if it is a request to assign or to remove. -/
def Operation.target? : Operation → Option Target
  | .assign employee date number => some ⟨employee, date, number⟩
  | .remove employee date number => some ⟨employee, date, number⟩
  | _ => none

/-- Requests to assign and to remove are vetted. -/
theorem Operation.isVetted_of_target? {operation : Operation} {target : Target}
    (asks : operation.target? = some target) : operation.isVetted = true := by
  cases operation <;> first | rfl | cases asks

/-- What a request does to the bookings: nothing, or one booking is made or removed. -/
inductive BookingChange where
  | keep
  | add (booking : Booking)
  | drop (booking : Booking)

namespace BookingChange

/-- The bookings after a change. A new booking comes last. -/
def apply : BookingChange → List Booking → List Booking
  | keep, booked => booked
  | add booking, booked => booked ++ [booking]
  | drop booking, booked => booked.filter (· ≠ booking)

/-- The booking that a change is about, if it is about one. -/
def touched : BookingChange → Option Booking
  | keep => none
  | add booking => some booking
  | drop booking => some booking

variable {change other : BookingChange} {booked : List Booking}

/-- A change that is not about a booking neither makes nor removes it. -/
theorem mem_apply {booking : Booking} (apart : ∀ touched ∈ change.touched, touched ≠ booking) :
    booking ∈ change.apply booked ↔ booking ∈ booked := by
  cases change with
  | keep => rfl
  | add made =>
    have ne := apart made rfl
    simp [apply, ne.symm]
  | drop removed =>
    have ne := apart removed rfl
    simp [apply, ne.symm]

/-- A change that is not about bookings of some kind leaves their number as it was. -/
theorem countP_apply {p : Booking → Bool} (apart : ∀ touched ∈ change.touched, p touched = false) :
    (change.apply booked).countP p = booked.countP p := by
  cases change with
  | keep => rfl
  | add made => simp [apply, apart made rfl]
  | drop removed =>
    unfold apply
    rw [List.countP_filter]
    apply List.countP_congr
    intro booking _
    have ne : p booking = true → booking ≠ removed := by
      rintro passes rfl
      exact absurd passes (by simp [apart booking rfl])
    simpa using ne

/-- Changes of different bookings commute, but for the order in which bookings are listed. -/
theorem apply_comm (apart : ∀ a ∈ change.touched, ∀ b ∈ other.touched, a ≠ b) :
    (change.apply (other.apply booked)).Perm (other.apply (change.apply booked)) := by
  cases change with
  | keep => rfl
  | add a =>
    cases other with
    | keep => rfl
    | add b =>
      simp only [apply, List.append_assoc, List.singleton_append]
      exact (List.Perm.swap a b []).append_left booked
    | drop b =>
      have ne := apart a rfl b rfl
      simp [apply, ne]
  | drop a =>
    cases other with
    | keep => rfl
    | add b =>
      have ne := apart a rfl b rfl
      simp [apply, ne.symm]
    | drop b =>
      simp only [apply, List.filter_filter]
      apply List.Perm.of_eq
      congr 1
      funext booking
      exact Bool.and_comm _ _

end BookingChange

namespace Ledger

/-- A booking is the one that a request is about: for its employee, date and slot as they are read,
in the role that the employee has. -/
structure IsAbout (ledger : Ledger) (target : Target) (booking : Booking) : Prop where
  employee : booking.employee = target.employee
  date : requestDate target.date = .ok booking.date
  number : SlotNumber.ofNumber? target.slot = some booking.number
  role : ∃ member ∈ ledger.staff, member.id = booking.employee ∧ member.role = booking.role

/-- Two requests are independent: they are made for different employees, and not both for the same
slot of the same day in the same role. -/
structure Independent (ledger : Ledger) (a b : Target) : Prop where
  employees : a.employee ≠ b.employee
  seats : ∀ x y, ledger.IsAbout a x → ledger.IsAbout b y →
    ¬ (x.date = y.date ∧ x.number = y.number ∧ x.role = y.role)

/-- Independence does not depend on which request is named first. -/
theorem Independent.symm {ledger : Ledger} {a b : Target} (h : ledger.Independent a b) :
    ledger.Independent b a :=
  ⟨h.employees.symm, fun x y about_x about_y ⟨date, number, role⟩ =>
    h.seats y x about_y about_x ⟨date.symm, number.symm, role.symm⟩⟩

/-- Two ledgers show a request the same: the staff, the bookings of the employee, and the number of
seats taken where a booking would be made. -/
structure SeenAlike (target : Target) (a b : Ledger) : Prop where
  staff : a.staff = b.staff
  own : ∀ booking : Booking, booking.employee = target.employee →
    (booking ∈ a.booked ↔ booking ∈ b.booked)
  seats : ∀ booking, a.IsAbout target booking →
    a.seats booking.date booking.number booking.role =
      b.seats booking.date booking.number booking.role

namespace SeenAlike

variable {target : Target} {a b : Ledger}

/-- A ledger shows every request the same as itself. -/
theorem refl (target : Target) (ledger : Ledger) : SeenAlike target ledger ledger :=
  ⟨rfl, fun _ _ => Iff.rfl, fun _ _ => rfl⟩

/-- Ledgers that are seen alike have the same bookings of the employee. -/
theorem holds_iff (h : SeenAlike target a b) (date : Date) (number : SlotNumber) :
    a.Holds target.employee date number ↔ b.Holds target.employee date number := by
  rw [holds_iff_booked, holds_iff_booked]
  constructor
  · rintro ⟨role, mem⟩
    exact ⟨role, (h.own _ rfl).mp mem⟩
  · rintro ⟨role, mem⟩
    exact ⟨role, (h.own _ rfl).mpr mem⟩

/-- A request to assign passes the same checks on ledgers that it sees alike. -/
theorem vetRequest {s t : Store} (h : SeenAlike target s.ledger t.ledger)
    (hs : s.ledger.Consistent) (ht : t.ledger.Consistent) (options : Options) (today : Date) :
    t.vetRequest options today target.employee target.date target.slot =
      s.vetRequest options today target.employee target.date target.slot := by
  rw [hs.vetRequest_eq, ht.vetRequest_eq, h.staff]
  apply vetting_congr
  intro day _ _
  apply consecutiveRun_congr
  intro n
  rw [hs.covers_knownDays_iff, ht.covers_knownDays_iff]
  constructor
  · rintro ⟨booking, mem, own, seen⟩
    exact ⟨booking, (h.own booking own).mpr mem, own, seen⟩
  · rintro ⟨booking, mem, own, seen⟩
    exact ⟨booking, (h.own booking own).mp mem, own, seen⟩

end SeenAlike

end Ledger

namespace Session

/-- A step is answered in a certain way, identifiers left out, and does nothing but to change the
bookings in a certain way. -/
structure Settles (session : Session) (operation : Operation) (answer : Except Refusal Reply)
    (change : BookingChange) : Prop where
  answer : (session.step operation).1.map Reply.withoutIds = answer
  booked : (session.step operation).2.store.ledger.booked =
    change.apply session.store.ledger.booked
  staff : (session.step operation).2.store.ledger.staff = session.store.ledger.staff
  rest : (session.step operation).2 = session.withLedger (session.step operation).2.store.ledger

section Settling

variable {session : Session} {operation : Operation} {target : Target} {employee : EmployeeId}
  {day : Date} {number : SlotNumber} {role : Role}

/-- In the role of which member of staff a booking was made, when bookings are made through the
scheduler only. -/
theorem Kept.role_of_booked (h : session.Kept) {booking : Booking}
    (mem : booking ∈ session.store.ledger.booked) {member : Employee}
    (on_staff : member ∈ session.store.ledger.staff) (own : member.id = booking.employee) :
    booking.role = member.role := by
  obtain ⟨shift, held, rfl⟩ := List.mem_map.mp mem
  obtain ⟨holder, holder_on_staff, same, role⟩ := h.roles shift held
  -- identifiers tell members of staff apart, so the holder is the member
  have found := h.consistent.find?_staff holder_on_staff
  rw [same, show shift.employee = member.id from own.symm, h.consistent.find?_staff on_staff,
    Option.some.injEq] at found
  rw [found, role]
  rfl

/-- A step that is refused settles with the refusal and changes no booking. -/
theorem Settles.of_error {cause : Refusal}
    (eq : session.step operation = (.error cause, session)) :
    session.Settles operation (.error cause) .keep := by
  constructor <;> rw [eq] <;> rfl

/-- A step that makes a booking settles with the receipt and adds the booking. -/
theorem Settles.of_booked {id : AssignmentId} (h : session.store.ledger.Consistent)
    (eq : session.step operation = (.ok (.receipt ⟨id, employee, day, number⟩),
      session.withLedger (session.store.ledger.withBooking employee day number role))) :
    session.Settles operation (.ok (.receipt ⟨⟨0⟩, employee, day, number⟩))
      (.add ⟨employee, day, number, role⟩) := by
  constructor <;> rw [eq]
  · rfl
  · exact h.booked_withBooking employee day number role
  · exact session.store.ledger.staff_withBooking employee day number role
  · rfl

/-- A step that removes a booking settles with nothing to say, and drops the booking in the role in
which it was made. -/
theorem Settles.of_removed (h : session.store.ledger.Consistent)
    (roles : ∀ booking ∈ session.store.ledger.booked, booking.employee = employee →
      booking.role = role)
    (eq : session.step operation = (.ok .done,
      session.withLedger (session.store.ledger.withoutBooking employee day number))) :
    session.Settles operation (.ok .done) (.drop ⟨employee, day, number, role⟩) := by
  constructor <;> rw [eq]
  · rfl
  · refine (h.booked_withoutBooking employee day number).trans ?_
    apply List.filter_congr
    intro booking mem
    rw [decide_eq_decide, not_iff_not]
    constructor
    · rintro ⟨own, date, slot⟩
      rw [← own, ← date, ← slot, ← roles booking mem own]
    · rintro rfl
      exact ⟨rfl, rfl, rfl⟩
  · rfl
  · rfl

/-- A request settles in the same way in a session and in the session with another ledger, and if it
changes a booking, it is one that the request is about. -/
def SettlesAlike (session : Session) (ledger : Ledger) (operation : Operation) (target : Target) :
    Prop :=
  ∃ answer change, session.Settles operation answer change ∧
    (session.withLedger ledger).Settles operation answer change ∧
    ∀ booking ∈ change.touched, session.store.ledger.IsAbout target booking

/-- A request that is refused in both sessions for the same cause settles alike. -/
theorem SettlesAlike.of_error {ledger : Ledger} {cause : Refusal}
    (here : session.step operation = (.error cause, session))
    (there : (session.withLedger ledger).step operation =
      (.error cause, session.withLedger ledger)) :
    session.SettlesAlike ledger operation target :=
  ⟨_, .keep, .of_error here, .of_error there, fun _ mem => by simp [BookingChange.touched] at mem⟩

variable {ledger : Ledger}

/-- A request to assign settles alike on ledgers that it sees alike. -/
theorem settlesAlike_assign (h : session.Kept) (h' : (session.withLedger ledger).Kept)
    (free : session.store.lock = .free)
    (seen : Ledger.SeenAlike target session.store.ledger ledger) :
    session.SettlesAlike ledger (.assign target.employee target.date target.slot) target := by
  have same := seen.vetRequest (t := (session.withLedger ledger).store) h.consistent h'.consistent
    session.options session.today
  cases vetted : session.store.vetRequest session.options session.today target.employee target.date
    target.slot with
  | error cause =>
    rw [vetted] at same
    have here := step_assign_of_error vetted
    have there := step_assign_of_error same
    obtain ⟨refusal, eq⟩ := exists_ofRequest_error Reply.receipt cause
    rw [eq] at here there
    exact .of_error here there
  | ok request =>
    obtain ⟨member, day, number⟩ := request
    rw [vetted] at same
    obtain ⟨on_staff, own, read, numbered⟩ := h.consistent.of_vetRequest vetted
    have about : session.store.ledger.IsAbout target ⟨member.id, day, number, member.role⟩ :=
      ⟨own, read, numbered, member, on_staff, rfl, rfl⟩
    have holds_iff := seen.holds_iff day number
    rw [← own] at holds_iff
    have here := step_assign_eq free h.consistent vetted
    have free' : (session.withLedger ledger).store.lock = .free := free
    have there := step_assign_eq free' h'.consistent same
    -- the checks have passed on both ledgers; what decides now is the booking and the seats
    simp only [withLedger_ledger, withLedger_options, ← seen.seats _ about] at here there
    by_cases holds : session.store.ledger.Holds member.id day number
    · rw [if_pos holds] at here
      rw [if_pos (holds_iff.mp holds)] at there
      exact .of_error here there
    · rw [if_neg holds] at here
      rw [if_neg fun held => holds (holds_iff.mpr held)] at there
      split_ifs at here there
      · exact .of_error here there
      · exact .of_error here there
      · refine ⟨_, .add _, .of_booked h.consistent here, .of_booked h'.consistent there, ?_⟩
        rintro _ ⟨⟩
        exact about

/-- A request to remove settles alike on ledgers that it sees alike. -/
theorem settlesAlike_remove (h : session.Kept) (h' : (session.withLedger ledger).Kept)
    (free : session.store.lock = .free)
    (seen : Ledger.SeenAlike target session.store.ledger ledger) :
    session.SettlesAlike ledger (.remove target.employee target.date target.slot) target := by
  cases request : (do return (← requestDate target.date, ← requestSlot target.slot) :
      Except SchedulingError (Date × SlotNumber)) with
  | error cause =>
    obtain ⟨refusal, eq⟩ := exists_ofRequest_error (fun () => Reply.done) cause
    have refused (s : Session) :
        s.step (.remove target.employee target.date target.slot) = (.error refusal, s) := by
      rw [step_remove_of_error request, eq]
    exact .of_error (refused _) (refused _)
  | ok place =>
    obtain ⟨day, number⟩ := place
    obtain ⟨read, numbered⟩ := readRequest_eq_ok_iff.mp request
    have here := step_remove_eq free h.consistent read numbered target.employee
    have free' : (session.withLedger ledger).store.lock = .free := free
    have there := step_remove_eq free' h'.consistent read numbered target.employee
    rw [withLedger_ledger] at there
    by_cases holds : session.store.ledger.Holds target.employee day number
    · rw [if_pos holds] at here
      rw [if_pos ((seen.holds_iff day number).mp holds)] at there
      obtain ⟨shift, held, own, -, -⟩ := holds
      -- whatever the employee holds, on either ledger, is booked in the role of the employee
      obtain ⟨member, on_staff, same, -⟩ := h.roles shift held
      have role (booking : Booking) (mem : booking ∈ session.store.ledger.booked)
          (of_employee : booking.employee = target.employee) : booking.role = member.role :=
        h.role_of_booked mem on_staff (same.trans (own.trans of_employee.symm))
      refine ⟨_, .drop ⟨target.employee, day, number, member.role⟩,
        .of_removed h.consistent role here, .of_removed h'.consistent ?_ there, ?_⟩
      · intro booking mem of_employee
        exact role booking ((seen.own booking of_employee).mpr mem) of_employee
      · rintro _ ⟨⟩
        exact ⟨rfl, read, numbered, member, on_staff, same.trans own, rfl⟩
    · rw [if_neg holds] at here
      rw [if_neg fun held => holds ((seen.holds_iff day number).mpr held)] at there
      exact .of_error here there

/-- Whatever a request does, it does on all ledgers that it sees alike. -/
theorem settlesAlike_of_seenAlike (h : session.Kept) (h' : (session.withLedger ledger).Kept)
    (free : session.store.lock = .free) (asks : operation.target? = some target)
    (seen : Ledger.SeenAlike target session.store.ledger ledger) :
    session.SettlesAlike ledger operation target := by
  cases operation with
  | assign employee date slot =>
    cases asks
    exact settlesAlike_assign h h' free seen
  | remove employee date slot =>
    cases asks
    exact settlesAlike_remove h h' free seen
  | _ => cases asks

end Settling

section Commuting

variable {session : Session} {a b : Operation} {x y : Target}

/-- What an independent request does is outside of what a request sees. -/
theorem seenAlike_step (h : session.Kept) (free : session.store.lock = .free)
    (asks : b.target? = some y) (apart : session.store.ledger.Independent x y) :
    Ledger.SeenAlike x session.store.ledger (session.step b).2.store.ledger := by
  obtain ⟨answer, change, settles, -, about⟩ :=
    settlesAlike_of_seenAlike h h free asks (.refl y session.store.ledger)
  refine ⟨settles.staff.symm, ?_, ?_⟩
  · intro booking own
    rw [settles.booked]
    refine (BookingChange.mem_apply ?_).symm
    rintro touched mem rfl
    exact apart.employees (own.symm.trans (about touched mem).employee)
  · intro booking mine
    rw [Ledger.seats_eq_countP_booked, Ledger.seats_eq_countP_booked, settles.booked]
    refine (BookingChange.countP_apply ?_).symm
    intro touched mem
    rw [decide_eq_false_iff_not]
    rintro ⟨date, number, role⟩
    exact apart.seats booking touched mine (about touched mem) ⟨date.symm, number.symm, role.symm⟩

/-- A request that passes an independent one gets the answer that it gets alone, and makes the same
change. -/
theorem step_after_independent (h : session.Kept) (free : session.store.lock = .free)
    (asks_a : a.target? = some x) (asks_b : b.target? = some y)
    (apart : session.store.ledger.Independent x y) :
    ∃ answer change, session.Settles a answer change ∧
      (session.step b).2.Settles a answer change ∧
      ∀ booking ∈ change.touched, session.store.ledger.IsAbout x booking := by
  obtain ⟨_, _, settles_b, -, -⟩ :=
    settlesAlike_of_seenAlike h h free asks_b (.refl y session.store.ledger)
  have kept := h.step (Operation.isVetted_of_target? asks_b)
  have seen := seenAlike_step h free asks_b apart
  rw [settles_b.rest] at kept ⊢
  exact settlesAlike_of_seenAlike h kept free asks_a seen

end Commuting

/-- Two operations commute in a session: in either order each of them is answered as it is alone,
identifiers left out, and the same bookings are there in the end. -/
structure Commute (session : Session) (a b : Operation) : Prop where
  first : ((session.step b).2.step a).1.map Reply.withoutIds =
    (session.step a).1.map Reply.withoutIds
  second : ((session.step a).2.step b).1.map Reply.withoutIds =
    (session.step b).1.map Reply.withoutIds
  booked : ((session.step a).2.step b).2.store.ledger.booked.Perm
    ((session.step b).2.step a).2.store.ledger.booked

/-- After a run that books through the scheduler only, two requests to assign or to remove commute
if they are independent of each other in the ledger that the run leaves. -/
theorem run_independent_requests_commute {start : Session} {operations : List Operation}
    (empty : start.store.ledger = {})
    (vetted : ∀ operation ∈ operations, operation.isVetted = true)
    (free : (start.run operations).2.store.lock = .free) {a b : Operation} {x y : Target}
    (asks_a : a.target? = some x) (asks_b : b.target? = some y)
    (apart : (start.run operations).2.store.ledger.Independent x y) :
    (start.run operations).2.Commute a b := by
  have kept := run_kept empty vetted
  obtain ⟨answer_a, change_a, alone_a, after_b, about_a⟩ :=
    step_after_independent kept free asks_a asks_b apart
  obtain ⟨answer_b, change_b, alone_b, after_a, about_b⟩ :=
    step_after_independent kept free asks_b asks_a apart.symm
  refine ⟨after_b.answer.trans alone_a.answer.symm, after_a.answer.trans alone_b.answer.symm, ?_⟩
  rw [after_a.booked, alone_a.booked, after_b.booked, alone_b.booked]
  apply BookingChange.apply_comm
  rintro made_b mem_b made_a mem_a rfl
  -- the two bookings are of different employees
  exact apart.employees ((about_a made_b mem_a).employee.symm.trans (about_b made_b mem_b).employee)

/-- The medic and the technical member of staff may come in either order for a slot that is not
there yet. -/
theorem run_independent_requests_commute_of_two_roles :
    let staff : List Operation := [.register "Ada" "medic", .register "Eva" "technical"]
    let session := (sample.run staff).2
    let a : Operation := .assign ⟨1⟩ "2020-08-01" 1
    let b : Operation := .assign ⟨2⟩ "2020-08-01" 1
    session.store.ledger.slots = [] ∧
      (session.step a).1 = .ok (.receipt ⟨⟨1⟩, ⟨1⟩, sampleDay, .early⟩) ∧
      ((session.step b).2.step a).1 = .ok (.receipt ⟨⟨2⟩, ⟨1⟩, sampleDay, .early⟩) ∧
      session.Commute a b := by
  intro staff session a b
  have empty : sample.store.ledger = {} := rfl
  have vetted : ∀ operation ∈ staff, operation.isVetted = true := by decide
  have free : (sample.run staff).2.store.lock = .free := by decide +kernel
  have asks_a : a.target? = some ⟨⟨1⟩, "2020-08-01", 1⟩ := rfl
  have asks_b : b.target? = some ⟨⟨2⟩, "2020-08-01", 1⟩ := rfl
  have medics : ∀ member ∈ (sample.run staff).2.store.ledger.staff,
      member.id = ⟨1⟩ → member.role = .medic := by decide +kernel
  have technicians : ∀ member ∈ (sample.run staff).2.store.ledger.staff,
      member.id = ⟨2⟩ → member.role = .technical := by decide +kernel
  have apart : (sample.run staff).2.store.ledger.Independent ⟨⟨1⟩, "2020-08-01", 1⟩
      ⟨⟨2⟩, "2020-08-01", 1⟩ := by
    refine ⟨by decide, ?_⟩
    rintro x y about_x about_y ⟨-, -, same⟩
    obtain ⟨ada, on_staff, own, role⟩ := about_x.role
    obtain ⟨eva, on_staff', own', role'⟩ := about_y.role
    have medic := medics ada on_staff (own.trans about_x.employee)
    have technical := technicians eva on_staff' (own'.trans about_y.employee)
    rw [← role, ← role', medic, technical] at same
    exact absurd same (by decide)
  have commute := run_independent_requests_commute empty vetted free asks_a asks_b apart
  exact ⟨by decide +kernel, by decide +kernel, by decide +kernel, commute⟩

end Session

end DutyRoster
