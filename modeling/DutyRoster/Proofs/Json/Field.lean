import DutyRoster.Json.Field
import DutyRoster.Proofs.Json.Value
import Mathlib.Data.List.Nodup

/-!
# Records are read as they are written

What it takes for a kind of value to survive its JSON text: what is written can be read back, and
nothing is ever read that would not be written so that it can be read again (`Json.Faithful`). Texts
then keep their meaning when they are written anew, and look the same from the second time on
(`Json.Faithful.roundTrips`).

The members of a record are found again under their names (`Json.Value.fields?_record`), and numbers
are read back within the bounds of their type. Members may come in another order, be left out, or
stand among members of other names (`Json.Value.IsObjectOf.fields?_eq`); but an object with two
members of a name that is looked for says nothing (`Json.Value.fields?_of_twice`).
-/

set_option autoImplicit false

namespace DutyRoster.Json

variable {α : Type}

/-- The compact text of a value of some kind. -/
def textOf (write : α → Value) (a : α) : String :=
  String.ofList (write a).compact

/-- The value of some kind that a text is. -/
def parse? (read? : Value → Option α) (text : String) : Option α :=
  (Value.ofText? text).bind read?

/-- Values that fit the format are read back from what is written for them, and nothing else is ever
read. -/
structure Faithful (write : α → Value) (read? : Value → Option α) (fits : α → Prop) : Prop where
  legible : ∀ a, (write a).Legible
  reads_back : ∀ a, fits a → read? (write a) = some a
  fits_of_read : ∀ value a, read? value = some a → fits a

/-- Values that fit are read back from their text. A text that can be read keeps its meaning when
it is written anew, and is written the same from then on. -/
structure RoundTrips (write : α → Value) (read? : Value → Option α) (fits : α → Prop) : Prop where
  value : ∀ a, fits a → parse? read? (textOf write a) = some a
  text : ∀ text a, parse? read? text = some a → parse? read? (textOf write a) = some a
  settles : ∀ text first second, parse? read? text = some first →
    parse? read? (textOf write first) = some second → textOf write second = textOf write first

/-- A kind of value that is written and read faithfully makes the round trip through its text. -/
theorem Faithful.roundTrips {write : α → Value} {read? : Value → Option α} {fits : α → Prop}
    (h : Faithful write read? fits) : RoundTrips write read? fits := by
  have value (a : α) (fit : fits a) : parse? read? (textOf write a) = some a := by
    rw [parse?, textOf, Value.ofText?_compact (h.legible a), Option.bind_some, h.reads_back a fit]
  have text (text : String) (a : α) (read : parse? read? text = some a) :
      parse? read? (textOf write a) = some a := by
    obtain ⟨found, -, read⟩ := Option.bind_eq_some_iff.mp read
    exact value a (h.fits_of_read found a read)
  refine ⟨value, text, fun original first second read again => ?_⟩
  rw [text original first read, Option.some.injEq] at again
  rw [again]

namespace Value

/-- A member is found under its name if all names are different. -/
theorem member?_of_mem {members : List (String × Value)} (nodup : (members.map Prod.fst).Nodup)
    {member : String × Value} (mem : member ∈ members) :
    member? (members.map fun (name, value) => (some name, value)) member.1 = some member.2 := by
  induction members with
  | nil => cases mem
  | cons first rest ih =>
    rw [List.map_cons, List.nodup_cons] at nodup
    rcases List.mem_cons.mp mem with rfl | mem
    · simp [member?]
    · have other : first.1 ≠ member.1 := fun same =>
        nodup.1 (same ▸ List.mem_map_of_mem mem)
      have found := ih nodup.2 mem
      simpa [member?, other] using found

/-- A name occurs in an object as often as it does among the members that the object was made of. -/
theorem occurrences_record (members : List (String × Value)) (name : String) :
    occurrences (members.map fun (name, value) => (some name, value)) name =
      (members.map Prod.fst).count name := by
  simp [occurrences, List.count, List.countP_map, Function.comp_def]
  rfl

/-- The fields of a record are found again. -/
theorem fields?_record (members : List (String × Value)) (nodup : (members.map Prod.fst).Nodup) :
    (record members).fields? (members.map Prod.fst) =
      some (members.map fun member => some member.2) := by
  have readable : (members.map fun (name, value) => (some name, value)).all
      (fun member => member.1.isSome) = true := by simp
  have once : ((members.map Prod.fst).all fun name =>
      occurrences (members.map fun (name, value) => (some name, value)) name ≤ 1) = true := by
    simp only [List.all_eq_true, decide_eq_true_eq, occurrences_record]
    exact fun name _ => List.nodup_iff_count_le_one.mp nodup name
  rw [record, fields?, if_pos ⟨readable, once⟩, List.map_map]
  congr 1
  exact List.map_congr_left fun member mem => member?_of_mem nodup mem

/-- An integer within the bounds is read as it is. -/
theorem integerWithin?_integer {low high n : Int} (within : low ≤ n ∧ n ≤ high) :
    integerWithin? low high (.integer n) = some n :=
  if_pos within

/-- An integer that is read lies within the bounds. -/
theorem of_integerWithin? {low high n : Int} {value : Value}
    (read : integerWithin? low high value = some n) : low ≤ n ∧ n ≤ high := by
  cases value with
  | integer m =>
    simp only [integerWithin?, Option.ite_none_right_eq_some, Option.some.injEq] at read
    rw [← read.2]
    exact read.1
  | _ => cases read

/-- A word of 32 bits is read from its number. -/
theorem unsigned32?_toNat (n : UInt32) : unsigned32? (.integer n.toNat) = some n := by
  have bound := n.toNat_lt
  rw [unsigned32?, integerWithin?_integer (by omega)]
  simp

/-- A word of 64 bits is read from its number. -/
theorem unsigned64?_toNat (n : UInt64) : unsigned64? (.integer n.toNat) = some n := by
  have bound := n.toNat_lt
  rw [unsigned64?, integerWithin?_integer (by omega)]
  simp

/-- Only an integer that is written as a whole number is read as one. -/
theorem eq_integer_of_integerWithin? {low high n : Int} {value : Value}
    (read : integerWithin? low high value = some n) : value = .integer n := by
  cases value with
  | integer m =>
    simp only [integerWithin?, Option.ite_none_right_eq_some, Option.some.injEq] at read
    rw [read.2]
  | _ => cases read

/-- Only the plain number that a word of 32 bits is reads as that word. -/
theorem unsigned32?_eq_some_iff {value : Value} {n : UInt32} :
    value.unsigned32? = some n ↔ value = .integer n.toNat := by
  constructor
  · intro read
    obtain ⟨m, within, rfl⟩ := Option.map_eq_some_iff.mp read
    have bounds := of_integerWithin? within
    rw [eq_integer_of_integerWithin? within, UInt32.toNat_ofNat', Nat.mod_eq_of_lt (by omega),
      Int.toNat_of_nonneg bounds.1]
  · rintro rfl
    exact unsigned32?_toNat n

/-- Only the plain number that a word of 64 bits is reads as that word. -/
theorem unsigned64?_eq_some_iff {value : Value} {n : UInt64} :
    value.unsigned64? = some n ↔ value = .integer n.toNat := by
  constructor
  · intro read
    obtain ⟨m, within, rfl⟩ := Option.map_eq_some_iff.mp read
    have bounds := of_integerWithin? within
    rw [eq_integer_of_integerWithin? within, UInt64.toNat_ofNat', Nat.mod_eq_of_lt (by omega),
      Int.toNat_of_nonneg bounds.1]
  · rintro rfl
    exact unsigned64?_toNat n

/-- Nothing but a number below 2^32 is read as a word of 32 bits. -/
theorem unsigned32?_eq_none {value : Value}
    (no_number : ∀ n : Nat, n < 2 ^ 32 → value ≠ .integer n) :
    value.unsigned32? = none :=
  Option.eq_none_iff_forall_ne_some.mpr fun n read =>
    no_number n.toNat n.toNat_lt (unsigned32?_eq_some_iff.mp read)

/-- Nothing but a number below 2^64 is read as a word of 64 bits. -/
theorem unsigned64?_eq_none {value : Value}
    (no_number : ∀ n : Nat, n < 2 ^ 64 → value ≠ .integer n) :
    value.unsigned64? = none :=
  Option.eq_none_iff_forall_ne_some.mpr fun n read =>
    no_number n.toNat n.toNat_lt (unsigned64?_eq_some_iff.mp read)

section Members

variable {members : List (Option String × Value)} {name : String} {value : Value}
  {names : List String} {fields : List (Option Value)}

/-- What no member is named is not found. -/
theorem member?_of_never (never : occurrences members name = 0) : member? members name = none := by
  have nowhere : members.find? (fun member => member.1 = some name) = none := by
    simpa [occurrences, List.countP_eq_zero] using never
  rw [member?, nowhere, Option.map_none]

/-- The only member of a name is found under it, wherever it stands. -/
theorem member?_of_once (mem : (some name, value) ∈ members)
    (once : occurrences members name ≤ 1) : member? members name = some value := by
  obtain ⟨before, after, rfl⟩ := List.append_of_mem mem
  simp only [occurrences, List.countP_append, List.countP_cons, decide_true, if_true] at once
  have none_before : before.countP (fun member => member.1 = some name) = 0 := by omega
  have nowhere : before.find? (fun member => member.1 = some name) = none := by
    simpa [List.countP_eq_zero] using none_before
  simp [member?, List.find?_append, nowhere]

/-- An object has the fields of a record exactly if all of its names can be read and none of those
that are looked for occurs twice; the fields are then what is found under these. -/
theorem fields?_object_eq_some_iff : (Value.object members).fields? names = some fields ↔
    (∀ member ∈ members, member.1.isSome = true) ∧
      (∀ name ∈ names, occurrences members name ≤ 1) ∧ names.map (member? members) = fields := by
  rw [fields?, Option.ite_none_right_eq_some, Option.some.injEq, List.all_eq_true,
    List.all_eq_true, and_assoc]
  simp only [decide_eq_true_eq]

/-- An object with two members of a name that is looked for says nothing. -/
theorem fields?_of_twice {first second : Value} (known : name ∈ names)
    (twice : [(some name, first), (some name, second)].Sublist members) :
    (Value.object members).fields? names = none := by
  have count : List.countP (·.1 = some name) [(some name, first), (some name, second)] ≤
      occurrences members name := twice.countP_le
  simp only [List.countP_cons, List.countP_nil, decide_true, if_true] at count
  refine Option.eq_none_iff_forall_ne_some.mpr fun fields found => ?_
  have once := (fields?_object_eq_some_iff.mp found).2.1 name known
  omega

/-- The members of a record some of whose fields may be left out. -/
def stated (fields : List (String × Option Value)) : List (String × Value) :=
  fields.filterMap fun field => field.2.map (field.1, ·)

/-- The members are the fields that something is said of. -/
theorem mem_stated {fields : List (String × Option Value)} {member : String × Value} :
    member ∈ stated fields ↔ (member.1, some member.2) ∈ fields := by
  obtain ⟨name, value⟩ := member
  simp only [stated, List.mem_filterMap, Option.map_eq_some_iff, Prod.mk.injEq]
  constructor
  · rintro ⟨⟨_, said⟩, mem, value, rfl, rfl, rfl⟩
    exact mem
  · exact fun mem => ⟨_, mem, value, rfl, rfl, rfl⟩

/-- The names of the members are names of fields, in their order. -/
theorem map_fst_stated_sublist (fields : List (String × Option Value)) :
    ((stated fields).map Prod.fst).Sublist (fields.map Prod.fst) := by
  induction fields with
  | nil => exact List.Sublist.refl _
  | cons field rest ih =>
    obtain ⟨name, _ | value⟩ := field
    · exact ih.cons name
    · exact ih.cons_cons name

/-- Whether an object has just the given ones of the fields of a record, in whatever order and with
whatever members of other names among them. -/
def IsObjectOf (fields : List (String × Option Value)) (value : Value) : Prop :=
  ∃ members unknown, value = record members ∧ members.Perm (stated fields ++ unknown) ∧
    ∀ member ∈ unknown, member.1 ∉ fields.map Prod.fst

/-- The fields of a record are found whatever their order, whichever of them are left out, and
whatever members of other names stand among them. -/
theorem IsObjectOf.fields?_eq {fields : List (String × Option Value)}
    (object : IsObjectOf fields value) (nodup : (fields.map Prod.fst).Nodup) :
    value.fields? (fields.map Prod.fst) = some (fields.map Prod.snd) := by
  obtain ⟨members, unknown, rfl, order, others⟩ := object
  -- a name of a field is never that of another member, so it occurs as often as it is stated
  have known_once (name : String) (known : name ∈ fields.map Prod.fst) :
      (members.map Prod.fst).count name = ((stated fields).map Prod.fst).count name := by
    have not_unknown : (unknown.map Prod.fst).count name = 0 :=
      List.count_eq_zero.mpr fun mem =>
        have ⟨member, mem, same⟩ := List.mem_map.mp mem
        others member mem (same ▸ known)
    rw [(order.map Prod.fst).count_eq, List.map_append, List.count_append, not_unknown,
      Nat.add_zero]
  have once (name : String) (known : name ∈ fields.map Prod.fst) :
      occurrences (members.map fun (name, value) => (some name, value)) name ≤ 1 := by
    rw [occurrences_record, known_once name known]
    exact List.nodup_iff_count_le_one.mp (nodup.sublist (map_fst_stated_sublist fields)) name
  have readable : ∀ member ∈ members.map fun (name, value) => (some name, value),
      member.1.isSome = true := List.forall_mem_map.mpr fun _ _ => rfl
  refine fields?_object_eq_some_iff.mpr ⟨readable, once, ?_⟩
  rw [List.map_map]
  refine List.map_congr_left fun ⟨name, said⟩ mem => ?_
  have known : name ∈ fields.map Prod.fst := List.mem_map_of_mem mem
  cases said with
  | some value =>
    have found : (name, value) ∈ members :=
      order.mem_iff.mpr (List.mem_append_left unknown (mem_stated.mpr mem))
    exact member?_of_once (List.mem_map.mpr ⟨_, found, rfl⟩) (once name known)
  | none =>
    have not_stated : name ∉ (stated fields).map Prod.fst := by
      intro again
      obtain ⟨⟨_, value⟩, stated_mem, rfl⟩ := List.mem_map.mp again
      cases List.inj_on_of_nodup_map nodup mem (mem_stated.mp stated_mem) rfl
    refine member?_of_never ?_
    rw [occurrences_record, known_once name known, List.count_eq_zero]
    exact not_stated

end Members

end Value

/-- A field that may be left out is read back, and has its default where it is. -/
theorem fieldOr_map {write : α → Value} {read : Value → Option α}
    (reads_back : ∀ a, read (write a) = some a) (default : α) (said : Option α) :
    fieldOr default read (said.map write) = some (said.getD default) := by
  cases said with
  | none => rfl
  | some a => exact reads_back a

end DutyRoster.Json
