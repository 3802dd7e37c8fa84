import DutyRoster.Exchange.ConfigFile
import DutyRoster.Proofs.Exchange.RecordJson
import DutyRoster.Proofs.Text.Octets

/-!
# Settings are the defaults overlaid with what the file says

A settings file need not say everything. `SettingsPart` is what a file can say, and
`SettingsPart.SaidBy` tells which JSON objects say it: its fields may come in any order, there and
in the table of capacities, and may stand among members of any other name. The settings that are
loaded depend on what is said alone, and the defaults stand where nothing is
(`loadConfig_overlays`). A file that says something twice, or gives as a number what is none
(`Misstated`), is refused.
-/

set_option autoImplicit false

namespace DutyRoster

open Json (Value)

section Parts

/-- What can be said of the capacities. -/
structure CapacityPart where
  medic : Option UInt32 := none
  technical : Option UInt32 := none
  administrator : Option UInt32 := none

/-- What can be said of the settings. -/
structure SettingsPart where
  capacity : Option CapacityPart := none
  maxConsecutiveDays : Option UInt32 := none
  bookingHorizonMonths : Option UInt32 := none
  storageTimeoutMs : Option UInt64 := none

/-- A table with those capacities replaced of which something is said. -/
def CapacityPart.over (part : CapacityPart) (base : CapacityTable) : CapacityTable where
  medic := part.medic.getD base.medic
  technical := part.technical.getD base.technical
  administrator := part.administrator.getD base.administrator

/-- Settings with those replaced of which something is said. -/
def SettingsPart.over (part : SettingsPart) (base : RosterConfig) : RosterConfig where
  capacity := (part.capacity.map (·.over base.capacity)).getD base.capacity
  maxConsecutiveDays := part.maxConsecutiveDays.getD base.maxConsecutiveDays
  bookingHorizonMonths := part.bookingHorizonMonths.getD base.bookingHorizonMonths
  storageTimeoutMs := part.storageTimeoutMs.getD base.storageTimeoutMs

/-- The fields of a table of capacities that says a part of it. -/
def CapacityPart.fields (part : CapacityPart) : List (String × Option Value) :=
  [("medic", part.medic.map fun n => .integer n.toNat),
    ("technical", part.technical.map fun n => .integer n.toNat),
    ("administrator", part.administrator.map fun n => .integer n.toNat)]

/-- The fields of settings that say a part of them, with the table of capacities as it is written.
-/
def SettingsPart.fields (part : SettingsPart) (capacity : Option Value) :
    List (String × Option Value) :=
  [("capacity", capacity),
    ("max_consecutive_days", part.maxConsecutiveDays.map fun n => .integer n.toNat),
    ("booking_horizon_months", part.bookingHorizonMonths.map fun n => .integer n.toNat),
    ("storage_timeout_ms", part.storageTimeoutMs.map fun n => .integer n.toNat)]

/-- Whether an object says just this of the capacities, whatever else it says. -/
def CapacityPart.SaidBy (part : CapacityPart) (value : Value) : Prop :=
  value.IsObjectOf part.fields

/-- Whether an object says just this of the settings, whatever else it says. -/
def SettingsPart.SaidBy (part : SettingsPart) (value : Value) : Prop :=
  ∃ capacity, Option.Rel CapacityPart.SaidBy part.capacity capacity ∧
    value.IsObjectOf (part.fields capacity)

end Parts

section Misstatements

/-- Whether an object has two members of a known name, or one that is no whole number below its
limit where there has to be one. -/
def IsAmiss (names : List String) (limits : List (String × Nat))
    (members : List (Option String × Value)) : Prop :=
  (∃ name ∈ names, ∃ first second, [(some name, first), (some name, second)].Sublist members) ∨
    ∃ name limit value, (name, limit) ∈ limits ∧ (some name, value) ∈ members ∧
      ∀ n : Nat, n < limit → value ≠ .integer n

/-- The names of the capacities, with the limits of their numbers. -/
def capacityLimits : List (String × Nat) :=
  [("medic", 2 ^ 32), ("technical", 2 ^ 32), ("administrator", 2 ^ 32)]

/-- The names of the settings that are numbers, with the limits of these. -/
def settingsLimits : List (String × Nat) :=
  [("max_consecutive_days", 2 ^ 32), ("booking_horizon_months", 2 ^ 32),
    ("storage_timeout_ms", 2 ^ 64)]

/-- Whether something is said twice, or wrongly, of the settings or of the capacities in them. -/
inductive Misstated : Value → Prop where
  | settings {members : List (Option String × Value)}
      (amiss : IsAmiss ("capacity" :: settingsLimits.map Prod.fst) settingsLimits members) :
      Misstated (.object members)
  | capacity {members inner : List (Option String × Value)}
      (mem : (some "capacity", .object inner) ∈ members)
      (amiss : IsAmiss (capacityLimits.map Prod.fst) capacityLimits inner) :
      Misstated (.object members)

end Misstatements

section Overlay

/-- What an object says of the capacities is read as the default table with that part replaced. -/
theorem CapacityPart.SaidBy.ofJson?_eq {part : CapacityPart} {value : Value}
    (said : part.SaidBy value) : CapacityTable.ofJson? value = some (part.over {}) := by
  have fields : value.fields? ["medic", "technical", "administrator"] =
      some (part.fields.map Prod.snd) := said.fields?_eq (by simp [CapacityPart.fields])
  simp only [CapacityTable.ofJson?, fields, CapacityPart.fields, List.map_cons, List.map_nil,
    Json.fieldOr_map Value.unsigned32?_toNat, Option.bind_eq_bind, Option.bind_some,
    CapacityPart.over]

/-- What an object says of the settings is read as the default settings with that part replaced. -/
theorem SettingsPart.SaidBy.ofJson?_eq {part : SettingsPart} {value : Value}
    (said : part.SaidBy value) : RosterConfig.ofJson? value = some (part.over {}) := by
  obtain ⟨capacity, said_capacity, said⟩ := said
  have fields : value.fields? ["capacity", "max_consecutive_days", "booking_horizon_months",
      "storage_timeout_ms"] = some ((part.fields capacity).map Prod.snd) :=
    said.fields?_eq (by simp [SettingsPart.fields])
  have table : Json.fieldOr {} CapacityTable.ofJson? capacity =
      some ((part.capacity.map (·.over {})).getD {}) := by
    generalize part.capacity = stated at said_capacity
    cases said_capacity with
    | none => rfl
    | some said_table => exact said_table.ofJson?_eq
  simp only [RosterConfig.ofJson?, fields, SettingsPart.fields, List.map_cons, List.map_nil, table,
    Json.fieldOr_map Value.unsigned32?_toNat, Json.fieldOr_map Value.unsigned64?_toNat,
    Option.bind_eq_bind, Option.bind_some, SettingsPart.over]

/-- Limits under which something can be assigned. -/
def RosterConfig.HasLimits (config : RosterConfig) : Prop :=
  0 < config.maxConsecutiveDays ∧ 0 < config.bookingHorizonMonths

/-- Settings whose limits leave something to be assigned are valid as they are. -/
theorem RosterConfig.validate_of_hasLimits {config : RosterConfig} (limits : config.HasLimits) :
    config.validate = .ok config := by
  rw [validate, if_neg (UInt32.pos_iff_ne_zero.mp limits.1),
    if_neg (UInt32.pos_iff_ne_zero.mp limits.2)]

/-- Settings whose limits leave nothing to be assigned are refused, with a reason. -/
theorem RosterConfig.exists_validate_eq_error {config : RosterConfig}
    (no_limits : ¬ config.HasLimits) : ∃ reason, config.validate = .error reason := by
  unfold validate
  split
  · exact ⟨_, rfl⟩
  split
  · exact ⟨_, rfl⟩
  · rename_i days months
    exact absurd ⟨UInt32.pos_iff_ne_zero.mpr days, UInt32.pos_iff_ne_zero.mpr months⟩ no_limits

/-- Valid settings have limits that leave something to be assigned. -/
theorem RosterConfig.hasLimits_of_validate {config valid : RosterConfig}
    (validated : config.validate = .ok valid) : valid.HasLimits := by
  by_cases limits : config.HasLimits
  · rw [validate_of_hasLimits limits, Except.ok.injEq] at validated
    exact validated ▸ limits
  · obtain ⟨reason, refused⟩ := exists_validate_eq_error limits
    rw [refused] at validated
    cases validated

/-- Settings that are loaded have been found valid. -/
theorem exists_validate_of_loadConfig {file : Except FileFault (List UInt8)} {config : RosterConfig}
    (loaded : loadConfig file = .ok config) :
    ∃ read : RosterConfig, read.validate = .ok config := by
  cases file with
  | error fault => cases loaded
  | ok octets =>
    change readConfig octets = .ok config at loaded
    unfold readConfig at loaded
    split at loaded
    · cases loaded
    · rename_i read _
      refine ⟨read, ?_⟩
      cases validated : read.validate with
      | error reason =>
        rw [validated] at loaded
        cases loaded
      | ok valid =>
        rw [validated] at loaded
        cases loaded
        rfl

/-- Settings that could be read are loaded if they are valid. -/
theorem loadConfig_ok {octets : List UInt8} {value : Value} {config : RosterConfig}
    (read : Value.read? (Text.decode octets) = some value)
    (said : RosterConfig.ofJson? value = some config) :
    loadConfig (.ok octets) = config.validate.mapError .invalid := by
  have found : (Value.read? (Text.decode octets)).bind RosterConfig.ofJson? = some config := by
    rw [read, Option.bind_some, said]
  simp only [loadConfig, Except.mapError, Except.bind, readConfig, found]

end Overlay

section Refusals

variable {members : List (Option String × Value)} {names : List String}
  {limits : List (String × Nat)} {fields : List (Option Value)}

/-- An object with something amiss either has no fields, or has one among them that is no number
below its limit. -/
theorem IsAmiss.exists_field (amiss : IsAmiss names limits members)
    (limited : ∀ limit ∈ limits, limit.1 ∈ names)
    (found : (Value.object members).fields? names = some fields) :
    ∃ name limit value, (name, limit) ∈ limits ∧ Value.member? members name = some value ∧
      ∀ n : Nat, n < limit → value ≠ .integer n := by
  obtain ⟨name, known, first, second, twice⟩ | ⟨name, limit, value, limited_name, mem, no_number⟩ :=
    amiss
  · rw [Value.fields?_of_twice known twice] at found
    cases found
  · have once := (Value.fields?_object_eq_some_iff.mp found).2.1 name (limited _ limited_name)
    exact ⟨name, limit, value, limited_name, Value.member?_of_once mem once, no_number⟩

/-- Capacities of which something is said twice, or wrongly, cannot be read. -/
theorem CapacityTable.ofJson?_of_isAmiss
    (amiss : IsAmiss (capacityLimits.map Prod.fst) capacityLimits members) :
    CapacityTable.ofJson? (.object members) = none := by
  refine Option.eq_none_iff_forall_ne_some.mpr fun table read => ?_
  obtain ⟨fields, found, read⟩ := Option.bind_eq_some_iff.mp read
  obtain ⟨name, limit, value, limited, said, no_number⟩ :=
    amiss.exists_field (fun _ mem => List.mem_map_of_mem mem) found
  obtain rfl := (Value.fields?_object_eq_some_iff.mp found).2.2
  simp only [capacityLimits, List.mem_cons, List.not_mem_nil, or_false, Prod.mk.injEq] at limited
  rcases limited with ⟨rfl, rfl⟩ | ⟨rfl, rfl⟩ | ⟨rfl, rfl⟩ <;>
    simp [said, Json.fieldOr, Value.unsigned32?_eq_none no_number] at read

/-- Settings of which something is said twice, or wrongly, cannot be read. -/
theorem Misstated.ofJson?_eq_none {value : Value} (misstated : Misstated value) :
    RosterConfig.ofJson? value = none := by
  refine Option.eq_none_iff_forall_ne_some.mpr fun config read => ?_
  obtain ⟨fields, found, read⟩ := Option.bind_eq_some_iff.mp read
  cases misstated with
  | settings amiss =>
    obtain ⟨name, limit, value, limited, said, no_number⟩ :=
      amiss.exists_field (fun _ mem => List.mem_cons_of_mem _ (List.mem_map_of_mem mem)) found
    obtain rfl := (Value.fields?_object_eq_some_iff.mp found).2.2
    simp only [settingsLimits, List.mem_cons, List.not_mem_nil, or_false, Prod.mk.injEq] at limited
    rcases limited with ⟨rfl, rfl⟩ | ⟨rfl, rfl⟩ | ⟨rfl, rfl⟩
    · simp [said, Json.fieldOr, Value.unsigned32?_eq_none no_number] at read
    · simp [said, Json.fieldOr, Value.unsigned32?_eq_none no_number] at read
    · simp [said, Json.fieldOr, Value.unsigned64?_eq_none no_number] at read
  | capacity mem amiss =>
    obtain ⟨-, once, rfl⟩ := Value.fields?_object_eq_some_iff.mp found
    have said := Value.member?_of_once mem (once "capacity" (by simp))
    simp [said, Json.fieldOr, CapacityTable.ofJson?_of_isAmiss amiss] at read

end Refusals

/-- A value is read back from the octets of its text. -/
theorem read?_encode_compact {value : Value} (legible : value.Legible) :
    Value.read? (Text.decode (Text.encode value.compact)) = some value := by
  rw [Text.decode_encode]
  simpa [Value.ofText?] using Value.ofText?_compact legible

/-- Settings are the defaults overlaid with what the file says. Whatever the order of the members
and whatever stands among them, a file that says a part of the settings is loaded as the defaults
with just that part replaced, if the limits that result leave something to be assigned, and refused
if not. A file that says something twice under a name that is known at its level, or gives a number
that is none or that does not fit, is refused. So all settings that are loaded have limits that
leave something to be assigned, and all settings that have them are loaded again from what is
written for them. -/
theorem loadConfig_overlays :
    (∀ octets value part, Value.read? (Text.decode octets) = some value →
      SettingsPart.SaidBy part value →
      ((part.over {}).HasLimits → loadConfig (.ok octets) = .ok (part.over {})) ∧
        (¬ (part.over {}).HasLimits →
          ∃ reason, loadConfig (.ok octets) = .error (.invalid reason))) ∧
    (∀ octets value, Value.read? (Text.decode octets) = some value → Misstated value →
      loadConfig (.ok octets) = .error .misshapen) ∧
    (∀ file config, loadConfig file = .ok config → config.HasLimits) ∧
    (∀ config : RosterConfig, config.HasLimits →
      loadConfig (.ok (Text.encode config.toJson.compact)) = .ok config) := by
  refine ⟨fun octets value part read said => ⟨fun limits => ?_, fun no_limits => ?_⟩,
    fun octets value read misstated => ?_, fun file config loaded => ?_, fun config limits => ?_⟩
  · rw [loadConfig_ok read said.ofJson?_eq, RosterConfig.validate_of_hasLimits limits]
    rfl
  · obtain ⟨reason, refused⟩ := RosterConfig.exists_validate_eq_error no_limits
    exact ⟨reason, by rw [loadConfig_ok read said.ofJson?_eq, refused]; rfl⟩
  · have unread : (Value.read? (Text.decode octets)).bind RosterConfig.ofJson? = none := by
      rw [read, Option.bind_some, misstated.ofJson?_eq_none]
    simp only [loadConfig, Except.mapError, Except.bind, readConfig, unread]
  · obtain ⟨read, validated⟩ := exists_validate_of_loadConfig loaded
    exact RosterConfig.hasLimits_of_validate validated
  · have read := read?_encode_compact (RosterConfig.faithful.legible config)
    rw [loadConfig_ok read (RosterConfig.faithful.reads_back config trivial),
      RosterConfig.validate_of_hasLimits limits]
    rfl

/-- Settings that name some of the fields out of order and among others. -/
def mixedSettings : Value :=
  .record [("note", .array [.str "draft", .record [("capacity", .null)]]),
    ("booking_horizon_months", .integer 2),
    ("capacity", .record [("rooms", .null), ("technical", .integer 7), ("beds", .bool true)]),
    ("max_consecutive_days", .integer 1)]

/-- What they say. -/
def mixedPart : SettingsPart where
  capacity := some { technical := some 7 }
  maxConsecutiveDays := some 1
  bookingHorizonMonths := some 2

/-- Settings with a capacity that is said twice. -/
def repeatedSettings : Value :=
  .record [("capacity", .record [("medic", .integer 1), ("technical", .null),
    ("medic", .integer 1)])]

/-- The mixed settings say that part, out of order and among members of other names. -/
theorem mixedPart_saidBy : mixedPart.SaidBy mixedSettings := by
  have table : CapacityPart.SaidBy { technical := some 7 }
      (.record [("rooms", .null), ("technical", .integer 7), ("beds", .bool true)]) :=
    ⟨_, [("rooms", .null), ("beds", .bool true)], rfl, List.Perm.swap _ _ _,
      by simp [CapacityPart.fields]⟩
  let note : String × Value := ("note", .array [.str "draft", .record [("capacity", .null)]])
  let months : String × Value := ("booking_horizon_months", .integer 2)
  refine ⟨some _, .some table, _, [note], rfl, ?_, by simp [SettingsPart.fields, note]⟩
  have months_last (others : List (String × Value)) :
      ([months] ++ others).Perm (others ++ [months]) := List.perm_append_comm
  exact ((months_last _).append_left [note]).trans List.perm_append_comm

/-- Three settings are taken from the one file, and the other is refused. -/
theorem loadConfig_overlays_mixedSettings :
    loadConfig (.ok (Text.encode mixedSettings.compact)) =
        .ok { capacity := { technical := 7 }, maxConsecutiveDays := 1, bookingHorizonMonths := 2 } ∧
      loadConfig (.ok (Text.encode repeatedSettings.compact)) = .error .misshapen := by
  have legible_mixed : mixedSettings.Legible := by
    simp [mixedSettings, Value.Legible, Value.record, Value.tokens, Value.memberTokens,
      Value.itemTokens, Value.str, Json.Token.Legible]
  have legible_repeated : repeatedSettings.Legible := by
    simp [repeatedSettings, Value.Legible, Value.record, Value.tokens, Value.memberTokens,
      Json.Token.Legible]
  have misstated : Misstated repeatedSettings :=
    .capacity (List.mem_singleton.mpr rfl)
      (.inl ⟨"medic", by decide, .integer 1, .integer 1, by simp⟩)
  exact ⟨(loadConfig_overlays.1 _ _ mixedPart (read?_encode_compact legible_mixed)
      mixedPart_saidBy).1 ⟨by decide, by decide⟩,
    loadConfig_overlays.2.1 _ _ (read?_encode_compact legible_repeated) misstated⟩

end DutyRoster
