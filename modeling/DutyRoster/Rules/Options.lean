import DutyRoster.Rules.Capacity

/-!
# The limits in force

The three limits under which requests are decided, and the settings file that sets them together
with the time to wait for the storage.
-/

set_option autoImplicit false

namespace DutyRoster

/-- The limits under which a request to assign is decided. -/
structure Options where
  capacity : CapacityTable := {}
  maxConsecutiveDays : UInt32 := 6
  bookingHorizonMonths : UInt32 := 3
deriving DecidableEq, Repr

/-- The settings of a roster. Whatever they leave open has its default. -/
structure RosterConfig where
  capacity : CapacityTable := {}
  maxConsecutiveDays : UInt32 := 6
  bookingHorizonMonths : UInt32 := 3
  storageTimeoutMs : UInt64 := 5000
deriving DecidableEq, Repr

namespace RosterConfig

/-- The limits that the settings set. -/
def options (config : RosterConfig) : Options :=
  ⟨config.capacity, config.maxConsecutiveDays, config.bookingHorizonMonths⟩

/-- The longest time, in milliseconds, that a store in a file can be told to wait for its lock. -/
def maxWaitMs : Nat := 2147483647

/-- Whether a store in a file can be told to wait as long as the settings say. -/
def canWait (config : RosterConfig) : Bool :=
  config.storageTimeoutMs.toNat ≤ maxWaitMs

/-- Settings under which nothing could ever be assigned are refused, with the reason. -/
def validate (config : RosterConfig) : Except String RosterConfig :=
  if config.maxConsecutiveDays = 0 then .error "max_consecutive_days must be > 0"
  else if config.bookingHorizonMonths = 0 then .error "booking_horizon_months must be > 0"
  else .ok config

end RosterConfig

end DutyRoster
