import DutyRoster.Exchange.RecordJson
import DutyRoster.Exchange.FileFault
import DutyRoster.Text.Octets

/-!
# Loading settings

A settings file is JSON. What it leaves open has its default, and settings under which nothing could
be assigned are refused.
-/

set_option autoImplicit false

namespace DutyRoster

/-- The reasons for which settings are refused. -/
inductive ConfigError where
  | file (fault : FileFault)
  | misshapen
  | invalid (reason : String)
deriving DecidableEq, Repr

/-- What was being done when a settings file was refused, if it was not yet understood. -/
def ConfigError.context? (path : String) : ConfigError → Option String
  | .file _ => some ("reading config " ++ path)
  | .misshapen => some ("parsing config " ++ path)
  | .invalid _ => none

/-- The wording of a refusal, followed by the wordings of what led to it. -/
def ConfigError.causes (path : String) (e : ConfigError) : List String :=
  let reason := match e with
    | .file fault => fault.message
    | .misshapen => "the settings are not in the expected form"
    | .invalid reason => reason
  (e.context? path).toList ++ [reason]

/-- Reads the octets of a settings file. -/
def readConfig (octets : List UInt8) : Except ConfigError RosterConfig :=
  match (Json.Value.read? (Text.decode octets)).bind RosterConfig.ofJson? with
  | none => .error .misshapen
  | some config => config.validate.mapError .invalid

/-- Loads a settings file, given what looking for it found. -/
def loadConfig (file : Except FileFault (List UInt8)) : Except ConfigError RosterConfig :=
  (file.mapError .file).bind readConfig

end DutyRoster
