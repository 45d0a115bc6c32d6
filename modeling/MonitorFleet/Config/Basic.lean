import MonitorFleet.Retry
import MonitorFleet.Text.Split

/-!
# Settings

The settings of a session. The monitors of a session carry one label, which the settings give as
`key=value`: `Config.monitorLabel?` takes it apart, and settings are valid only if they have one
and allow an attempt at least.
-/

namespace MonitorFleet

/-- How the retrieval of system information is retried. -/
structure RetryConfig where
  maxAttempts : UInt32
  delaySecs : UInt64
  deriving DecidableEq, Repr

namespace RetryConfig

def default : RetryConfig := ⟨10, 4⟩

def policy (c : RetryConfig) : RetryPolicy := .new c.maxAttempts (.ofSecs c.delaySecs.toNat)

end RetryConfig

/-- The settings of a session. -/
structure Config where
  monitorPort : UInt16
  monitorSelector : String
  namespaceName : String
  /-- The key of the label that every pod of a session carries. -/
  sessionLabelKey : String
  collectionDurationSecs : UInt32
  sysinfoRetry : RetryConfig
  deriving DecidableEq, Repr

namespace Config

def default : Config where
  monitorPort := 8451
  monitorSelector := "role=monitor"
  namespaceName := "default"
  sessionLabelKey := "knb-session"
  collectionDurationSecs := 5
  sysinfoRetry := .default

/-- The name of the settings' file in a session's directory. -/
def fileName : String := "config.json"

/-- Whether a text can be the key or the value of a monitor label: it is not empty and holds
nothing that a selector would read as the end of a term. -/
def isLabelPart (cs : List Char) : Bool :=
  cs ≠ [] && cs.all fun c => c ≠ ',' && c ≠ '=' && c ≠ '!' && c ≠ ' '

/-- The label of a selector that is a single `key=value`. -/
def labelOf? (selector : String) : Option (String × String) :=
  match Text.cutAt '=' selector.toList with
  | some (key, value) =>
    if isLabelPart key && isLabelPart value then some (String.ofList key, String.ofList value)
    else none
  | none => none

/-- The label of the monitors. -/
def monitorLabel? (c : Config) : Option (String × String) := labelOf? c.monitorSelector

/-- What is wrong with settings, if anything is. -/
def fault? (c : Config) : Option Error :=
  if c.sysinfoRetry.maxAttempts = 0 then
    some (.invalidConfig "sysinfo_retry.max_attempts must be at least 1")
  else if c.monitorLabel?.isNone then
    some (.invalidConfig
      s!"monitor_selector must be a single key=value label, got '{c.monitorSelector}'")
  else none

end Config

end MonitorFleet
