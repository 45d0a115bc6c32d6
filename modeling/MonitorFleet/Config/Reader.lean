import MonitorFleet.Config.Basic
import MonitorFleet.Json.Fields

/-!
# Reading settings

Settings are an object or a list in JSON. A field that is not given has its default.
-/

namespace MonitorFleet

/-- The retry settings given so far. -/
structure RetryConfig.Given where
  maxAttempts : Option UInt32 := none
  delaySecs : Option UInt64 := none

namespace RetryConfig

/-- The settings with the defaults filled in. -/
def Given.complete (g : Given) : RetryConfig where
  maxAttempts := g.maxAttempts.getD default.maxAttempts
  delaySecs := g.delaySecs.getD default.delaySecs

/-- The fields of retry settings. -/
def shape : Json.Shape Given where
  expected := "struct RetryConfig"
  keys := ["max_attempts", "delay_secs"]
  isGiven g
    | 0 => g.maxAttempts.isSome
    | _ => g.delaySecs.isSome
  readField
    | 0, g => fun cs => (Json.readNatural UInt32.size "u32" cs).map
        (Json.Read.map fun n => { g with maxAttempts := some n.toUInt32 })
    | _, g => fun cs => (Json.readNatural UInt64.size "u64" cs).map
        (Json.Read.map fun n => { g with delaySecs := some n.toUInt64 })

def read : Json.Reader RetryConfig := fun cs =>
  (shape.read {} cs).map (Json.Read.map Given.complete)

end RetryConfig

/-- The settings given so far. -/
structure Config.Given where
  monitorPort : Option UInt16 := none
  monitorSelector : Option String := none
  namespaceName : Option String := none
  sessionLabelKey : Option String := none
  collectionDurationSecs : Option UInt32 := none
  sysinfoRetry : Option RetryConfig := none

namespace Config

/-- The settings with the defaults filled in. -/
def Given.complete (g : Given) : Config where
  monitorPort := g.monitorPort.getD default.monitorPort
  monitorSelector := g.monitorSelector.getD default.monitorSelector
  namespaceName := g.namespaceName.getD default.namespaceName
  sessionLabelKey := g.sessionLabelKey.getD default.sessionLabelKey
  collectionDurationSecs := g.collectionDurationSecs.getD default.collectionDurationSecs
  sysinfoRetry := g.sysinfoRetry.getD default.sysinfoRetry

/-- The fields of settings. -/
def shape : Json.Shape Given where
  expected := "struct Config"
  keys := ["monitor_port", "monitor_selector", "namespace", "session_label_key",
    "collection_duration_secs", "sysinfo_retry"]
  isGiven g
    | 0 => g.monitorPort.isSome
    | 1 => g.monitorSelector.isSome
    | 2 => g.namespaceName.isSome
    | 3 => g.sessionLabelKey.isSome
    | 4 => g.collectionDurationSecs.isSome
    | _ => g.sysinfoRetry.isSome
  readField
    | 0, g => fun cs => (Json.readNatural UInt16.size "u16" cs).map
        (Json.Read.map fun n => { g with monitorPort := some n.toUInt16 })
    | 1, g => fun cs => (Json.readString cs).map
        (Json.Read.map fun s => { g with monitorSelector := some s })
    | 2, g => fun cs => (Json.readString cs).map
        (Json.Read.map fun s => { g with namespaceName := some s })
    | 3, g => fun cs => (Json.readString cs).map
        (Json.Read.map fun s => { g with sessionLabelKey := some s })
    | 4, g => fun cs => (Json.readNatural UInt32.size "u32" cs).map
        (Json.Read.map fun n => { g with collectionDurationSecs := some n.toUInt32 })
    | _, g => fun cs => (RetryConfig.read cs).map
        (Json.Read.map fun r => { g with sysinfoRetry := some r })

/-- The settings that a text spells. -/
def parse (content : String) : Except Json.Flaw Config :=
  Json.readDocument (fun cs => (shape.read {} cs).map (Json.Read.map Given.complete)) content

end Config

end MonitorFleet
