import MonitorFleet.Config.Basic
import MonitorFleet.Json.Text

/-!
# Writing settings

Settings are written as an object with a field on each line, indented by two blanks for each
bracket around it, in the order of their declaration.
-/

namespace MonitorFleet

/-- A field of an object, on a line of its own. -/
def Json.writeField (indent : Nat) (key : String) (value : List Char) : List Char :=
  '\n' :: List.replicate indent ' ' ++ Json.writeText key ++ [':', ' '] ++ value

/-- An object of fields that are written already, closed at an indentation. -/
def Json.writeObject (indent : Nat) : List (List Char) → List Char
  | [] => ['\x7b', '\x7d']
  | field :: fields =>
    '\x7b' :: field ++ fields.flatMap (fun f => ',' :: f) ++
      '\n' :: List.replicate indent ' ' ++ ['\x7d']

/-- A whole number. -/
def Json.writeNatural (n : Nat) : List Char := Nat.toDigits 10 n

def RetryConfig.write (c : RetryConfig) : List Char :=
  Json.writeObject 2 [
    Json.writeField 4 "max_attempts" (Json.writeNatural c.maxAttempts.toNat),
    Json.writeField 4 "delay_secs" (Json.writeNatural c.delaySecs.toNat)]

/-- The text of settings. -/
def Config.text (c : Config) : String :=
  String.ofList (Json.writeObject 0 [
    Json.writeField 2 "monitor_port" (Json.writeNatural c.monitorPort.toNat),
    Json.writeField 2 "monitor_selector" (Json.writeText c.monitorSelector),
    Json.writeField 2 "namespace" (Json.writeText c.namespaceName),
    Json.writeField 2 "session_label_key" (Json.writeText c.sessionLabelKey),
    Json.writeField 2 "collection_duration_secs"
      (Json.writeNatural c.collectionDurationSecs.toNat),
    Json.writeField 2 "sysinfo_retry" c.sysinfoRetry.write])

end MonitorFleet
