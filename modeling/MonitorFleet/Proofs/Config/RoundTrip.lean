import MonitorFleet.Proofs.Config.Loading
import MonitorFleet.Proofs.Json.Writing

/-!
# Settings are read as they were written

The text of settings is an object whose fields are numbers, strings and one object of the same
kind. So it is in the format of settings, with every field given, and is read as the settings that
it was written for.

## What is proved

* `RetryConfig.spelledBy_write`: how retry settings are written spells them.
* `Config.parse_text`: all settings are read as they were written.
-/

namespace MonitorFleet

open Json

/-- The fields of retry settings, as they are written. -/
def RetryConfig.fields (c : RetryConfig) : List (String × List Char) :=
  [("max_attempts", writeNatural c.maxAttempts.toNat),
    ("delay_secs", writeNatural c.delaySecs.toNat)]

/-- How retry settings are written spells them. -/
theorem RetryConfig.spelledBy_write (c : RetryConfig) : SpelledBy c.write c := by
  have gives := gives_writeObject 4 2 (by simp [fields] : (c.fields.map Prod.fst).Nodup)
  exact ⟨_, gives, rfl, rfl⟩

namespace Config

/-- The fields of settings, as they are written. -/
def fields (c : Config) : List (String × List Char) :=
  [("monitor_port", writeNatural c.monitorPort.toNat),
    ("monitor_selector", writeText c.monitorSelector),
    ("namespace", writeText c.namespaceName),
    ("session_label_key", writeText c.sessionLabelKey),
    ("collection_duration_secs", writeNatural c.collectionDurationSecs.toNat),
    ("sysinfo_retry", c.sysinfoRetry.write)]

theorem text_eq (c : Config) :
    c.text = String.ofList (writeObject 0 (c.fields.map fun f => writeField 2 f.1 f.2)) := rfl

theorem spelledBy_text (c : Config) : SpelledBy c.text.toList c := by
  have gives := gives_writeObject 2 0 (by simp [fields] : (c.fields.map Prod.fst).Nodup)
  rw [text_eq, String.toList_ofList]
  exact ⟨_, gives, rfl, spellsString_writeText _, spellsString_writeText _,
    spellsString_writeText _, rfl, c.sysinfoRetry.spelledBy_write⟩

theorem inFormat_text (c : Config) : InFormat c.text c :=
  ⟨[], c.text.toList, [], by simp, nofun, nofun, c.spelledBy_text⟩

/-- **Settings are read as they were written**, from their text. -/
theorem parse_text (c : Config) : parse c.text = .ok c := parse_eq_ok_iff.2 c.inFormat_text

theorem ofBytes_text (c : Config) : ofBytes c.text.toUTF8 =
    match c.fault? with
    | some error => .error error
    | none => .ok c :=
  ofBytes_of_heldBy ⟨c.text, rfl, c.inFormat_text⟩

end Config

end MonitorFleet
