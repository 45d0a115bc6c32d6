import MonitorFleet.Config.Reader
import MonitorFleet.Config.Writer
import MonitorFleet.Text.Utf8
import MonitorFleet.Tree.Walk

/-!
# The settings' file

A session's directory may hold a file with settings; without one all settings have their defaults.
-/

namespace MonitorFleet.Config

/-- Where the settings of a session's directory are kept. -/
def path (dir : String) : String := Path.join dir fileName

/-- The settings that the bytes of a file hold. -/
def ofBytes (bytes : ByteArray) : Except Error Config :=
  match Text.decodeUtf8 bytes with
  | .error _ => .error (.invalidConfig s!"Failed to read config: {Fault.notText.text}")
  | .ok content =>
    match parse content with
    | .error flaw => .error (.invalidConfig s!"Failed to parse config: {flaw.text content}")
    | .ok config =>
      match config.fault? with
      | some error => .error error
      | none => .ok config

/-- The settings of a session's directory. -/
def load (tree : Tree) (dir : String) : Except Error Config :=
  if tree.isPresent (path dir) then
    match tree.read (path dir) with
    | .error fault => .error (.invalidConfig s!"Failed to read config: {fault.text}")
    | .ok bytes => ofBytes bytes
  else .ok default

/-- Writes settings into a session's directory. -/
def save (c : Config) (dir : String) (tree : Tree) : Except Error Unit × Tree :=
  match tree.write (path dir) c.text.toUTF8 with
  | (.ok (), tree) => (.ok (), tree)
  | (.error fault, tree) => (.error (.io (path dir) fault), tree)

end MonitorFleet.Config
