import MonitorFleet.Config.File
import MonitorFleet.DaemonSet
import MonitorFleet.Endpoint

/-!
# Sessions

A session is a directory that holds all that belongs to one series of measurements, named by an id
that can be the value of a label. Each operation here gives its result and the tree afterwards.

```text
<base>/<id>/
  config.json                     settings, if they differ from the defaults
  session.log
  monitor.yaml
  <node>.sysinfo
  <run>/perf-<node>.tar.bz2
```
-/

namespace MonitorFleet

structure Session where
  id : String
  dir : String
  connectivity : Connectivity
  config : Config
  deriving DecidableEq, Repr

namespace Session

/-- The module that sessions name as their writer. -/
def target : String := "knb_core::session"

/-! ### Ids -/

/-- The longest id, in characters. -/
def maxId : Nat := 63

/-- Whether a character may stand inside an id. -/
def isIdChar (c : Char) : Bool := c.isAlphanum || c = '-' || c = '_' || c = '.'

/-- Whether a text can be an id: it has letters and digits at both ends, and letters, digits and
`-`, `_`, `.` in between. -/
def isValidId (id : String) : Bool :=
  let cs := id.toList
  cs.length ≤ maxId && cs.all isIdChar &&
    cs.head?.any Char.isAlphanum && cs.getLast?.any Char.isAlphanum

def invalidId (id : String) : Error :=
  .session s!"session id '{id}' is not a valid Kubernetes label value"

/-- The lowest digits of a number in base sixteen, so many of them. -/
def hexDigits (n : Nat) : Nat → List Char
  | 0 => []
  | k + 1 => hexDigits (n / 16) k ++ [Nat.digitChar (n % 16)]

/-- The id made of a random number. -/
def generatedId (random : UInt32) : String := String.ofList (hexDigits random.toNat 8)

/-! ### Making and opening -/

/-- The record of a new session. -/
def created (s : Session) : Record :=
  ⟨.info, target, [], s!"Initialized session {s.id} at {Text.quote s.dir}"⟩

/-- Makes the directory of a new session. An empty id is replaced by the one of a random number. -/
def init (id base : String) (random : UInt32) (tree : Tree) : Except Error Session × Tree :=
  let id := if id = "" then generatedId random else id
  let dir := Path.join base id
  if !isValidId id then (.error (invalidId id), tree)
  else if tree.isPresent dir then
    (.error (.session s!"session directory {Text.quote dir} already exists"), tree)
  else
    match tree.makeDirectories dir with
    | (.error fault, tree) => (.error (.io dir fault), tree)
    | (.ok (), tree) => (.ok ⟨id, dir, .direct, .default⟩, tree)

/-- Opens a session that is there, with its settings. -/
def «open» (id base : String) (tree : Tree) : Except Error Session :=
  let dir := Path.join base id
  if id = "" then .error (.session "session id is required")
  else if !isValidId id then .error (invalidId id)
  else if !tree.isDirectory dir then
    .error (.session
      s!"session directory {Text.quote dir} does not exist (run `init` first)")
  else
    match Config.load tree dir with
    | .error error => .error error
    | .ok config => .ok ⟨id, dir, .direct, config⟩

/-- The session with its monitors reached in another way. -/
def withConnectivity (s : Session) (connectivity : Connectivity) : Session :=
  { s with connectivity }

/-! ### Labels -/

/-- The label of the session, with a separator between key and value. -/
def label (s : Session) (sep : String) : String := s.config.sessionLabelKey ++ sep ++ s.id

/-- The selector of all pods of the session, monitors included. -/
def selector (s : Session) : String := s.label "="

/-- The selector of the pods under measurement: those of the session that are no monitors. -/
def workloadSelector (s : Session) : String :=
  match s.config.monitorLabel? with
  | some (key, value) => s!"{s.selector},{key}!={value}"
  | none => s.selector

/-- The daemon set of the session's monitors. -/
def daemonSet (s : Session) : Except Error DaemonSet :=
  match s.config.monitorLabel? with
  | none => .error (.invalidConfig s!"invalid monitor_selector '{s.config.monitorSelector}'")
  | some (key, value) =>
    let labels : Labels := .ofList [(s.config.sessionLabelKey, s.id), (key, value)]
    .ok ⟨labels, labels, labels, s.config.monitorPort⟩

/-! ### Files -/

def logPath (s : Session) : String := Path.join s.dir "session.log"

def manifestPath (s : Session) : String := Path.join s.dir "monitor.yaml"

/-- Where the system information of a node goes. -/
def sysinfoPath (s : Session) (node : String) : String := Path.join s.dir s!"{node}.sysinfo"

/-- Where the archive of a node goes, in the directory of a run. -/
def archivePath (runDir node : String) : String := Path.join runDir s!"perf-{node}.tar.bz2"

/-- Opens the log for appending; it is made if need be. -/
def openLog (s : Session) (tree : Tree) : Except Error Location × Tree :=
  match tree.openFile s.logPath with
  | .error fault => (.error (.io s.logPath fault), tree)
  | .ok (place, tree) => (.ok place, tree)

/-- Whether a text can be the id of a run, which names a directory in the session's own. -/
def isValidRun (run : String) : Bool :=
  run ≠ "" && run ≠ "." && run ≠ ".." && run.toList.all fun c => c ≠ '/' && c ≠ '\\'

/-- The directory of a run; it is made if need be. -/
def runDir (s : Session) (run : String) (tree : Tree) : Except Error String × Tree :=
  let dir := Path.join s.dir run
  if !isValidRun run then (.error (.session s!"invalid run id '{run}'"), tree)
  else
    match tree.makeDirectories dir with
    | (.error fault, tree) => (.error (.io dir fault), tree)
    | (.ok (), tree) => (.ok dir, tree)

/-- The record of a manifest that is about to be written. -/
def generating (s : Session) : Record :=
  ⟨.info, target, [], s!"Generating {Text.quote s.manifestPath}"⟩

/-- Writes the manifest of the session's monitors. -/
def writeManifest (s : Session) (tree : Tree) : Except Error String × Tree :=
  match s.daemonSet with
  | .error error => (.error error, tree)
  | .ok set =>
    match tree.write s.manifestPath set.document.write.toUTF8 with
    | (.error fault, tree) => (.error (.io s.manifestPath fault), tree)
    | (.ok (), tree) => (.ok s.manifestPath, tree)

end Session

end MonitorFleet
