import MonitorFleet.Cluster
import MonitorFleet.Collection
import MonitorFleet.CommandLine.Options
import MonitorFleet.CommandLine.Outcome
import MonitorFleet.CommandLine.Table
import MonitorFleet.Log.Filter
import MonitorFleet.Log.Line

/-!
# The commands

What each command does with the session and what it says of the results. What the commands do with
the cluster stands elsewhere; here are the steps before and after: how a session is opened and its
log begun, and how the outcome of a listing, of a retrieval or of a collection is told.

A collection fails if no monitor agreed to start, whatever the reason, and it succeeds whatever is
missing of the results, unless it was interrupted while they were fetched. A retrieval of system
information fails if any node fails.
-/

namespace MonitorFleet.CommandLine

/-- The name of the program. -/
def programName : String := "kubenetbench"

/-- The module that commands name as their writer. -/
def target : String := "kubenetbench::commands"

/-- The first record of a command: its command line. -/
def opening (words : List String) : Record :=
  ⟨.info, target, [], "****** " ++ " ".intercalate (programName :: words)⟩

/-! ### Sessions -/

/-- A session whose log is open for appending. -/
structure Logged where
  session : Session
  log : Location

/-- Opens the log of a session. -/
def startLog (session : Session) (tree : Tree) : Except Failure Logged × Tree :=
  match session.openLog tree with
  | (.error error, tree) => (.error (.ofError error), tree)
  | (.ok log, tree) => (.ok ⟨session, log⟩, tree)

/-- Opens the session that the options name, and its log. -/
def openSession (o : Options) (tree : Tree) : Except Failure Logged × Tree :=
  match o.sessionId with
  | none => (.error ⟨"a session id is required (--session-id)", []⟩, tree)
  | some id =>
    if id = "" then (.error ⟨"a session id is required (--session-id)", []⟩, tree)
    else match Session.open id o.baseDir tree with
      | .error error =>
        (.error ((Failure.ofError error).behind s!"Failed to open session {id}"), tree)
      | .ok session => startLog (session.withConnectivity o.connectivity) tree

/-- Makes the session that the options name, or one with an id made of a random number, and opens
its log. -/
def makeSession (o : Options) (random : UInt32) (tree : Tree) : Except Failure Logged × Tree :=
  match Session.init (o.sessionId.getD "") o.baseDir random tree with
  | (.error error, tree) =>
    (.error ((Failure.ofError error).behind "Failed to create session"), tree)
  | (.ok session, tree) => startLog session tree

/-! ### Commands without a cluster -/

/-- What is told of a session that was made. -/
def tellMade (s : Session) : Outcome := .succeeded [
  s!"Session {s.id} created in {s.dir}",
  s!"Next, generate the monitor manifest: {programName} -s {s.id} monitor"]

/-- Writes the manifest of the session's monitors and tells of it. -/
def monitor (s : Session) (tree : Tree) : Outcome × Tree :=
  match s.writeManifest tree with
  | (.error error, tree) => (.failed (.ofError error), tree)
  | (.ok path, tree) => (.succeeded [
      s!"Monitor manifest written to {path}",
      s!"Deploy it with: kubectl apply -f {path}"], tree)

/-! ### Commands with a cluster -/

/-- What is told if the cluster cannot be reached at all. -/
def tellUnreachable (error : Error) : Outcome :=
  .failed ((Failure.ofError error).behind "Failed to connect to the Kubernetes cluster")

/-- What is told of the nodes of the cluster. -/
def tellNodes : Except Error (List NodeAddress) → Outcome
  | .error error => .failed ((Failure.ofError error).behind "Failed to list nodes")
  | .ok [] => .succeeded ["No nodes found"]
  | .ok nodes =>
    .succeeded (Table.lines ["NODE", "IP"] (nodes.map fun n => [n.name, n.ip.getD "-"]))

/-- What is told of the system information of all nodes. -/
def tellSysinfo (s : Session) : Except Error Unit → Outcome
  | .error error => .failed ((Failure.ofError error).behind "System information retrieval failed")
  | .ok () => .succeeded [s!"System information written to {s.dir}"]

namespace Collect

/-- The module that the collection names as its writer. -/
def target : String := "kubenetbench::commands::collect"

/-- The collector of a session, with another duration if one is given. -/
def collector (s : Session) (durationSecs : Option UInt32) : Collector :=
  match durationSecs with
  | some secs => (Collector.ofSession s).withDuration secs
  | none => .ofSession s

/-- How long to wait for the results: as long as the collection takes, if nothing else is said. -/
def wait (c : Collector) (waitSecs : Option UInt64) : Duration :=
  .ofSecs (waitSecs.getD c.durationSecs.toUInt64).toNat

/-- The run that the results are to be fetched of, or why there is none. -/
def begun : Except Error CollectionRun → Except Failure CollectionRun
  | .error error => .error (.ofError error)
  | .ok run =>
    if run.participants.isEmpty then
      .error ⟨s!"No monitor acknowledged collection {run.id}", []⟩
    else .ok run

/-- What is told of a run that was started. -/
def announcement (run : CollectionRun) : String :=
  s!"Collecting on {run.participants.size} node(s), results in {run.dir}"

/-- The record of a wait. -/
def waiting (wait : Duration) : Record :=
  ⟨.info, target, [], s!"Waiting {wait.text} before retrieving results"⟩

/-- The record of a wait that was cut short. -/
def cutShort : Record := ⟨.info, target, [], "Interrupted, retrieving results now"⟩

/-- The record of results that are missing. -/
def missing (run : CollectionRun) : Record :=
  ⟨.warn, target, [], s!"Some results of collection {run.id} are missing"⟩

/-- The records of an end that was not interrupted. -/
def endRecords (run : CollectionRun) (report : Report) : List Record :=
  if report.isSuccess then [] else [missing run]

/-- What is told of the results, which were fetched in full or interrupted. -/
def tellEnd (run : CollectionRun) (interrupted : Bool) (report : Report) : Outcome :=
  if interrupted then .failed ⟨s!"Collection {run.id} interrupted during retrieval", []⟩
  else {
    printed := [s!"Retrieved results from {report.succeeded.size} node(s)"]
    warnings := report.failures.entries.map fun f => s!"warning: {f.1}: {f.2.message}" }

end Collect

/-! ### Signals -/

/-- What asks a running command to end. -/
inductive Signal where
  | interrupt
  | terminate
  deriving DecidableEq, Repr

/-- The record of a signal that was received. -/
def Signal.record : Signal → Record
  | interrupt => ⟨.info, "kubenetbench::signal", [], "Received SIGINT (Ctrl+C)"⟩
  | terminate => ⟨.info, "kubenetbench::signal", [], "Received SIGTERM"⟩

/-! ### Logs -/

/-- The lines of a log in its file. -/
def fileLines (filter : Filter) (log : List Record) : List String :=
  (log.filterMap filter.apply).map Record.fileLine

/-- The lines of a log on the console. -/
def consoleLines (filter : Filter) (destination : LogDestination) (log : List Record) :
    List String :=
  match destination with
  | .file => []
  | .fileAndConsole => (log.filterMap filter.apply).map Record.consoleLine

/-- Appends a log to its file. -/
def writeLog (filter : Filter) (place : Location) (log : List Record) (tree : Tree) : Tree :=
  (fileLines filter log).foldl
    (fun tree line => ((tree.append place (line ++ "\n").toUTF8).toOption).getD tree) tree

end MonitorFleet.CommandLine
