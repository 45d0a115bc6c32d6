import MonitorFleet.CommandLine.Arguments
import MonitorFleet.CommandLine.Commands

/-!
# Carrying out command lines

From the words of a command line to what is shown and what is left in the tree. What a command does
once its session is open is up to an `Act`; `alone` is what can be done without any cluster.
-/

namespace MonitorFleet.CommandLine

/-- A command line and what is around it. -/
structure Setting where
  words : List String
  /-- The setting of the log's filter. -/
  filter : Option String
  /-- The random number that a new id is made of. -/
  random : UInt32

/-- What a command line leads to. -/
structure Performance where
  exitCode : Nat
  printed : List String := []
  /-- The log on the console. -/
  console : List String := []
  errors : List String := []
  deriving DecidableEq, Repr

/-- What a command does once its session is open, to the world and to something else. -/
abbrev Act (σ : Type) : Type := Invocation → Session → World → σ → Outcome × World × σ

/-- Opens the session of a command, or makes it. -/
def Invocation.session (inv : Invocation) (random : UInt32) (tree : Tree) :
    Except Failure Logged × Tree :=
  match inv.command with
  | .init => makeSession inv.options random tree
  | _ => openSession inv.options tree

namespace Setting

/-- The lines of the log on the console. -/
def console (line : Setting) (o : Options) (log : List Record) : List String :=
  consoleLines (.ofSetting line.filter) (.ofQuiet o.quiet) log

/-- Carries out a command line: what it leads to, and the tree and all else afterwards. -/
def perform {σ : Type} (line : Setting) (act : Act σ) (tree : Tree) (s : σ) :
    Performance × Tree × σ :=
  match parse line.words with
  | .error .help => ({ exitCode := 0 }, tree, s)
  | .error .misuse => ({ exitCode := 2 }, tree, s)
  | .ok inv =>
    match inv.session line.random tree with
    | (.error failure, tree) => ({ exitCode := 1, errors := failure.lines }, tree, s)
    | (.ok ⟨session, log⟩, tree) =>
      let (outcome, w, s) := act inv session { tree, log := [opening line.words] } s
      ({ exitCode := outcome.exitCode
         printed := outcome.printed
         console := line.console inv.options w.log
         errors := outcome.errorLines },
        writeLog (.ofSetting line.filter) log w.log w.tree, s)

end Setting

/-- Why there is no cluster. -/
def noCluster : Error := .cluster "no cluster is configured"

/-- What a command does where no cluster can be reached. -/
def alone {σ : Type} : Act σ := fun inv session w s =>
  match inv.command with
  | .init => (tellMade session, w, s)
  | .monitor =>
    let w := w.note session.generating
    let (outcome, tree) := monitor session w.tree
    (outcome, { w with tree }, s)
  | _ => (tellUnreachable noCluster, w, s)

/-- How the program is used. -/
def usage : List String := [
  s!"Usage: {programName} [OPTIONS] <COMMAND>",
  "",
  "Commands:",
  "  init     Create a new session",
  "  monitor  Generate the monitor manifest for the session",
  "  nodes    List the cluster nodes and their addresses",
  "  sysinfo  Retrieve system information from every node",
  "  collect  Collect performance data on the nodes running session pods",
  "",
  "Options:",
  "  -s, --session-id <SESSION_ID>              Session id",
  "  -d, --session-base-dir <SESSION_BASE_DIR>  Directory of the sessions [default: .]",
  "  -q, --quiet                                Only log to the session log file",
  "      --port-forward                         Reach the monitors through port forwarding",
  "  -h, --help                                 Print help"]

end MonitorFleet.CommandLine
