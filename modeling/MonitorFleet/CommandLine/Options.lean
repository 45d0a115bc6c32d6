import MonitorFleet.Endpoint

/-!
# What a command line can say

The options shared by all commands, the commands, and the options that only some of them take.
-/

namespace MonitorFleet.CommandLine

/-- What an option is about. -/
inductive OptionName where
  | sessionId
  | sessionBaseDir
  | quiet
  | portForward
  | runId
  | duration
  | wait
  deriving DecidableEq, Repr

namespace OptionName

/-- The word behind the two dashes. -/
def long : OptionName → String
  | sessionId => "session-id"
  | sessionBaseDir => "session-base-dir"
  | quiet => "quiet"
  | portForward => "port-forward"
  | runId => "run-id"
  | duration => "duration"
  | wait => "wait"

/-- The letter behind a single dash, if there is one. -/
def short? : OptionName → Option Char
  | sessionId => some 's'
  | sessionBaseDir => some 'd'
  | quiet => some 'q'
  | _ => none

/-- Whether the option has a value. -/
def takesValue : OptionName → Bool
  | quiet => false
  | portForward => false
  | _ => true

/-- The options that may stand anywhere. -/
def shared : List OptionName := [sessionId, sessionBaseDir, quiet, portForward]

end OptionName

/-- The names of the commands. -/
inductive CommandName where
  | init
  | monitor
  | nodes
  | sysinfo
  | collect
  deriving DecidableEq, Repr

namespace CommandName

def text : CommandName → String
  | init => "init"
  | monitor => "monitor"
  | nodes => "nodes"
  | sysinfo => "sysinfo"
  | collect => "collect"

def all : List CommandName := [init, monitor, nodes, sysinfo, collect]

def ofText? (s : String) : Option CommandName := all.find? (·.text = s)

/-- The options that may stand behind a command. -/
def options : CommandName → List OptionName
  | collect => OptionName.shared ++ [.runId, .duration, .wait]
  | _ => OptionName.shared

end CommandName

/-- What all commands have in common. -/
structure Options where
  sessionId : Option String := none
  /-- The directory that holds the sessions. -/
  baseDir : String := "."
  /-- Whether the log goes to its file only. -/
  quiet : Bool := false
  connectivity : Connectivity := .direct
  deriving DecidableEq, Repr

inductive Command where
  /-- Makes a session. -/
  | init
  /-- Writes the manifest of the session's monitors. -/
  | monitor
  /-- Lists the nodes of the cluster. -/
  | nodes
  /-- Fetches the system information of every node. -/
  | sysinfo
  /-- Collects on the nodes of the session, waits, and fetches the results. -/
  | collect (run : String) (durationSecs : Option UInt32) (waitSecs : Option UInt64)
  deriving DecidableEq, Repr

/-- A command and its options. -/
structure Invocation where
  options : Options
  command : Command
  deriving DecidableEq, Repr

end MonitorFleet.CommandLine
