import MonitorFleet.Fault
import MonitorFleet.Status

/-!
# Errors

Everything that can go wrong, by cause. `Error.message` is what a user reads and
`Error.chain` lists the causes behind an error, nearest first.
-/

namespace MonitorFleet

/-- Why no connection to a monitor came about. -/
inductive ConnectFault where
  /-- The endpoint makes no address. -/
  | invalidAddress
  /-- Nobody answers there. -/
  | unreachable
  deriving DecidableEq, Repr

def ConnectFault.text : ConnectFault → String
  | invalidAddress => "invalid URI"
  | unreachable => "transport error"

/-- What ended a transfer: the stream broke, or a file refused the bytes. -/
inductive TransferCause where
  | receive (status : Status)
  | write (fault : Fault)
  deriving DecidableEq, Repr

namespace TransferCause

def text : TransferCause → String
  | receive status => s!"io error: {status.text}"
  | write fault => fault.text

/-- The text of what is behind the cause. -/
def inner : TransferCause → String
  | receive status => status.text
  | write fault => fault.text

end TransferCause

inductive Error where
  /-- The address of a node's monitor could not be found. -/
  | resolution (node reason : String)
  /-- A monitor could not be connected to. -/
  | connect (endpoint : String) (fault : ConnectFault)
  /-- A monitor refused a call. -/
  | remoteCall (node call : String) (status : Status)
  /-- A stream did not reach its file in full. -/
  | transfer (path : String) (cause : TransferCause)
  /-- Every attempt at an operation failed. -/
  | retryExhausted (operation node : String) (attempts : UInt32) (source : Error)
  /-- An operation failed on some nodes. -/
  | nodesFailed (operation : String) (failures : List (String × Error))
  | cancelled
  /-- A question to the cluster failed. -/
  | cluster (text : String)
  | session (reason : String)
  | invalidConfig (reason : String)
  | manifest (text : String)
  | io (path : String) (fault : Fault)
  /-- Any other error, with the texts of its causes, nearest first. -/
  | other (text : String) (causes : List String)

instance : Inhabited Error := ⟨.cancelled⟩

namespace Error

/-- A task that did not come to an end of its own. -/
def taskFailed (reason : String) : Error := .other s!"task failed: {reason}" []

mutual

/-- What a user reads. -/
def message : Error → String
  | resolution node reason => s!"Failed to obtain monitor address of node {node}: {reason}"
  | connect endpoint fault => s!"Failed to connect to monitor {endpoint}: {fault.text}"
  | remoteCall node call status => s!"{call} on monitor {node} failed: {status.text}"
  | transfer path cause => s!"Writing data to {Text.quote path} failed: {cause.text}"
  | retryExhausted operation node attempts source =>
    s!"{operation} on {node} failed after {attempts} attempts (last error: {source.message})"
  | nodesFailed operation failures =>
    s!"{operation} failed on {failures.length} node(s):" ++ listing failures
  | cancelled => "Operation cancelled"
  | cluster text => s!"Cluster query failed: {text}"
  | session reason => s!"Session error: {reason}"
  | invalidConfig reason => s!"Invalid configuration: {reason}"
  | manifest text => s!"Failed to render manifest: {text}"
  | io path fault => s!"I/O error at {Text.quote path}: {fault.text}"
  | other text _ => text

/-- One line for each failed node. -/
def listing : List (String × Error) → String
  | [] => ""
  | failure :: rest => line failure ++ listing rest

/-- The line of a failed node. -/
def line : String × Error → String
  | (node, error) => s!"\n  {node}: {error.message}"

end

/-- The texts of the causes behind an error, nearest first. -/
def chain : Error → List String
  | connect _ fault => [fault.text]
  | remoteCall _ _ status => [status.text]
  | transfer _ cause => [cause.text, cause.inner]
  | retryExhausted _ _ _ source => source.message :: source.chain
  | manifest text => [text]
  | io _ fault => [fault.text]
  | other _ causes => causes
  | _ => []

/-- The text of a failure at a node. -/
def atNode (node : String) (error : Error) : String := s!"{node}: {error.message}"

/-- Whether an error says that the operation was cancelled. -/
def isCancelled : Error → Bool
  | cancelled => true
  | _ => false

end Error

end MonitorFleet
