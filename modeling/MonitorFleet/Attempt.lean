import MonitorFleet.Monitors
import MonitorFleet.Transfer

/-!
# Attempts

One attempt at an operation on a node: its monitor is dialed, called, and what it streams goes to a
file. The connection is held until the attempt is over, whichever way that comes.
-/

namespace MonitorFleet

/-- What is done on a node. -/
inductive Job where
  /-- The monitor is told to collect for a run. -/
  | start (run duration : String)
  /-- The results of a run are fetched into a file. -/
  | fetchResults (run path : String)
  /-- The node's system information is fetched into a file. -/
  | fetchSysInfo (path : String)
  deriving DecidableEq, Repr

namespace Job

/-- The call that the monitor gets. -/
def call : Job → Call
  | start run duration => .startCollection run duration
  | fetchResults run _ => .getCollectionResults run
  | fetchSysInfo _ => .getSysInfo

/-- The file that the answer is streamed to. -/
def path? : Job → Option String
  | start .. => none
  | fetchResults _ path => some path
  | fetchSysInfo path => some path

/-- The record of a job that was done; so many bytes were written. -/
def done (job : Job) (node : String) (written : UInt64) : Record :=
  match job with
  | start .. =>
    ⟨.info, "knb_core::collection", [], s!"started collection on monitor {node}"⟩
  | fetchResults _ path => ⟨.info, "knb_core::collection", [],
    s!"perf data for {node} ({written} bytes) can be found in: {Text.quote path}"⟩
  | fetchSysInfo path => ⟨.info, "knb_core::sysinfo", [],
    s!"sysinfo for {node} ({written} bytes) written to {Text.quote path}"⟩

end Job

/-- What an attempt waits for. -/
inductive Attempt where
  | dialing (stage : Dialing)
  | calling (connection : Connection)
  | receiving (connection : Connection) (transfer : Transfer)
  deriving DecidableEq, Repr

namespace Attempt

/-- Begins an attempt. -/
def start (m : Monitors) (node : String) (w : World) : World × Attempt :=
  let (w, stage) := Dialing.start m node w
  (w, dialing stage)

/-- What is waited for. -/
def question (m : Monitors) (job : Job) (node : String) : Attempt → Question
  | dialing stage => stage.question m node
  | calling connection => .reply connection job.call
  | receiving connection _ => .part connection job.call

/-- Ends an attempt with an error. -/
def fail (w : World) (connection : Connection) (error : Error) :
    World × Progress Attempt UInt64 :=
  (w.release connection.tunnel, .finished (.error error))

/-- Ends an attempt that did its job. -/
def succeed (w : World) (job : Job) (connection : Connection) (written : UInt64) :
    World × Progress Attempt UInt64 :=
  let w := w.note
    ⟨.debug, Dialing.target, [], s!"closing connection to monitor {connection.node}"⟩
  let w := w.release connection.tunnel
  (w.note (job.done connection.node written), .finished (.ok written))

/-- Goes on with the answer of the monitor to the call. -/
def replied (w : World) (job : Job) (connection : Connection) :
    Except Status Unit → World × Progress Attempt UInt64
  | .error status =>
    fail (w.count (.monitorCalls job.call.name false) 1) connection
      (.remoteCall connection.node job.call.name status)
  | .ok () =>
    let w := w.count (.monitorCalls job.call.name true) 1
    match job.path? with
    | none => succeed w job connection 0
    | some path =>
      match Transfer.start path w.tree with
      | .error error => fail w connection error
      | .ok (transfer, tree) => ({ w with tree }, .waiting (receiving connection transfer))

/-- Goes on with a part of the stream. -/
def received (w : World) (job : Job) (connection : Connection) (transfer : Transfer) :
    Answer → Option (World × Progress Attempt UInt64)
  | .chunk data =>
    match transfer.chunk w.tree data with
    | (.error error, tree) => some (fail { w with tree } connection error)
    | (.ok transfer, tree) => some ({ w with tree }, .waiting (receiving connection transfer))
  | .broken status => some (fail w connection (transfer.broken status))
  | .ended =>
    match transfer.finish with
    | .error error => some (fail w connection error)
    | .ok written => some (succeed (w.count .transferBytes written) job connection written)
  | _ => none

/-- Goes on with an answer; `none` if it is no answer to the question. -/
def step (m : Monitors) (run : RunToken) (job : Job) (node : String) (w : World) :
    Attempt → Answer → Option (World × Progress Attempt UInt64)
  | dialing stage, answer =>
    match stage.step m run node w answer with
    | none => none
    | some (w, .waiting stage) => some (w, .waiting (dialing stage))
    | some (w, .finished (.error error)) => some (w, .finished (.error error))
    | some (w, .finished (.ok connection)) =>
      some (w.call node job.call, .waiting (calling connection))
  | calling connection, .reply result => some (replied w job connection result)
  | receiving connection transfer, answer => received w job connection transfer answer
  | _, _ => none

/-- The tunnel that is held. -/
def held : Attempt → Option TunnelToken
  | dialing stage => stage.held
  | calling connection => connection.tunnel
  | receiving connection _ => connection.tunnel

/-- Gives the attempt up. -/
def drop (w : World) (stage : Attempt) : World := w.release stage.held

/-- Whether the attempt itself looks out for the cancellation of its run: only dialing does. -/
def heedsCancellation : Attempt → Bool
  | dialing _ => true
  | _ => false

end Attempt

end MonitorFleet
