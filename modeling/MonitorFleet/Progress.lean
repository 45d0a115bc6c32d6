import MonitorFleet.Cluster
import MonitorFleet.Duration
import MonitorFleet.Endpoint
import MonitorFleet.Error

/-!
# Progress of a task

A task moves on whenever an answer arrives that it waits for: from the cluster, from a monitor, or
from the clock. It then waits for the next answer, or it is finished.
-/

namespace MonitorFleet

/-- Where a task stands. -/
inductive Progress (σ α : Type) where
  | waiting (stage : σ)
  | finished (result : Except Error α)

/-- The progress with its stage seen as part of another one. -/
def Progress.within {σ τ α : Type} (f : σ → τ) : Progress σ α → Progress τ α
  | waiting stage => .waiting (f stage)
  | finished result => .finished result

/-- A live connection to the monitor of a node, and the tunnel that it goes through, if any. -/
structure Connection where
  node : String
  endpoint : Endpoint
  tunnel : Option TunnelToken
  deriving DecidableEq, Repr

/-- What a task waits for. -/
inductive Question where
  | cluster (query : Query)
  | connection (endpoint : Endpoint) (tunnel : Option TunnelToken)
  /-- The answer of a monitor to a call. -/
  | reply (connection : Connection) (call : Call)
  /-- The next part of a stream. -/
  | part (connection : Connection) (call : Call)
  | pause (delay : Duration)

/-- What arrives. -/
inductive Answer where
  | address (result : Except Error String)
  | pod (result : Except Error PodRef)
  | localPort (result : Except Error UInt16)
  /-- A connection came about, or nobody answered. -/
  | connected (reached : Bool)
  /-- A monitor took a call, or refused it. -/
  | reply (result : Except Status Unit)
  | chunk (data : ByteArray)
  | broken (status : Status)
  /-- A stream came to its end. -/
  | ended
  /-- A pause is over. -/
  | elapsed

/-- What can happen to a task. -/
inductive Happening where
  /-- The task begins. -/
  | begun
  | answer (a : Answer)
  /-- The task notices that its run was cancelled. -/
  | withdrawn

end MonitorFleet
