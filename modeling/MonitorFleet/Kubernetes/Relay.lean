import MonitorFleet.Kubernetes.Client

/-!
# Serving a tunnel

A tunnel to a pod listens at a local port. Its first way to the pod is opened before it listens.
Each connection that it accepts goes through a way of its own: the first one through the way that
is open already, each later one through a way that is asked for on its behalf. Accepted connections
are looked after side by side with the listening, so others may come before a way is asked for, and
an answer may come when the tunnel does not listen any more.

It stops listening when its run is cancelled, and also when it can accept no more. The cancellation
ends all that is relayed, too. A connection that waits for a way is not told of it; but the way that
it is given later is dropped at once, and the connection with it.
-/

namespace MonitorFleet.Kubernetes

/-- A way to a pod, by its number in the order in which ways were opened. -/
abbrev Way := Nat

/-- How an accepted connection gets to the pod. -/
inductive Passage where
  /-- No way was asked for yet. -/
  | waiting
  /-- It was refused a way, and closed. -/
  | closed
  /-- It is relayed. -/
  | through (way : Way)
  /-- It was relayed until its sides were done, or one of them failed. -/
  | finished (way : Way)
  /-- It was relayed until the run of the tunnel was cancelled. -/
  | cut (way : Way)
  /-- It was given a way when the run was cancelled already; both are dropped at once. -/
  | dropped (way : Way)
  deriving DecidableEq, Repr

namespace Passage

/-- The way that was opened for a connection. -/
def way? : Passage → Option Way
  | waiting => none
  | closed => none
  | through way => some way
  | finished way => some way
  | cut way => some way
  | dropped way => some way

/-- What a connection comes to by the cancellation. -/
def cancel : Passage → Passage
  | through way => cut way
  | p => p

/-- What a connection comes to when its sides are done, or one of them fails. -/
def finish : Passage → Passage
  | through way => finished way
  | p => p

end Passage

/-- What a tunnel sees. -/
inductive RelayEvent where
  /-- Somebody connects. -/
  | connection
  /-- It is the turn of an accepted connection, given by its number. -/
  | turn (connection : Nat)
  /-- The sides of an accepted connection are done, or one of them fails. -/
  | finished (connection : Nat)
  /-- A connection could not be accepted. -/
  | fault
  /-- The run of the tunnel was cancelled. -/
  | cancelled
  deriving DecidableEq, Repr

/-- A tunnel that is served. -/
structure Relay where
  listening : Bool
  /-- Whether its run was cancelled. -/
  cancelled : Bool
  /-- The way that was opened beforehand, as long as no connection took it. -/
  ready : Option Way
  /-- How many ways were opened. -/
  opened : Nat
  /-- The connections that were accepted, in order. -/
  accepted : List Passage
  deriving DecidableEq, Repr

namespace Relay

/-- A tunnel whose first way is open. -/
def start : Relay := ⟨true, false, some 0, 1, []⟩

/-- The tunnel with a connection accepted. -/
def accept (r : Relay) : Relay :=
  match r.ready with
  | some way => { r with ready := none, accepted := r.accepted ++ [.through way] }
  | none => { r with accepted := r.accepted ++ [.waiting] }

/-- Whether a connection has no way yet. -/
def isWaiting (r : Relay) (connection : Nat) : Bool := r.accepted[connection]? = some .waiting

/-- What a connection comes to that is given the next way. -/
def granted (r : Relay) : Passage :=
  if r.cancelled then .dropped r.opened else .through r.opened

/-- The tunnel with the answer to a connection that asked for a way. -/
def answer (r : Relay) (connection : Nat) (opens : Bool) : Relay :=
  if opens then
    { r with opened := r.opened + 1, accepted := r.accepted.set connection r.granted }
  else { r with accepted := r.accepted.set connection .closed }

/-- The tunnel when its run is cancelled. -/
def cancel (r : Relay) : Relay :=
  { r with listening := false, cancelled := true, accepted := r.accepted.map .cancel }

/-- The tunnel when a connection is done. -/
def finish (r : Relay) (connection : Nat) : Relay :=
  { r with accepted := r.accepted.modify connection .finish }

end Relay

/-- A tunnel that is served, and the server that its ways are asked for. -/
structure Served (σ : Type) where
  relay : Relay
  server : σ

namespace Served

variable {σ : Type} (server : Server σ) (pod : PodRef) (port : UInt16)

/-- The tunnel after an event. A connection that comes when it does not listen is not accepted. -/
def step (t : Served σ) : RelayEvent → Served σ
  | .connection => if t.relay.listening then { t with relay := t.relay.accept } else t
  | .turn connection =>
    if t.relay.isWaiting connection then
      let (s, result) := Client.requestForward server pod port t.server
      ⟨t.relay.answer connection result.toBool, s⟩
    else t
  | .finished connection => { t with relay := t.relay.finish connection }
  | .fault => { t with relay := { t.relay with listening := false } }
  | .cancelled => { t with relay := t.relay.cancel }

/-- The tunnel after a list of events. -/
def run (t : Served σ) (events : List RelayEvent) : Served σ :=
  events.foldl (step server pod port) t

end Served

end MonitorFleet.Kubernetes
