import MonitorFleet.Net.Uri
import MonitorFleet.Progress
import MonitorFleet.Session
import MonitorFleet.Text.Quoted
import MonitorFleet.World

/-!
# Reaching monitors

From the name of a node to a connection with its monitor. First the endpoint is resolved, directly
or through a tunnel (`Resolving`), then it is connected to (`Dialing`). A tunnel is held from the
moment it is asked for: each way out of these stages either hands it on or releases it, as
`Resolving.drop` and `Dialing.drop` do for a stage that is abandoned.
-/

namespace MonitorFleet

/-- How the monitors of a session are reached. -/
structure Monitors where
  connectivity : Connectivity
  port : UInt16
  selector : String
  deriving DecidableEq, Repr

/-- How the monitors of a session are reached, by its settings. -/
def Session.monitors (s : Session) : Monitors :=
  ⟨s.connectivity, s.config.monitorPort, s.config.monitorSelector⟩

/-- An error met while looking for a node's monitor, as an error of that node. -/
def Error.asResolution (node : String) : Error → Error
  | .resolution n reason => .resolution n reason
  | .cancelled => .cancelled
  | error => .resolution node error.message

@[simp] theorem Error.asResolution_asResolution (node : String) (error : Error) :
    (error.asResolution node).asResolution node = error.asResolution node := by
  cases error <;> rfl

@[simp] theorem Error.asResolution_eq_cancelled {node : String} {error : Error} :
    error.asResolution node = .cancelled ↔ error = .cancelled := by
  cases error <;> simp [asResolution]

/-! ### Resolving -/

/-- An endpoint, and the tunnel that is held open for it. -/
structure Resolved where
  endpoint : Endpoint
  tunnel : Option TunnelToken
  deriving DecidableEq, Repr

/-- What the resolution of an endpoint waits for. -/
inductive Resolving where
  | address
  | pod
  /-- A tunnel to a pod, which is held already. -/
  | tunnel (pod : PodRef) (token : TunnelToken)
  deriving DecidableEq, Repr

namespace Resolving

def target : String := "knb_core::resolver"

def span (node : String) : Span := ⟨"resolve", target, [("node", Text.quote node)]⟩

/-- Begins to resolve the endpoint of a node's monitor. -/
def start (m : Monitors) (node : String) (w : World) : World × Resolving :=
  match m.connectivity with
  | .direct => (w.ask (.nodeIp node), .address)
  | .portForward => (w.ask (.podForNode node m.selector), .pod)

/-- What is asked of the cluster. -/
def question (m : Monitors) (node : String) : Resolving → Question
  | address => .cluster (.nodeIp node)
  | pod => .cluster (.podForNode node m.selector)
  | tunnel p token => .cluster (.portForward p m.port token)

/-- Goes on with an answer, inside the spans given; `none` if it is no answer to the question. -/
def step (m : Monitors) (run : RunToken) (node : String) (spans : List Span) (w : World) :
    Resolving → Answer → Option (World × Progress Resolving Resolved)
  | address, .address (.error error) => some (w, .finished (.error error))
  | address, .address (.ok ip) =>
    some (w.note ⟨.debug, target, spans, s!"monitor of {node} at {ip}:{m.port}"⟩,
      .finished (.ok ⟨⟨ip, m.port⟩, none⟩))
  | pod, .pod (.error error) => some (w, .finished (.error error))
  | pod, .pod (.ok p) =>
    let (token, tokens) := w.tokens.newTunnel node p run
    some (World.ask { w with tokens } (.portForward p m.port token), .waiting (tunnel p token))
  | tunnel _ token, .localPort (.error error) =>
    some (w.release token, .finished (.error (error.asResolution node)))
  | tunnel _ token, .localPort (.ok port) =>
    some (w.note ⟨.debug, target, spans, s!"monitor of {node} tunneled through {tunnelHost}:{port}"⟩,
      .finished (.ok ⟨⟨tunnelHost, port⟩, some token⟩))
  | _, _ => none

/-- The tunnel that is held. -/
def held : Resolving → Option TunnelToken
  | tunnel _ token => some token
  | _ => none

/-- Gives the resolution up. -/
def drop (w : World) (stage : Resolving) : World := w.release stage.held

end Resolving

/-! ### Dialing -/

/-- What dialing waits for. -/
inductive Dialing where
  | resolving (stage : Resolving)
  /-- The connection to an endpoint. -/
  | connecting (resolved : Resolved)
  deriving DecidableEq, Repr

namespace Dialing

def target : String := "knb_core::connector"

def span (node : String) : Span := ⟨"dial", target, [("node", Text.quote node)]⟩

/-- The spans around the resolution. -/
def innerSpans (node : String) : List Span := [span node, Resolving.span node]

/-- Begins to dial the monitor of a node. -/
def start (m : Monitors) (node : String) (w : World) : World × Dialing :=
  let (w, stage) := Resolving.start m node w
  (w, resolving stage)

/-- What is waited for. -/
def question (m : Monitors) (node : String) : Dialing → Question
  | resolving stage => stage.question m node
  | connecting resolved => .connection resolved.endpoint resolved.tunnel

/-- Goes on from the end of a resolution. -/
def resolved (node : String) (w : World) :
    Except Error Resolved → World × Progress Dialing Connection
  | .error error => (w, .finished (.error (error.asResolution node)))
  | .ok r =>
    if Net.isServiceAddress r.endpoint.text then (w, .waiting (connecting r))
    else (w.release r.tunnel, .finished (.error (.connect r.endpoint.text .invalidAddress)))

/-- Goes on with an answer; `none` if it is no answer to the question. -/
def step (m : Monitors) (run : RunToken) (node : String) (w : World) :
    Dialing → Answer → Option (World × Progress Dialing Connection)
  | resolving stage, answer =>
    match stage.step m run node (innerSpans node) w answer with
    | none => none
    | some (w, .waiting stage) => some (w, .waiting (resolving stage))
    | some (w, .finished result) => some (resolved node w result)
  | connecting r, .connected true =>
    some (w.note ⟨.debug, target, [span node],
        s!"connected to monitor {node} at {r.endpoint.text}"⟩,
      .finished (.ok ⟨node, r.endpoint, r.tunnel⟩))
  | connecting r, .connected false =>
    some (w.release r.tunnel, .finished (.error (.connect r.endpoint.text .unreachable)))
  | _, _ => none

/-- The tunnel that is held. -/
def held : Dialing → Option TunnelToken
  | resolving stage => stage.held
  | connecting r => r.tunnel

/-- Gives the dialing up. -/
def drop (w : World) (stage : Dialing) : World := w.release stage.held

end Dialing

end MonitorFleet
