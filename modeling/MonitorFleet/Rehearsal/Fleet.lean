import MonitorFleet.Net.Address
import MonitorFleet.Rehearsal.Schedule
import MonitorFleet.Rehearsal.Script

/-!
# A scripted fleet

A cluster whose nodes, pods and monitors are given. It answers the questions of tasks and remembers
what it was asked, which tunnels it opened and which calls its monitors got.
-/

namespace MonitorFleet.Rehearsal

/-- A node of a scripted fleet. -/
structure ScriptedNode where
  name : String
  /-- What the cluster says about its address. -/
  ip : Except Error (Option String)
  /-- What the cluster says about its monitor's pod. -/
  pod : Except Error (Option String)
  /-- Whether somebody listens behind a tunnel to it, if one can be opened. -/
  tunnel : Except Error Bool
  /-- The port at which a tunnel to it begins. -/
  localPort : UInt16
  /-- Whether it runs pods of the session. -/
  workload : Bool
  /-- Whether it is in the list of nodes. -/
  listed : Bool
  monitor : Option MonitorScript

structure Fleet where
  nodes : List ScriptedNode
  /-- Why the nodes of a session cannot be listed. -/
  sessionError : Option Error := none
  /-- Why the nodes cannot be listed. -/
  listError : Option Error := none
  /-- The port that monitors listen on. -/
  port : UInt16
  /-- Whether pauses between attempts come to an end. -/
  patient : Bool := true
  heard : List Query := []
  /-- The nodes to which tunnels were opened, in order. -/
  opened : List (String × TunnelToken) := []
  received : List (String × Call) := []
  /-- What is still to arrive of the streams of tasks. -/
  streams : List (Nat × List Answer) := []

namespace Fleet

/-- The namespace of the fleet's pods. -/
def namespaceName : String := "default"

def find? (f : Fleet) (node : String) : Option ScriptedNode := f.nodes.find? (·.name = node)

/-- The address of a node. -/
def nodeIp (f : Fleet) (node : String) : Except Error String :=
  match f.find? node with
  | none => .error (.resolution node "unknown node")
  | some n => match n.ip with
    | .error error => .error error
    | .ok none => .error (.resolution node "node reports no IP address")
    | .ok (some ip) => .ok ip

/-- The monitor's pod of a node. -/
def podForNode (f : Fleet) (node : String) : Except Error PodRef :=
  match f.find? node with
  | none => .error (.resolution node "unknown node")
  | some n => match n.pod with
    | .error error => .error error
    | .ok none => .error (.resolution node "no monitor pod on node")
    | .ok (some pod) => .ok ⟨namespaceName, pod⟩

/-- Whether a node's pod has this name. -/
def ScriptedNode.hasPod (n : ScriptedNode) (pod : String) : Bool :=
  match n.pod with
  | .ok (some p) => p = pod
  | _ => false

/-- Opens a tunnel to a pod. -/
def openTunnel (f : Fleet) (pod : PodRef) (tunnel : TunnelToken) : Fleet × Except Error UInt16 :=
  match f.nodes.find? (ScriptedNode.hasPod · pod.name) with
  | none => (f, .error (.cluster s!"unknown pod {pod.name}"))
  | some n =>
    ({ f with opened := f.opened ++ [(n.name, tunnel)] }, n.tunnel.map fun _ => n.localPort)

/-- The nodes that run pods of a session. -/
def sessionNodes (f : Fleet) : Except Error NameSet :=
  match f.sessionError with
  | some error => .error error
  | none => .ok (.ofNames ((f.nodes.filter (·.workload)).map (·.name)))

/-- The nodes that are listed, with their addresses. -/
def nodesAndIps (f : Fleet) : Except Error (List NodeAddress) :=
  match f.listError with
  | some error => .error error
  | none => .ok ((f.nodes.filter (·.listed)).map fun n => ⟨n.name, (n.ip.toOption).join⟩)

/-- The fleet after it heard a question. -/
def hear (f : Fleet) (query : Query) : Fleet := { f with heard := f.heard ++ [query] }

/-- Whether a monitor can listen at an address. -/
def isLocal (host : String) : Bool :=
  match Net.octets? host.toList with
  | some (first, _) => first = 127
  | none => false

/-- Whether the monitor of a node is reached at an endpoint. -/
def ScriptedNode.listens (n : ScriptedNode) (port : UInt16) (endpoint : Endpoint)
    (tunnelled : Bool) : Bool :=
  n.monitor.isSome &&
    if tunnelled then
      endpoint.host = tunnelHost && endpoint.port = n.localPort && n.tunnel.toOption = some true
    else
      isLocal endpoint.host && endpoint.port = port && n.ip.toOption.join = some endpoint.host

/-- The node whose monitor is reached at an endpoint. -/
def monitorAt? (f : Fleet) (endpoint : Endpoint) (tunnelled : Bool) : Option ScriptedNode :=
  f.nodes.find? (ScriptedNode.listens · f.port endpoint tunnelled)

/-- The fleet with what is still to arrive of a task's stream. -/
def setStream (f : Fleet) (task : Nat) (parts : List Answer) : Fleet :=
  { f with streams := (task, parts) :: f.streams.filter (·.1 ≠ task) }

/-- A monitor gets a call of a task. -/
def reply (f : Fleet) (task : Nat) (n : ScriptedNode) (call : Call) : Fleet × Option Answer :=
  let earlier := (f.received.filter fun r => r.1 = n.name ∧ r.2.name = call.name).length
  let f := { f with received := f.received ++ [(n.name, call)] }
  match replyAt ((n.monitor.map (·.replies call)).getD []) earlier with
  | .refuse status => (f, some (.reply (.error status)))
  | .hang => (f, none)
  | .accept chunks finish =>
    (f.setStream task (arriving (chunks.getD (usualChunks n.name call)) finish),
      some (.reply (.ok ())))

/-- The answer to what a task waits for. -/
def answer (f : Fleet) (task : Nat) : Question → Fleet × Option Answer
  | .cluster query =>
    let f := f.hear query
    match query with
    | .nodeIp node => (f, some (.address (f.nodeIp node)))
    | .podForNode node _ => (f, some (.pod (f.podForNode node)))
    | .portForward pod _ tunnel =>
      let (f, result) := f.openTunnel pod tunnel
      (f, some (.localPort result))
    | _ => (f, none)
  | .connection endpoint tunnel =>
    (f, some (.connected (f.monitorAt? endpoint tunnel.isSome).isSome))
  | .reply connection call =>
    match f.monitorAt? connection.endpoint connection.tunnel.isSome with
    | some n => f.reply task n call
    | none => (f, none)
  | .part _ _ =>
    match f.streams.find? (·.1 = task) with
    | some (_, part :: parts) => (f.setStream task parts, some part)
    | _ => (f, none)
  | .pause delay => (f, if f.patient || delay = .zero then some .elapsed else none)

/-- The most answers that a call of a script can lead to. -/
def MonitorReply.bound : MonitorReply → Nat
  | .accept (some chunks) _ => chunks.length + 2
  | _ => 4

/-- The most answers that an attempt can take. -/
def bound (f : Fleet) : Nat :=
  (f.nodes.flatMap fun n => match n.monitor with
    | some s => (s.start ++ s.sysinfo ++ s.results).map MonitorReply.bound
    | none => []).foldl max 4 + 5

def outside : Outside Fleet where
  answer f _ task question :=
    let (f, answer) := f.answer task question
    (f, answer, [])
  listSession f selector := (f.hear (.sessionNodes selector), f.sessionNodes, [])
  listNodes f := (f.hear .nodesAndIps, f.nodesAndIps, [])
  bound := bound

end Fleet

end MonitorFleet.Rehearsal
