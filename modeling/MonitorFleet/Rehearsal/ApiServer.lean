import MonitorFleet.Kubernetes.Client
import MonitorFleet.Kubernetes.Written
import MonitorFleet.Rehearsal.Fleet

/-!
# A scripted fleet behind an API server

The questions to the cluster go to an API server that knows the nodes of a scripted fleet; the
monitors answer as before. The server does not judge selectors of labels: asked for the pods of a
node, it gives the monitor's pod, and asked for all pods, a pod for each node with a workload.
-/

namespace MonitorFleet.Rehearsal

open Kubernetes (Client Node Pod Reply Request)

/-- A fleet and the server that knows it. -/
structure ServedFleet where
  fleet : Fleet
  client : Client
  /-- What the server answers to every request but those for ways to pods, if it refuses them. -/
  refusal : Option (Nat × ByteArray) := none
  /-- Whether the monitors listen at the addresses of their nodes. -/
  isDirect : Bool
  requests : List Request := []

namespace ServedFleet

/-! ### The server -/

/-- A node as the server shows it. -/
def nodeOf (n : ScriptedNode) : Node where
  name := some n.name
  addresses := match n.ip with
    | .ok (some ip) => [⟨"InternalIP", ip⟩]
    | _ => []

/-- A pod that runs on a node. -/
def podOn (node name : String) : Pod := ⟨some name, .empty, some node, "Running"⟩

/-- The monitor's pod of a node. -/
def monitorPod? (n : ScriptedNode) : Option Pod :=
  match n.pod with
  | .ok (some pod) => some (podOn n.name pod)
  | _ => none

/-- A reply that holds what was asked for. -/
def found (text : String) : Reply := .response 200 text.toUTF8

def refused (code : Nat) (reason message : String) : Reply :=
  .response code (Kubernetes.refusalText code reason message).toUTF8

/-- The pods that a query asks for. -/
def podsFor (f : Fleet) (query : String) : List Pod :=
  let parameters := (Text.splitOn '&' query.toList).map String.ofList
  let asksFor (n : ScriptedNode) : Bool :=
    (parameters.map ("&" ++ ·)).contains
      (Request.parameter "fieldSelector" (Request.nodeField n.name))
  if parameters.any fun p => "fieldSelector=".toList.isPrefixOf p.toList then
    ((f.nodes.find? asksFor).bind monitorPod?).toList
  else (f.nodes.filter (·.workload)).map fun n => podOn n.name s!"workload-{n.name}"

/-- The reply to a request for a way to a pod. -/
def forward (f : Fleet) (pod : String) : Reply :=
  match f.nodes.find? (Fleet.ScriptedNode.hasPod · pod) with
  | some n =>
    match n.tunnel with
    | .ok true => .upgraded
    | _ => refused 403 "Forbidden" "pods/portforward is forbidden"
  | none => refused 403 "Forbidden" "pods/portforward is forbidden"

/-- The reply to what stands at an address, given by its names and its query. -/
def reply (s : ServedFleet) (path : List String) (query : String) : Reply :=
  let known (r : Reply) : Reply :=
    match s.refusal with
    | some (code, body) => .response code body
    | none => r
  match path with
  | ["", "api", "v1", "namespaces", _, "pods", pod, "portforward"] => forward s.fleet pod
  | ["", "api", "v1", "namespaces", _, "pods"] =>
    known (found (Kubernetes.listText ((podsFor s.fleet query).map Pod.write)))
  | ["", "api", "v1", "nodes"] =>
    known (found (Kubernetes.listText
      ((s.fleet.nodes.filter (·.listed)).map fun n => (nodeOf n).write)))
  | "" :: "api" :: "v1" :: "nodes" :: names =>
    let name := "/".intercalate names
    known (match s.fleet.find? name with
      | some n => found (Kubernetes.nodeText (nodeOf n))
      | none => refused 404 "NotFound" s!"nodes \"{name}\" not found")
  | _ => refused 404 "NotFound" "the server could not find the requested resource"

/-- Replies to a request. -/
def serve : Kubernetes.Server ServedFleet := fun request s =>
  let uri := request.uri.toList
  let path := (Text.splitOn '/' (uri.takeWhile (· ≠ '?'))).map String.ofList
  let query := String.ofList ((uri.dropWhile (· ≠ '?')).drop 1)
  ({ s with requests := s.requests ++ [request] }, s.reply path query)

/-! ### Answers to tasks -/

/-- Opens a tunnel to a pod: the answer, and the records that it leaves. -/
def openTunnel (s : ServedFleet) (pod : PodRef) (port : UInt16) (tunnel : TunnelToken) :
    ServedFleet × Option Answer × List Record :=
  match Client.openForward serve pod port s with
  | (s, .error error) => (s, some (.localPort (.error error)), [])
  | (s, .ok ()) =>
    let (fleet, result) := s.fleet.openTunnel pod tunnel
    ({ s with fleet }, some (.localPort result),
      match result with
      | .ok localPort => [Client.forwardRecord pod port localPort]
      | .error _ => [])

/-- The answer to what a task waits for. -/
def answer (s : ServedFleet) (task : Nat) : Question →
    ServedFleet × Option Answer × List Record
  | .cluster (.nodeIp node) =>
    let (s, result) := Client.nodeIp serve node s
    (s, some (.address result), [])
  | .cluster (.podForNode node selector) =>
    let (s, result) := Client.podForNode serve s.client node selector s
    (s, some (.pod result), [])
  | .cluster (.portForward pod port tunnel) => s.openTunnel pod port tunnel
  | .connection endpoint none =>
    (s, some (.connected (s.isDirect && (s.fleet.monitorAt? endpoint false).isSome)), [])
  | question =>
    let (fleet, answer?) := s.fleet.answer task question
    ({ s with fleet }, answer?, [])

def outside : Outside ServedFleet where
  answer s _ task question := s.answer task question
  listSession s selector := Client.sessionNodes serve s.client selector s
  listNodes s := Client.nodesAndIps serve s
  bound s := s.fleet.bound

end ServedFleet

end MonitorFleet.Rehearsal
