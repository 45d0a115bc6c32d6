import MonitorFleet.Cluster
import MonitorFleet.Endpoint
import MonitorFleet.Error
import MonitorFleet.Kubernetes.Objects
import MonitorFleet.Kubernetes.Reply
import MonitorFleet.Kubernetes.Request
import MonitorFleet.Log.Record

/-!
# A cluster behind an API server

The questions to the cluster, put to its API server. Each question is one request; a request that
cannot be built is not sent. The server may be anything that replies to requests, in a state of its
own.
-/

namespace MonitorFleet.Kubernetes

/-- What replies to requests, in a state of type `σ`. -/
abbrev Server (σ : Type) : Type := Request → σ → σ × Reply

/-- Sends a request, if there is one. -/
def send {σ : Type} (server : Server σ) (s : σ) :
    Except Problem Request → σ × Except Problem Reply
  | .error problem => (s, .error problem)
  | .ok request =>
    let (s, reply) := server request s
    (s, .ok reply)

/-- Asks for something that is read from the text of the reply. -/
def fetch {σ α : Type} (server : Server σ) (read? : String → Option α) (s : σ)
    (request : Except Problem Request) : σ × Except Problem α :=
  let (s, reply) := send server s request
  (s, match reply with
    | .error problem => .error problem
    | .ok reply =>
      match reply.body with
      | .error problem => .error problem
      | .ok text =>
        match read? text with
        | some a => .ok a
        | none => .error .badBody)

/-- Looks after the pods of a namespace and all nodes. -/
structure Client where
  namespaceName : String
  deriving DecidableEq, Repr

namespace Client

def target : String := "knb_core::cluster::kubernetes"

/-! ### What is read from the answers -/

/-- The address of a node. -/
def ipOf (name : String) (n : Node) : Except Error String :=
  match n.ip? with
  | some ip => .ok ip
  | none => .error (.resolution name "node reports no IP address")

/-- The first pod that has a name. -/
def firstPod (c : Client) (node selector : String) (pods : List Pod) : Except Error PodRef :=
  match pods.findSome? (·.name) with
  | some name => .ok ⟨c.namespaceName, name⟩
  | none => .error (.resolution node s!"no pod matching '{selector}' on node")

/-- The nodes that pods are scheduled to. -/
def hostsOf (pods : List Pod) : NameSet := .ofNames (pods.filterMap (·.nodeName))

/-- A node as it is listed. -/
def addressOf (n : Node) : NodeAddress := ⟨n.name.getD "", n.ip?⟩

/-! ### Records -/

def sessionSpan (selector : String) : Span :=
  ⟨"session_nodes", target, [("selector", Text.quote selector)]⟩

/-- The record of a pod that was found. -/
def podRecord (selector : String) (p : Pod) : Record :=
  let name := p.name.getD ""
  ⟨.debug, target, [sessionSpan selector], match p.nodeName with
    | some node => s!" pod {name} on {node} ({p.phase})"
    | none => s!" pod {name} not scheduled yet ({p.phase})"⟩

def listingSpan : Span := ⟨"nodes_and_ips", target, []⟩

/-- The record of a node without an address. -/
def nodeRecord (n : NodeAddress) : Record :=
  ⟨.warn, target, [listingSpan], s!"node {n.name} reports no IP address"⟩

def forwardSpan (pod : PodRef) (port : UInt16) : Span :=
  ⟨"port_forward", target, [("remote_port", toString port), ("pod", pod.name)]⟩

/-- The record of a tunnel that begins at a local port. -/
def forwardRecord (pod : PodRef) (port localPort : UInt16) : Record :=
  ⟨.info, target, [forwardSpan pod port],
    s!"Forwarding {tunnelHost}:{localPort} -> {pod.name}:{port}"⟩

/-! ### Questions -/

variable {σ : Type} (server : Server σ)

/-- The address of a node. -/
def nodeIp (node : String) (s : σ) : σ × Except Error String :=
  let (s, result) := fetch server Node.read? s (Request.node node)
  (s, match result with
    | .error problem => .error (.resolution node problem.text)
    | .ok n => ipOf node n)

/-- A pod on a node that matches a selector. -/
def podForNode (c : Client) (node selector : String) (s : σ) : σ × Except Error PodRef :=
  let (s, result) := fetch server readPods? s (Request.pods c.namespaceName selector (some node))
  (s, match result with
    | .error problem => .error (.resolution node problem.text)
    | .ok pods => c.firstPod node selector pods)

/-- The nodes with pods that match a selector, and the records of the pods. -/
def sessionNodes (c : Client) (selector : String) (s : σ) :
    σ × Except Error NameSet × List Record :=
  let (s, result) := fetch server readPods? s (Request.pods c.namespaceName selector none)
  (s, match result with
    | .error problem => (.error (.cluster problem.text), [])
    | .ok pods => (.ok (hostsOf pods), pods.map (podRecord selector)))

/-- All nodes in the order of the server, and the records of those without an address. -/
def nodesAndIps (s : σ) : σ × Except Error (List NodeAddress) × List Record :=
  let (s, result) := fetch server readNodes? s Request.nodes
  (s, match result with
    | .error problem => (.error (.cluster problem.text), [])
    | .ok nodes =>
      let listed := nodes.map addressOf
      (.ok listed, (listed.filter (·.ip.isNone)).map nodeRecord))

/-- Asks for a way to a port in a pod. -/
def requestForward (pod : PodRef) (port : UInt16) (s : σ) : σ × Except Problem Unit :=
  let (s, reply) := send server s (Request.portForward pod port)
  (s, match reply with
    | .error problem => .error problem
    | .ok reply => reply.opening)

/-- Asks for the way that a tunnel to a pod begins with. -/
def openForward (pod : PodRef) (port : UInt16) (s : σ) : σ × Except Error Unit :=
  let (s, result) := requestForward server pod port s
  (s, match result with
    | .error problem =>
      .error (.cluster s!"port-forward to pod {pod.name} failed: {problem.text}")
    | .ok () => .ok ())

end Client

end MonitorFleet.Kubernetes
