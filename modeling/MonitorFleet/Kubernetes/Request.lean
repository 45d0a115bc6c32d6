import MonitorFleet.Kubernetes.Problem
import MonitorFleet.Net.Uri
import MonitorFleet.Text.Form
import MonitorFleet.Token

/-!
# Requests

The requests that are put to the API of a cluster, each by its address on the server. Names stand
in an address as they are, and the values of its query are encoded.
-/

namespace MonitorFleet.Kubernetes

structure Request where
  uri : String
  deriving DecidableEq, Repr

namespace Request

/-- A request to read what is at an address. -/
def text (r : Request) : String := s!"GET {r.uri}"

/-- The request for an address. What follows a `#` is not sent. -/
def ofUri (uri : String) : Except Problem Request :=
  if Net.maxUri < uri.utf8ByteSize then .error .longUri
  else if Net.isPathAndQuery uri.toList then .ok ⟨String.ofList (uri.toList.takeWhile (· ≠ '#'))⟩
  else .error .badUri

def nodesPath : String := "/api/v1/nodes"

def podsPath (namespaceName : String) : String := s!"/api/v1/namespaces/{namespaceName}/pods"

/-- A parameter of a query. -/
def parameter (name value : String) : String := s!"&{name}={Text.formEncode value}"

/-- For one node. -/
def node (name : String) : Except Problem Request :=
  if name = "" then .error .noName else ofUri s!"{nodesPath}/{name}"

/-- For all nodes. -/
def nodes : Except Problem Request := ofUri s!"{nodesPath}?"

/-- The field that says which node a pod is on. -/
def nodeField (node : String) : String := s!"spec.nodeName={node}"

/-- For the pods of a namespace that match a selector, on one node or on any. -/
def pods (namespaceName selector : String) (node : Option String) : Except Problem Request :=
  let fields := match node with
    | some n => parameter "fieldSelector" (nodeField n)
    | none => ""
  let labels := parameter "labelSelector" selector
  ofUri s!"{podsPath namespaceName}?{fields}{labels}"

/-- For a way to a port in a pod. -/
def portForward (pod : PodRef) (port : UInt16) : Except Problem Request :=
  let ports := parameter "ports" (toString port)
  ofUri s!"{podsPath pod.namespaceName}/{pod.name}/portforward?{ports}"

end Request

end MonitorFleet.Kubernetes
