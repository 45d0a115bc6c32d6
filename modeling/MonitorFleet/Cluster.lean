import MonitorFleet.NameMap
import MonitorFleet.Token

/-!
# Questions to the cluster

What has to be known of the cluster: where a node is, which pod serves it, which nodes a session
runs on, and a way into a pod.
-/

namespace MonitorFleet

/-- A node and the address that the cluster reports for it, if any. -/
structure NodeAddress where
  name : String
  ip : Option String
  deriving DecidableEq, Repr

/-- A question to the cluster. -/
inductive Query where
  /-- The address of a node. -/
  | nodeIp (node : String)
  /-- A pod that matches a selector on a node. -/
  | podForNode (node selector : String)
  /-- A way from a local port to one in a pod, to be kept open until its tunnel is closed. -/
  | portForward (pod : PodRef) (port : UInt16) (tunnel : TunnelToken)
  /-- The nodes with pods that match a selector. -/
  | sessionNodes (selector : String)
  /-- All nodes. -/
  | nodesAndIps
  deriving DecidableEq, Repr

/-- A call to a monitor. -/
inductive Call where
  | getSysInfo
  | startCollection (run duration : String)
  | getCollectionResults (run : String)
  deriving DecidableEq, Repr

def Call.name : Call → String
  | getSysInfo => "GetSysInfo"
  | startCollection .. => "StartCollection"
  | getCollectionResults _ => "GetCollectionResults"

end MonitorFleet
