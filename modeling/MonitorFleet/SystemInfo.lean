import MonitorFleet.Collection

/-!
# System information

The system information of every node of the cluster is fetched into a file of its own. Each node is
retried by the policy of the session; all nodes are attempted, whatever becomes of the others.
-/

namespace MonitorFleet

/-- Fetches the system information for a session. -/
structure SystemInfo where
  session : Session
  policy : RetryPolicy

namespace SystemInfo

/-- As the settings of a session say. -/
def ofSession (s : Session) : SystemInfo := ⟨s, s.config.sysinfoRetry.policy⟩

/-- With another policy. -/
def withPolicy (i : SystemInfo) (policy : RetryPolicy) : SystemInfo := { i with policy }

def target : String := "knb_core::sysinfo"

def span : Span := ⟨"get_sysinfo_all", target, []⟩

/-- Asks for all nodes. -/
def prepare (w : World) : World := w.ask .nodesAndIps

/-- What is done on a node. -/
def job (s : Session) (node : String) : Job := .fetchSysInfo (s.sysinfoPath node)

/-- The work of fetching from every node. -/
def work (i : SystemInfo) (token : RunToken) : Work where
  monitors := i.session.monitors
  run := token
  operation := "GetSysInfo"
  policy := some i.policy
  job := job i.session

/-- The work of fetching from one node, in a single attempt. -/
def singleWork (s : Session) (token : RunToken) : Work where
  monitors := s.monitors
  run := token
  operation := "GetSysInfo"
  policy := none
  job := job s

/-- The fan-out, around which a span stands. -/
def operation (i : SystemInfo) (token : RunToken) : Operation World Task Happening :=
  (i.work token).fanOut [span]

/-- What the listing of nodes shows for an address. -/
def shownAddress (n : NodeAddress) : String := n.ip.getD "no address"

/-- The records of the nodes that were found. -/
def listing (nodes : List NodeAddress) : List Record :=
  ⟨.info, target, [span], s!"Retrieving system information from {nodes.length} node(s)"⟩ ::
    nodes.map fun n =>
      ⟨.info, target, [span], s!" node {n.name} ({shownAddress n})"⟩

/-- Begins to fetch from nodes. -/
def launch (i : SystemInfo) (token : RunToken) (nodes : List NodeAddress) (w : World) :
    FanOut World Task :=
  FanOut.start (i.operation token) (nodes.map (·.name)) ((listing nodes).foldl World.note w)

/-- What comes of a fan-out that is over: the failures, if there are any. -/
def finished (f : FanOut World Task) : Except Error Unit × World :=
  (f.report.result.map fun _ => (), f.world.note (f.report.summary.within [span]))

end SystemInfo

end MonitorFleet
