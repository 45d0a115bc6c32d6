import MonitorFleet.Net.Address

/-!
# Endpoints

Where a monitor is reached: a host and a port. A host that is an address of version 6 stands in
brackets, since its colons would run into the port's.
-/

namespace MonitorFleet

/-- How monitors are reached. -/
inductive Connectivity where
  /-- At the address of their node. -/
  | direct
  /-- Through a tunnel to their pod. -/
  | portForward
  deriving DecidableEq, Repr

/-- The local address that tunnels listen on. -/
def tunnelHost : String := "127.0.0.1"

structure Endpoint where
  host : String
  port : UInt16
  deriving DecidableEq, Repr

namespace Endpoint

def text (e : Endpoint) : String :=
  if Net.isAddress6 e.host then s!"[{e.host}]:{e.port}" else s!"{e.host}:{e.port}"

end Endpoint

end MonitorFleet
