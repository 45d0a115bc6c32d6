import MonitorFleet.Net.StatusCode
import MonitorFleet.Text.Quoted
import MonitorFleet.Text.Utf8

/-!
# What can go wrong with a request

A request may not be sent at all, be refused, or be answered by something that makes no sense.
-/

namespace MonitorFleet.Kubernetes

/-- Why a server refuses a request. -/
structure Refusal where
  status : String
  message : String
  reason : String
  code : Nat
  deriving DecidableEq, Repr

namespace Refusal

/-- All parts of a refusal. -/
def fields (r : Refusal) : String :=
  s!"ErrorResponse \x7b status: {Text.quote r.status}, message: {Text.quote r.message}, " ++
    s!"reason: {Text.quote r.reason}, code: {r.code} \x7d"

/-- A refusal of which only the status code and the body are known. -/
def ofBody (code : Nat) (body : String) : Refusal :=
  ⟨Net.statusText code, Text.quote body, "Failed to parse error data", code⟩

end Refusal

inductive Problem where
  /-- The name of what is asked for is empty. -/
  | noName
  /-- The address holds a character that may not stand there. -/
  | badUri
  | longUri
  /-- The body of the reply is not text. -/
  | notText (fault : Text.Utf8Fault)
  | refused (refusal : Refusal)
  /-- The body of the reply is not what was asked for. -/
  | badBody
  /-- The server does not open the way that was asked for. -/
  | notUpgraded (code : Nat)
  deriving DecidableEq, Repr

namespace Problem

def text : Problem → String
  | noName => "Failed to build request: failed to validate request: A non-empty name is required"
  | badUri => "Failed to build request: failed to build request: invalid uri character"
  | longUri => "Failed to build request: failed to build request: uri too long"
  | notText fault => s!"UTF-8 Error: {fault.text}"
  | refused r => s!"ApiError: {r.message}: {r.reason} ({r.fields})"
  | badBody => "Error deserializing response: "
  | notUpgraded code =>
    "failed to upgrade to a WebSocket connection: failed to switch protocol: " ++
      Net.statusText code

end Problem

end MonitorFleet.Kubernetes
