import MonitorFleet.Json.Fields
import MonitorFleet.Kubernetes.Problem

/-!
# Replies

A server answers with a status code and a body, or it opens the way that was asked for. A reply
with an error code is a refusal, whose body says why if it can be read.
-/

namespace MonitorFleet.Kubernetes

inductive Reply where
  | response (code : Nat) (body : ByteArray)
  /-- A way to a pod is open. -/
  | upgraded

namespace Refusal

/-- What is given of a refusal. -/
structure Given where
  status : Option String := none
  message : Option String := none
  reason : Option String := none
  code : Option Nat := none

/-- The refusal, if all is given that it needs. -/
def Given.complete? (g : Given) : Option Refusal :=
  match g.status, g.code with
  | some status, some code => some ⟨status, g.message.getD "", g.reason.getD "", code⟩
  | _, _ => none

/-- The fields of a refusal. -/
def shape : Json.Shape Given where
  expected := "struct ErrorResponse"
  keys := ["status", "message", "reason", "code"]
  isGiven g
    | 0 => g.status.isSome
    | 1 => g.message.isSome
    | 2 => g.reason.isSome
    | _ => g.code.isSome
  readField
    | 0, g => fun cs => (Json.readString cs).map
        (Json.Read.map fun s => { g with status := some s })
    | 1, g => fun cs => (Json.readString cs).map
        (Json.Read.map fun s => { g with message := some s })
    | 2, g => fun cs => (Json.readString cs).map
        (Json.Read.map fun s => { g with reason := some s })
    | _, g => fun cs => (Json.readNatural UInt16.size "u16" cs).map
        (Json.Read.map fun n => { g with code := some n })

/-- The refusal that a body describes. -/
def read? (body : String) : Option Refusal :=
  match Json.readDocument (shape.read {}) body with
  | .ok given => given.complete?
  | .error _ => none

end Refusal

namespace Reply

/-- Whether a status code says that the request was refused. -/
def isErrorCode (code : Nat) : Bool := 400 ≤ code && code < 600

/-- Whether a reply with this status code has no body, whatever was sent. -/
def isBodiless (code : Nat) : Bool := code = 204 || code = 304

/-- The text of a reply to a request to read something. -/
def body : Reply → Except Problem String
  | upgraded => .error .badBody
  | response code bytes =>
    if isBodiless code then .ok ""
    else match Text.decodeUtf8 bytes with
      | .error fault => .error (.notText fault)
      | .ok text =>
        if isErrorCode code then
          .error (.refused ((Refusal.read? text).getD (.ofBody code text)))
        else .ok text

/-- Whether a reply opens the way that was asked for. -/
def opening : Reply → Except Problem Unit
  | upgraded => .ok ()
  | response code _ => .error (.notUpgraded code)

end Reply

end MonitorFleet.Kubernetes
