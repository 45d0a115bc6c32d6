import MonitorFleet.Kubernetes.Client
import MonitorFleet.Kubernetes.Relay
import MonitorFleet.Kubernetes.Written

/-!
# A scripted API server

An API server that replies from a list, whatever it is asked, and remembers the requests. Where it
opens a way to a pod, the pod answers each message with the message, some bytes put before it.
Clients visit a tunnel to such a pod one after the other.
-/

namespace MonitorFleet.Rehearsal

open Kubernetes (Client Reply Request Served)

/-- A reply of the script. -/
inductive ServerReply where
  | response (code : Nat) (body : ByteArray)
  /-- A way to a pod that puts some bytes before each message. -/
  | echo (before : ByteArray)

structure ScriptedServer where
  replies : List ServerReply
  requests : List Request := []
  /-- For each way that was opened, in order, what it puts before messages. -/
  echoes : List ByteArray := []

namespace ScriptedServer

/-- The reply when the script is used up. -/
def exhausted : Reply :=
  .response 404 (Kubernetes.refusalText 404 "NotFound" "nothing scripted").toUTF8

/-- Replies to a request. -/
def serve : Kubernetes.Server ScriptedServer := fun request s =>
  let s := { s with requests := s.requests ++ [request] }
  match s.replies with
  | [] => (s, exhausted)
  | .response code body :: rest => ({ s with replies := rest }, .response code body)
  | .echo before :: rest =>
    ({ s with replies := rest, echoes := s.echoes ++ [before] }, .upgraded)

end ScriptedServer

/-! ### Visits to a tunnel -/

/-- What a client does at a tunnel: it sends messages, one after the other, and reads back each
one and so many bytes more. It may stay connected until the tunnel is closed. -/
structure Visit where
  messages : List ByteArray
  more : Nat
  stays : Bool

/-- What a client sees. -/
inductive Seen where
  | content (bytes : ByteArray)
  | closed
  | closedByCancel

/-- What a client reads back when a way puts some bytes before each message; `unread` are the bytes
that arrived and were not read. -/
def readBack (before : ByteArray) (more : Nat) (unread : ByteArray) : List ByteArray → List Seen
  | [] => []
  | message :: messages =>
    let arrived := unread ++ (if message.isEmpty then .empty else before ++ message)
    let wanted := more + message.size
    if arrived.size < wanted then [.closed]
    else .content (arrived.extract 0 wanted) ::
      readBack before more (arrived.extract wanted arrived.size) messages

/-- A client visits the tunnel. If it stays, the run of the tunnel is cancelled under it. -/
def visit (pod : PodRef) (port : UInt16) (t : Served ScriptedServer) (v : Visit) :
    Served ScriptedServer × List Seen :=
  let wasListening := t.relay.listening
  let number := t.relay.accepted.length
  let t := t.run ScriptedServer.serve pod port [.connection, .turn number]
  let seen := match t.relay.accepted.getLast?.bind (·.way?) with
    | some way =>
      if wasListening then readBack ((t.server.echoes[way]?).getD .empty) v.more .empty v.messages
      else [.closed]
    | none => if v.messages.isEmpty then [] else [.closed]
  if v.stays then
    (t.step ScriptedServer.serve pod port .cancelled, seen ++ [.closedByCancel])
  else (t.step ScriptedServer.serve pod port (.finished number), seen)

/-- Clients visit the tunnel, one after the other. -/
def visitAll (pod : PodRef) (port : UInt16) (t : Served ScriptedServer) : List Visit →
    Served ScriptedServer × List (List Seen)
  | [] => (t, [])
  | v :: vs =>
    let (t, seen) := visit pod port t v
    let (t, rest) := visitAll pod port t vs
    (t, seen :: rest)

/-- Opens a tunnel to a pod and lets clients visit it, until its run is cancelled: what they see,
and whether the tunnel is closed afterwards. -/
def visitTunnel (pod : PodRef) (port : UInt16) (visits : List Visit) (server : ScriptedServer) :
    ScriptedServer × Except Error (List (List Seen) × Bool) :=
  match Client.openForward ScriptedServer.serve pod port server with
  | (server, .error error) => (server, .error error)
  | (server, .ok ()) =>
    let (t, seen) := visitAll pod port ⟨.start, server⟩ visits
    let t := t.step ScriptedServer.serve pod port .cancelled
    (t.server, .ok (seen, !t.relay.listening))

end MonitorFleet.Rehearsal
