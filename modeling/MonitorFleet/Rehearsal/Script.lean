import MonitorFleet.Progress

/-!
# Scripted monitors

A scripted monitor answers its calls from lists of replies, one for each call, the last one
repeating. A stream is sent in frames: messages gather until a frame is full, and when the stream
breaks, what the last frame held is lost.
-/

namespace MonitorFleet.Rehearsal

/-- How a stream comes to an end. -/
inductive StreamEnd where
  | clean
  /-- It never does. -/
  | never
  | broken (status : Status)

/-- A monitor's reply to a call. -/
inductive MonitorReply where
  | refuse (status : Status)
  /-- The call is never answered. -/
  | hang
  /-- The call is taken; without chunks of its own the stream is the usual one. -/
  | accept (chunks : Option (List ByteArray)) (finish : StreamEnd)

/-- The replies of a monitor, by call. -/
structure MonitorScript where
  start : List MonitorReply
  sysinfo : List MonitorReply
  results : List MonitorReply

/-- The reply to the call with this number, counted from zero. -/
def replyAt (replies : List MonitorReply) (n : Nat) : MonitorReply :=
  (replies[min n (replies.length - 1)]?).getD (.accept none .clean)

/-- The replies to a call. -/
def MonitorScript.replies (s : MonitorScript) : Call → List MonitorReply
  | .startCollection .. => s.start
  | .getSysInfo => s.sysinfo
  | .getCollectionResults _ => s.results

/-- What a monitor streams if its script does not say. -/
def usualChunks (node : String) : Call → List ByteArray
  | .getSysInfo => [s!"node: {node}\n".toUTF8, "kernel: 6.1\n".toUTF8]
  | .getCollectionResults run => ["BZh9".toUTF8, s!"archive of {run} on {node}".toUTF8]
  | .startCollection .. => []

/-! ### Frames -/

/-- How many bytes a length takes. -/
def lengthBytes (n : Nat) : Nat := if n < 128 then 1 else 1 + lengthBytes (n / 128)

/-- The size of a chunk as a message. -/
def messageSize (chunk : ByteArray) : Nat :=
  if chunk.isEmpty then 0 else 1 + lengthBytes chunk.size + chunk.size

/-- A frame of this size is sent. -/
def frameSize : Nat := 32768

/-- The largest message that is taken. -/
def maxMessage : Nat := 4 * 1024 * 1024

/-- The chunks that are sent before a stream breaks. `pending` are the chunks of the frame that is
being filled, the last one first, and `size` is its size. -/
def sentBeforeBreak (pending : List ByteArray) (size : Nat) : List ByteArray → List ByteArray
  | [] => []
  | chunk :: chunks =>
    let size := size + 5 + messageSize chunk
    if frameSize ≤ size then (chunk :: pending).reverse ++ sentBeforeBreak [] 0 chunks
    else sentBeforeBreak (chunk :: pending) size chunks

/-- What arrives of a stream. -/
def arriving (chunks : List ByteArray) (finish : StreamEnd) : List Answer :=
  let sent := match finish with
    | .broken _ => sentBeforeBreak [] 0 chunks
    | _ => chunks
  let fitting := sent.takeWhile fun c => messageSize c ≤ maxMessage
  let last := match sent.drop fitting.length with
    | large :: _ => [Answer.broken ⟨.outOfRange,
        s!"Error, message length too large: found {messageSize large} bytes, " ++
          s!"the limit is: {maxMessage} bytes"⟩]
    | [] => match finish with
      | .clean => [.ended]
      | .never => []
      | .broken status => [.broken status]
  fitting.map Answer.chunk ++ last

end MonitorFleet.Rehearsal
