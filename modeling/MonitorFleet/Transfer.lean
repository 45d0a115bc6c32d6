import MonitorFleet.Counters
import MonitorFleet.Error
import MonitorFleet.Tree.Walk

/-!
# Transfers

The bytes of a stream are added to the end of a file. They are written in blocks, in the
background: that a block was refused shows when the next one is due, or at the end. Nothing that
was in the file is lost, and what arrived before a stream broke stays.
-/

namespace MonitorFleet

/-- A transfer under way. -/
structure Transfer where
  path : String
  /-- Where the bytes go. -/
  place : Location
  /-- How many bytes were handed over. -/
  written : UInt64
  /-- Why the last block was refused, as long as that has not shown. -/
  refused : Option Fault
  deriving DecidableEq, Repr

/-- A part of a stream. -/
inductive StreamItem where
  | chunk (data : ByteArray)
  /-- The stream breaks. -/
  | broken (status : Status)

namespace Transfer

/-- The most bytes of a block. -/
def blockSize : Nat := 2 * 1024 * 1024

/-- The bytes in blocks. -/
def blocks (data : ByteArray) : List ByteArray :=
  if data.size ≤ blockSize then (if data.isEmpty then [] else [data])
  else (List.range ((data.size + blockSize - 1) / blockSize)).map fun i =>
    data.extract (i * blockSize) (min data.size ((i + 1) * blockSize))

/-- Opens the file of a transfer. -/
def start (path : String) (tree : Tree) : Except Error (Transfer × Tree) :=
  match tree.openFile path with
  | .error fault => .error (.transfer path (.write fault))
  | .ok (place, tree) => .ok (⟨path, place, 0, none⟩, tree)

/-- Writes a block, unless the last one was refused. -/
def block (t : Transfer) (tree : Tree) (data : ByteArray) : Except Error (Transfer × Tree) :=
  match t.refused with
  | some fault => .error (.transfer t.path (.write fault))
  | none =>
    match tree.append t.place data with
    | .ok tree => .ok (t, tree)
    | .error fault => .ok ({ t with refused := some fault }, tree)

/-- Writes blocks in order. -/
def blocksIn (t : Transfer) (tree : Tree) : List ByteArray → Except Error Transfer × Tree
  | [] => (.ok t, tree)
  | data :: rest =>
    match t.block tree data with
    | .error error => (.error error, tree)
    | .ok (t, tree) => t.blocksIn tree rest

/-- Takes a chunk of the stream. -/
def chunk (t : Transfer) (tree : Tree) (data : ByteArray) : Except Error Transfer × Tree :=
  match t.blocksIn tree (blocks data) with
  | (.error error, tree) => (.error error, tree)
  | (.ok t, tree) => (.ok { t with written := t.written + data.size.toUInt64 }, tree)

/-- The error of a stream that broke. -/
def broken (t : Transfer) (status : Status) : Error := .transfer t.path (.receive status)

/-- What a transfer comes to when its stream has ended: how many bytes were written. -/
def finish (t : Transfer) : Except Error UInt64 :=
  match t.refused with
  | some fault => .error (.transfer t.path (.write fault))
  | none => .ok t.written

/-- Takes the rest of a stream. -/
def drain (t : Transfer) (tree : Tree) : List StreamItem → Except Error UInt64 × Tree
  | [] => (t.finish, tree)
  | .broken status :: _ => (.error (t.broken status), tree)
  | .chunk data :: rest =>
    match t.chunk tree data with
    | (.error error, tree) => (.error error, tree)
    | (.ok t, tree) => t.drain tree rest

/-- Counts the bytes of a transfer that came to its end. -/
def count (counters : Counters) : Except Error UInt64 → Counters
  | .ok written => counters.add .transferBytes written
  | .error _ => counters

/-- Adds the bytes of a stream to the end of the file at a path. -/
def run (path : String) (stream : List StreamItem) (tree : Tree) (counters : Counters) :
    Except Error UInt64 × Tree × Counters :=
  match start path tree with
  | .error error => (.error error, tree, counters)
  | .ok (t, tree) =>
    let (result, tree) := t.drain tree stream
    (result, tree, count counters result)

end Transfer

end MonitorFleet
