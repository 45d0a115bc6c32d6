import MonitorFleet.Proofs.Transfer.Chunks

/-!
# Transfers to any disk

In the tree, a file takes every byte, and only a device refuses some. A real disk fills up, or breaks,
in the middle of a stream. So the transfer of a stream is given here for any disk (`Disk`), one that
may refuse a block at any time and keep a part of it, and it is kept what of the stream was not read.
The tree is one of these disks.

## What is proved

* `writeAll_append`, `content?_writeAll`: blocks go to the disk one after the other.
* `drain_of_taken`, `run_of_taken`: a stream whose blocks are all taken.
* `drain_of_refused`, `run_of_refused`: a stream with a block that is refused.
* `run_of_unopened`: a file that cannot be opened.
-/

namespace MonitorFleet

/-- **A disk as a transfer sees it**: it opens the file at a path, and takes blocks for it or refuses
them. What it keeps of a block that it refuses is left open. -/
structure Disk (σ φ : Type) where
  openFile : String → σ → Except Fault (φ × σ)
  write : φ → σ → ByteArray → Except Fault Unit × σ
  /-- The bytes in a file, if it is one that keeps them. -/
  content? : φ → σ → Option ByteArray
  /-- To open a file leaves its bytes; a missing one is made, without any. -/
  opens : ∀ path s file s', openFile path s = .ok (file, s') →
    content? file s' = content? file s ∨ (content? file s = none ∧ content? file s' = some .empty)
  /-- A block that is taken is added at the end. -/
  appends : ∀ file s data s', write file s data = (.ok (), s') →
    content? file s' = (content? file s).map (· ++ data)

namespace Transfer

/-- The chunks of a stream, up to where it breaks. -/
def received : List StreamItem → List ByteArray
  | .chunk data :: rest => data :: received rest
  | _ => []

/-- Why a stream breaks, if it does. -/
def break? : List StreamItem → Option Status
  | [] => none
  | .broken status :: _ => some status
  | .chunk _ :: rest => break? rest

/-- What is in a stream behind its break. -/
def behind : List StreamItem → List StreamItem
  | [] => []
  | .broken _ :: rest => rest
  | .chunk _ :: rest => behind rest

/-- What a stream comes to if all of its bytes are taken: how many there are, or why it broke. -/
def ending (path : String) (stream : List StreamItem) : Except Error UInt64 :=
  match break? stream with
  | none => .ok (joined (received stream)).size.toUInt64
  | some status => .error (.transfer path (.receive status))

end Transfer

namespace Disk

open Transfer

variable {σ φ : Type} {d : Disk σ φ} {s s' : σ} {file : φ}

/-- A transfer to a disk under way. -/
structure Copy (φ : Type) where
  path : String
  file : φ
  /-- How many bytes were handed over. -/
  written : UInt64
  /-- Why the last block was refused, as long as that has not shown. -/
  refused : Option Fault

/-- What became of a transfer to a disk. -/
structure Outcome (σ : Type) where
  result : Except Error UInt64
  disk : σ
  counters : Counters
  /-- What of the stream was not read. -/
  unread : List StreamItem

/-- Writes a block, unless the last one was refused. -/
def block (d : Disk σ φ) (c : Copy φ) (s : σ) (data : ByteArray) : Except Error (Copy φ × σ) :=
  match c.refused with
  | some fault => .error (.transfer c.path (.write fault))
  | none =>
    match d.write c.file s data with
    | (.ok (), s) => .ok (c, s)
    | (.error fault, s) => .ok ({ c with refused := some fault }, s)

/-- Writes blocks in order. -/
def blocksIn (d : Disk σ φ) (c : Copy φ) (s : σ) : List ByteArray → Except Error (Copy φ) × σ
  | [] => (.ok c, s)
  | data :: rest =>
    match d.block c s data with
    | .error error => (.error error, s)
    | .ok (c, s) => d.blocksIn c s rest

/-- Takes a chunk of the stream. -/
def chunk (d : Disk σ φ) (c : Copy φ) (s : σ) (data : ByteArray) : Except Error (Copy φ) × σ :=
  match d.blocksIn c s (blocks data) with
  | (.error error, s) => (.error error, s)
  | (.ok c, s) => (.ok { c with written := c.written + data.size.toUInt64 }, s)

/-- What a transfer comes to when its stream has ended. -/
def Copy.finish (c : Copy φ) : Except Error UInt64 :=
  match c.refused with
  | some fault => .error (.transfer c.path (.write fault))
  | none => .ok c.written

/-- Takes the rest of a stream, and tells what was not read of it. -/
def drain (d : Disk σ φ) (c : Copy φ) (s : σ) :
    List StreamItem → Except Error UInt64 × σ × List StreamItem
  | [] => (c.finish, s, [])
  | .broken status :: rest => (.error (.transfer c.path (.receive status)), s, rest)
  | .chunk data :: rest =>
    match d.chunk c s data with
    | (.error error, s) => (.error error, s, rest)
    | (.ok c, s) => d.drain c s rest

/-- Adds the bytes of a stream to the end of the file at a path. -/
def run (d : Disk σ φ) (path : String) (stream : List StreamItem) (s : σ) (counters : Counters) :
    Outcome σ :=
  match d.openFile path s with
  | .error fault => ⟨.error (.transfer path (.write fault)), s, counters, stream⟩
  | .ok (file, s) =>
    match d.drain ⟨path, file, 0, none⟩ s stream with
    | (result, s, unread) => ⟨result, s, count counters result, unread⟩

/-! ### Blocks -/

/-- Blocks handed over in order, up to the first one that is refused. -/
def writeAll (d : Disk σ φ) (file : φ) (s : σ) : List ByteArray → Except Fault Unit × σ
  | [] => (.ok (), s)
  | data :: rest =>
    match d.write file s data with
    | (.ok (), s) => d.writeAll file s rest
    | (.error fault, s) => (.error fault, s)

theorem writeAll_append (d : Disk σ φ) (file : φ) (s : σ) (parts rest : List ByteArray) :
    d.writeAll file s (parts ++ rest) =
      match d.writeAll file s parts with
      | (.ok (), s) => d.writeAll file s rest
      | (.error fault, s) => (.error fault, s) := by
  induction parts generalizing s with
  | nil => rfl
  | cons data parts ih =>
    rw [List.cons_append, writeAll, writeAll]
    split
    · exact ih _
    · rfl

/-- Blocks that are taken are added at the end, one after the other. -/
theorem content?_writeAll {parts : List ByteArray} (taken : d.writeAll file s parts = (.ok (), s')) :
    d.content? file s' = (d.content? file s).map (· ++ joined parts) := by
  induction parts generalizing s with
  | nil =>
    cases taken
    simp
  | cons data parts ih =>
    rw [writeAll] at taken
    split at taken
    · next next hwrite =>
      rw [ih taken, d.appends _ _ _ _ hwrite, Option.map_map, joined_cons]
      congr 1
      funext content
      exact ByteArray.append_assoc
    · cases taken

theorem joined_flatMap_blocks (chunks : List ByteArray) :
    joined (chunks.flatMap blocks) = joined chunks := by
  induction chunks with
  | nil => rfl
  | cons data chunks ih =>
    rw [List.flatMap_cons, joined_append, joined_blocks, ih, joined_cons]

variable {c : Copy φ} {parts : List ByteArray} {stream : List StreamItem} {fault : Fault}

theorem blocksIn_of_taken (unrefused : c.refused = none)
    (taken : d.writeAll c.file s parts = (.ok (), s')) : d.blocksIn c s parts = (.ok c, s') := by
  induction parts generalizing s with
  | nil =>
    cases taken
    rfl
  | cons data parts ih =>
    rw [writeAll] at taken
    rw [blocksIn, block, unrefused]
    split at taken
    · next next hwrite =>
      exact ih taken
    · cases taken

/-- That a block was refused shows with the next one; the last one of a chunk is not known yet. -/
theorem blocksIn_of_refused (unrefused : c.refused = none)
    (refused : d.writeAll c.file s parts = (.error fault, s')) :
    d.blocksIn c s parts = (.error (.transfer c.path (.write fault)), s') ∨
      d.blocksIn c s parts = (.ok { c with refused := some fault }, s') := by
  induction parts generalizing s with
  | nil => cases refused
  | cons data parts ih =>
    rw [writeAll] at refused
    rw [blocksIn, block, unrefused]
    split at refused
    · next next hwrite =>
      exact ih refused
    · next fault' next hwrite =>
      cases refused
      cases parts with
      | nil => exact .inr rfl
      | cons data' parts => exact .inl rfl

/-! ### Streams -/

/-- A stream whose blocks are all taken is added in full up to where it breaks. What is behind
the break is not read. -/
theorem drain_of_taken (unrefused : c.refused = none)
    (taken : d.writeAll c.file s ((received stream).flatMap blocks) = (.ok (), s')) :
    d.drain c s stream =
      (match break? stream with
        | none => .ok (c.written + (joined (received stream)).size.toUInt64)
        | some status => .error (.transfer c.path (.receive status)),
      s', behind stream) := by
  induction stream generalizing c s with
  | nil =>
    cases taken
    rw [drain, Copy.finish, unrefused]
    simp [break?, received, behind]
  | cons item rest ih =>
    cases item with
    | broken status =>
      cases taken
      rfl
    | chunk data =>
      rw [received, List.flatMap_cons, writeAll_append] at taken
      split at taken
      · next next htaken =>
        rw [drain, chunk, blocksIn_of_taken unrefused htaken]
        refine (ih (c := { c with written := c.written + data.size.toUInt64 }) unrefused taken).trans ?_
        simp only [break?, received, behind, joined_cons, ByteArray.size_append]
        cases break? rest with
        | some status => rfl
        | none =>
          rw [UInt64.add_assoc]
          refine congrArg (fun n => (Except.ok (c.written + n), s', behind rest)) ?_
          exact (UInt64.ofNat_add _ _).symm
      · cases taken

/-- What ends a transfer with a block that was refused: the fault, or a break that comes before the
fault shows. -/
def EndsRefused (path : String) (fault : Fault) (stream : List StreamItem)
    (result : Except Error UInt64) : Prop :=
  ∃ cause, result = .error (.transfer path cause) ∧
    (cause = .write fault ∨ ∃ status, break? stream = some status ∧ cause = .receive status)

/-- After a block was refused nothing more is written. -/
theorem drain_after_refused (refused : c.refused = some fault) (stream : List StreamItem) :
    EndsRefused c.path fault stream (d.drain c s stream).1 ∧ (d.drain c s stream).2.1 = s := by
  induction stream generalizing c with
  | nil =>
    refine ⟨⟨.write fault, ?_, .inl rfl⟩, rfl⟩
    rw [drain, Copy.finish, refused]
  | cons item rest ih =>
    cases item with
    | broken status => exact ⟨⟨.receive status, rfl, .inr ⟨status, rfl, rfl⟩⟩, rfl⟩
    | chunk data =>
      rw [drain, chunk]
      cases blocks data with
      | nil => exact ih (c := { c with written := c.written + data.size.toUInt64 }) refused
      | cons first parts =>
        have shows : d.blocksIn c s (first :: parts) =
            (.error (.transfer c.path (.write fault)), s) := by
          rw [blocksIn, block, refused]
        rw [shows]
        exact ⟨⟨.write fault, rfl, .inl rfl⟩, rfl⟩

/-- A stream with a block that is refused does not succeed, and nothing is written behind that
block. -/
theorem drain_of_refused (unrefused : c.refused = none)
    (refused : d.writeAll c.file s ((received stream).flatMap blocks) = (.error fault, s')) :
    EndsRefused c.path fault stream (d.drain c s stream).1 ∧ (d.drain c s stream).2.1 = s' := by
  induction stream generalizing c s with
  | nil => cases refused
  | cons item rest ih =>
    cases item with
    | broken status => cases refused
    | chunk data =>
      rw [received, List.flatMap_cons, writeAll_append] at refused
      rw [drain, chunk]
      split at refused
      · next next htaken =>
        rw [blocksIn_of_taken unrefused htaken]
        exact ih (c := { c with written := c.written + data.size.toUInt64 }) unrefused refused
      · next fault' next hrefused =>
        cases refused
        rcases blocksIn_of_refused unrefused hrefused with shows | pending
        · rw [shows]
          exact ⟨⟨.write fault, rfl, .inl rfl⟩, rfl⟩
        · rw [pending]
          exact drain_after_refused (c := { c with
            written := c.written + data.size.toUInt64, refused := some fault }) rfl rest

/-! ### Transfers -/

variable {path : String} {opened : σ} {counters : Counters}

/-- A transfer whose blocks are all taken. -/
theorem run_of_taken (opens : d.openFile path s = .ok (file, opened))
    (taken : d.writeAll file opened ((received stream).flatMap blocks) = (.ok (), s')) :
    d.run path stream s counters =
      ⟨ending path stream, s', count counters (ending path stream), behind stream⟩ := by
  have drained := drain_of_taken (c := ⟨path, file, 0, none⟩) rfl taken
  rw [run, opens]
  dsimp only
  rw [drained, ending]
  cases break? stream with
  | none => rw [UInt64.zero_add]
  | some status => rfl

/-- A transfer with a block that is refused. -/
theorem run_of_refused (opens : d.openFile path s = .ok (file, opened))
    (refused : d.writeAll file opened ((received stream).flatMap blocks) = (.error fault, s')) :
    EndsRefused path fault stream (d.run path stream s counters).result ∧
      (d.run path stream s counters).disk = s' := by
  have drained := drain_of_refused (c := ⟨path, file, 0, none⟩) rfl refused
  rw [run, opens]
  exact drained

/-- A transfer whose file cannot be opened does nothing. -/
theorem run_of_unopened (refuses : d.openFile path s = .error fault) :
    d.run path stream s counters = ⟨.error (.transfer path (.write fault)), s, counters, stream⟩ := by
  rw [run, refuses]

theorem counters_run (d : Disk σ φ) (path : String) (stream : List StreamItem) (s : σ)
    (counters : Counters) :
    (d.run path stream s counters).counters = count counters (d.run path stream s counters).result := by
  rw [run]
  cases d.openFile path s with
  | error fault => rfl
  | ok opened => rfl

end Disk

end MonitorFleet
