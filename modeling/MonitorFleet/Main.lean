import MonitorFleet.CommandLine.Program

/-!
# The program

The command line as a program of its own. The part of the file system that a session may touch is
taken into a tree, the command line is carried out on it, and what changed is written back. This
program reaches no cluster.
-/

namespace MonitorFleet.CommandLine

/-- Where a path leads from a location; links are left to the file system. -/
def locate (current : Location) (path : String) : Location :=
  (Path.names path).foldl
    (fun place name =>
      if name = "" ∨ name = "." then place
      else if name = ".." then place.dropLast
      else place ++ [name])
    (if Path.isAbsolute path then [] else current)

/-- The path of a location. -/
def pathOf (place : Location) : String := "/" ++ "/".intercalate place

/-- The paths that a session of these options may be concerned with. -/
def touchedPaths (o : Options) : List String :=
  let dir := Path.join o.baseDir (o.sessionId.getD "")
  (Path.ancestors dir).filter (· ≠ "") ++
    [Config.fileName, "session.log", "monitor.yaml"].map (Path.join dir)

/-- What stands at a path; `none` if there is nothing. -/
def entryOnDisk (path : String) : IO (Option Entry) := do
  try
    return some (.file (← IO.FS.readBinFile path))
  catch
    | .noFileOrDirectory .. => return none
    | _ => return some .directory

/-- The tree of what stands at some paths. -/
def treeOnDisk (current : Location) (paths : List String) : IO Tree := do
  let mut tree : Tree := ⟨[], current⟩
  for i in List.range current.length do
    tree := tree.put (current.take (i + 1)) .directory
  for path in paths do
    let place := locate current path
    if let some entry ← entryOnDisk (pathOf place) then
      if place ≠ [] then
        tree := tree.put place entry
  return tree

/-- Writes what stands in a tree and did not stand in an older one. -/
def writeChanges (old new : Tree) : IO Unit := do
  let ordered := new.entries.mergeSort fun a b => a.1.length ≤ b.1.length
  for (place, entry) in ordered do
    match entry, old.get? place with
    | .directory, none => IO.FS.createDirAll (pathOf place)
    | .file content, some (.file before) =>
      if content.toList ≠ before.toList then IO.FS.writeBinFile (pathOf place) content
    | .file content, _ => IO.FS.writeBinFile (pathOf place) content
    | _, _ => pure ()

/-- The setting of the log's filter. -/
def filterVariable : String := "KNB_LOG"

/-- Carries out a command line and gives its exit code. -/
def execute (words : List String) : IO UInt32 := do
  let line : Setting :=
    ⟨words, ← IO.getEnv filterVariable, (← IO.rand 0 0xFFFFFFFF).toUInt32⟩
  let current := locate [] (toString (← IO.currentDir))
  let paths := match parse words with
    | .ok inv => touchedPaths inv.options
    | .error _ => []
  let old ← treeOnDisk current paths
  let (performance, new, _) := line.perform alone old ()
  writeChanges old new
  for text in performance.console ++ performance.printed do
    IO.println text
  for text in performance.errors do
    IO.eprintln text
  match parse words with
  | .error .help => usage.forM fun text => IO.println text
  | .error .misuse => usage.forM fun text => IO.eprintln text
  | .ok _ => pure ()
  return performance.exitCode.toUInt32

end MonitorFleet.CommandLine

def main (words : List String) : IO UInt32 := MonitorFleet.CommandLine.execute words
