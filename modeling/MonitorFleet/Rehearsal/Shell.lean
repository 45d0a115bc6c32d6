import MonitorFleet.CommandLine.Reach
import MonitorFleet.Rehearsal.ApiServer

/-!
# Command lines against a scripted fleet

A command line is carried out on a tree, with a scripted fleet for a cluster. While a command waits
in vain for a monitor, or for a collection to be over, a signal may reach it: it is sent once the
command has printed some text and a file has grown to some size.
-/

namespace MonitorFleet.Rehearsal

open CommandLine

/-- Whether some characters stand next to one another in others. -/
def occurs (wanted : List Char) : List Char → Bool
  | [] => wanted.isEmpty
  | c :: cs => wanted.isPrefixOf (c :: cs) || occurs wanted cs

/-- A signal and when it is sent. -/
structure SignalPlan where
  signal : Signal
  /-- What must have been printed. -/
  text : String
  /-- What file must have how many bytes. -/
  file : Option (String × Nat)

namespace SignalPlan

/-- Whether the file has grown as far as it must. -/
def fileIsReady (p : SignalPlan) (tree : Tree) : Bool :=
  match p.file with
  | none => true
  | some (path, size) =>
    match tree.read path with
    | .ok bytes => size ≤ bytes.size
    | .error _ => false

/-- Whether the signal is sent, with some lines printed. -/
def isDue (p : SignalPlan) (printed : List String) (tree : Tree) : Bool :=
  (p.text = "" || printed.any fun line => occurs p.text.toList line.toList) && p.fileIsReady tree

end SignalPlan

/-- A command line, and what may happen while it is carried out. -/
structure Rehearsed where
  line : Setting
  /-- Whether the cluster can be reached. -/
  reachesCluster : Bool
  plan : Option SignalPlan

namespace Rehearsed

/-- When the signal comes, and the record of it, for a command that printed some lines. -/
def interruption (r : Rehearsed) (o : Options) (printed : List String) :
    Interruption ServedFleet :=
  match r.plan with
  | none => .never
  | some p => ⟨fun _ w => p.isDue (printed ++ r.line.console o w.log) w.tree,
      fun w => w.note p.signal.record⟩

/-- The scene in which pauses come to an end only if no signal is to come. -/
def withPatience (patient : Bool) (s : Scene ServedFleet) : Scene ServedFleet :=
  { s with outside := { s.outside with fleet := { s.outside.fleet with patient } } }

/-- How operations are carried through on a scene. -/
def onScene {α : Type} (operation : Scene ServedFleet → α × Scene ServedFleet) (w : World)
    (served : ServedFleet) : α × World × ServedFleet :=
  let (result, s) := operation ⟨w, served⟩
  (result, s.world, s.outside)

/-- Lists the nodes. -/
def listAll (s : Scene ServedFleet) : Except Error (List NodeAddress) × Scene ServedFleet :=
  let (outside, nodes, records) := ServedFleet.outside.listNodes s.outside
  (nodes, ⟨records.foldl World.note s.world, outside⟩)

/-- Waits for a collection to be over; the signal may come meanwhile, unless it came before. -/
def await (r : Rehearsed) (o : Options) (run : CollectionRun) (wait : Duration) (token : RunToken)
    (w : World) : World :=
  let i := r.interruption o [Collect.announcement run]
  if w.isCancelled token then w
  else match r.plan with
    | none => w
    | some p =>
      if wait ≠ .zero ∧ p.isDue ([Collect.announcement run] ++ r.line.console o w.log) w.tree then
        (i.note w).cancel token
      else w

/-- How the operations with the fleet are carried through. -/
def reach (r : Rehearsed) (o : Options) : Reach ServedFleet where
  listNodes := onScene listAll
  fetchAll i token := onScene fun s =>
    fetchAll ServedFleet.outside i token (r.interruption o []) (withPatience r.plan.isNone s)
  start c run token := onScene
    (startCollection ServedFleet.outside c run token (r.interruption o []))
  await run wait token w served := (r.await o run wait token w, served)
  finish c run token isCut := onScene
    (endCollection ServedFleet.outside c run token
      (if isCut then .never else r.interruption o [Collect.announcement run]))

/-- What a command does once its session is open. -/
def act (r : Rehearsed) : Act ServedFleet := fun inv session w served =>
  if !r.reachesCluster then alone inv session w served
  else (r.reach inv.options).act inv session w
    { served with client := ⟨session.config.namespaceName⟩ }

/-- Carries out a command line: what it leads to, the tree afterwards, and the fleet. -/
def perform (r : Rehearsed) (tree : Tree) (served : ServedFleet) :
    Performance × Tree × ServedFleet :=
  r.line.perform r.act tree served

end Rehearsed

end MonitorFleet.Rehearsal
