import MonitorFleet.FanOut
import MonitorFleet.Task

/-!
# Collections

A collection run has two phases. First the monitors of all nodes with pods of the session are told
to start; the nodes whose monitors agreed take part in the run. Later their results are fetched,
each into an archive of its own in the directory of the run. A node that fails drops out and leaves
the others alone.
-/

namespace MonitorFleet

/-- The tasks of an operation as the tasks of a fan-out. -/
def Work.fanOut (work : Work) (spans : List Span) : Operation World Task Happening where
  name := work.operation
  spans := spans
  spawn w _ := (w, .idle)
  step node w task happening := (task.step work node w happening).map fun (w, progress) =>
    (w, match progress with
      | .waiting task => .waiting task
      | .finished result => .finished (result.map fun _ => ()))
  drop := Task.drop
  isCancelled w := w.isCancelled work.run
  cancel w := w.cancel work.run
  note := World.note

/-- A run that was started. -/
structure CollectionRun where
  id : String
  /-- The directory that its archives go to. -/
  dir : String
  /-- The nodes that take part. -/
  participants : NameSet
  /-- What became of the start on each node. -/
  startReport : Report

/-- Collects for a session, for so many seconds. -/
structure Collector where
  session : Session
  durationSecs : UInt32

namespace Collector

/-- The collector of a session, by its settings. -/
def ofSession (s : Session) : Collector := ⟨s, s.config.collectionDurationSecs⟩

/-- The collector with another duration. -/
def withDuration (c : Collector) (secs : UInt32) : Collector := { c with durationSecs := secs }

def target : String := "knb_core::collection"

/-! ### Starting -/

def startSpan (run : String) : Span := ⟨"start_collection", target, [("run_id", Text.quote run)]⟩

/-- Makes the directory of a run and asks for the nodes of the session. -/
def prepare (c : Collector) (run : String) (w : World) : Except Error String × World :=
  match c.session.runDir run w.tree with
  | (.error error, tree) => (.error error, { w with tree })
  | (.ok dir, tree) =>
    (.ok dir, World.ask { w with tree } (.sessionNodes c.session.workloadSelector))

/-- The work of starting a run. -/
def startWork (c : Collector) (run : String) (token : RunToken) : Work where
  monitors := c.session.monitors
  run := token
  operation := "StartCollection"
  policy := none
  job _ := .start run (toString c.durationSecs)

/-- The fan-out of a start, around which a span stands. -/
def startOperation (c : Collector) (run : String) (token : RunToken) :
    Operation World Task Happening :=
  (c.startWork run token).fanOut [startSpan run]

/-- Begins to start a run on nodes. -/
def launch (c : Collector) (run : String) (token : RunToken) (nodes : NameSet) (w : World) :
    FanOut World Task :=
  FanOut.start (c.startOperation run token) nodes.names
    (w.note ⟨.info, target, [startSpan run],
      s!"Starting collection {run} on {nodes.size} node(s)"⟩)

/-- The run that comes of a start which is over. -/
def started (run dir : String) (f : FanOut World Task) : CollectionRun × World :=
  (⟨run, dir, f.report.succeeded, f.report⟩,
    f.world.note (f.report.summary.within [startSpan run]))

/-! ### Ending -/

def endSpan (run : String) : Span := ⟨"end_collection", target, [("run_id", run)]⟩

/-- The work of fetching the results of a run. -/
def endWork (c : Collector) (run : CollectionRun) (token : RunToken) : Work where
  monitors := c.session.monitors
  run := token
  operation := "GetCollectionResults"
  policy := none
  job node := .fetchResults run.id (Session.archivePath run.dir node)

/-- The fan-out of an end, around which a span stands. -/
def endOperation (c : Collector) (run : CollectionRun) (token : RunToken) :
    Operation World Task Happening :=
  (c.endWork run token).fanOut [endSpan run.id]

/-- Begins to fetch the results of a run. -/
def collect (c : Collector) (run : CollectionRun) (token : RunToken) (w : World) :
    FanOut World Task :=
  FanOut.start (c.endOperation run token) run.participants.names w

/-- The report of an end that is over. -/
def ended (run : CollectionRun) (f : FanOut World Task) : Report × World :=
  (f.report, f.world.note (f.report.summary.within [endSpan run.id]))

end Collector

end MonitorFleet
