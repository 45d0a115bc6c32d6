import MonitorFleet.CommandLine.Program
import MonitorFleet.SystemInfo

/-!
# Commands with a cluster

What the commands do once their session is open and the cluster can be reached. How an operation with
the cluster is carried through is up to a `Reach`: a command makes a run for each of its operations,
hands it over, and tells what came of it. The collection goes on from its start to its end only if some
monitor agreed to start.
-/

namespace MonitorFleet.CommandLine

/-- How the operations with a cluster are carried through: what comes of each of them, the world
afterwards, and the state of whatever carries them through. -/
structure Reach (σ : Type) where
  /-- Lists the nodes. -/
  listNodes : World → σ → Except Error (List NodeAddress) × World × σ
  /-- Fetches the system information of all nodes. -/
  fetchAll : SystemInfo → RunToken → World → σ → Except Error Unit × World × σ
  /-- Starts a collection. -/
  start : Collector → String → RunToken → World → σ → Except Error CollectionRun × World × σ
  /-- Waits for a collection to be over, unless it is cancelled. -/
  await : CollectionRun → Duration → RunToken → World → σ → World × σ
  /-- Fetches the results of a collection, the wait for which was cut short or not. -/
  finish : Collector → CollectionRun → RunToken → (isCut : Bool) → World → σ → Report × World × σ

namespace Reach

variable {σ : Type} (p : Reach σ)

/-- Lists the nodes. -/
def nodes (w : World) (s : σ) : Outcome × World × σ :=
  let (listed, w, s) := p.listNodes w s
  (tellNodes listed, w, s)

/-- Fetches the system information of all nodes. -/
def sysinfo (session : Session) (w : World) (s : σ) : Outcome × World × σ :=
  let (token, tokens) := w.tokens.newRun
  let (result, w, s) := p.fetchAll (.ofSession session) token { w with tokens } s
  (tellSysinfo session result, w, s)

/-- Waits for a collection to be over; the run of its start may be cancelled meanwhile, or was so
before. -/
def wait (run : CollectionRun) (wait : Duration) (token : RunToken) (w : World) (s : σ) : World × σ :=
  let (w, s) := p.await run wait token (w.note (Collect.waiting wait)) s
  (if w.isCancelled token then w.note Collect.cutShort else w, s)

/-- Fetches the results of a collection. -/
def retrieve (c : Collector) (run : CollectionRun) (isCut : Bool) (w : World) (s : σ) :
    Outcome × World × σ :=
  let (token, tokens) := w.tokens.newRun
  let (report, w, s) := p.finish c run token isCut { w with tokens } s
  let interrupted := w.isCancelled token
  let records := if interrupted then [] else Collect.endRecords run report
  (Collect.tellEnd run interrupted report, records.foldl World.note w, s)

/-- Collects. -/
def collect (session : Session) (run : String) (durationSecs : Option UInt32)
    (waitSecs : Option UInt64) (w : World) (s : σ) : Outcome × World × σ :=
  let c := Collect.collector session durationSecs
  let (token, tokens) := w.tokens.newRun
  let (started, w, s) := p.start c run token { w with tokens } s
  match Collect.begun started with
  | .error failure => (.failed failure, w, s)
  | .ok run =>
    let (w, s) := p.wait run (Collect.wait c waitSecs) token w s
    let (outcome, w, s) := p.retrieve c run (w.isCancelled token) w s
    (outcome.after [Collect.announcement run], w, s)

/-- What a command does once its session is open. -/
def act : Act σ := fun inv session w s =>
  match inv.command with
  | .nodes => p.nodes w s
  | .sysinfo => p.sysinfo session w s
  | .collect run durationSecs waitSecs => p.collect session run durationSecs waitSecs w s
  | _ => alone inv session w s

end Reach

end MonitorFleet.CommandLine
