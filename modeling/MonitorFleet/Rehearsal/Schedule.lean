import MonitorFleet.SystemInfo

/-!
# Carrying a fan-out through

Something outside answers what the tasks wait for, or leaves them waiting. `settle` lets every task
go on until it is over or waits for an answer that does not come; where the run is to be cancelled
then, the tasks that are left notice it.
-/

namespace MonitorFleet.Rehearsal

/-- What is outside of the tasks, in a state of type `ε`. Each answer may leave records. -/
structure Outside (ε : Type) where
  /-- The answer to the question of a task, which is meant by its number. -/
  answer : ε → World → Nat → Question → ε × Option Answer × List Record
  /-- The nodes with pods that match a selector. -/
  listSession : ε → String → ε × Except Error NameSet × List Record
  /-- All nodes. -/
  listNodes : ε → ε × Except Error (List NodeAddress) × List Record
  /-- A bound of the answers to one attempt. -/
  bound : ε → Nat

/-- A world and what is outside. -/
structure Scene (ε : Type) where
  world : World
  outside : ε

variable {ε : Type}

/-- The records that the answer to a question left, inside the spans of the task. -/
def noteAnswer (node : String) (w : World) (question : Question) (records : List Record) : World :=
  let spans := match question with
    | .cluster _ => Dialing.innerSpans node
    | _ => []
  records.foldl (fun w r => w.note (r.within spans)) w

/-- Lets a task go on until it is over or waits in vain; `fuel` bounds its steps. -/
def advance (out : Outside ε) (work : Work) (node : String) (i : Nat) (s : Scene ε) (task : Task) :
    (fuel : Nat) → Scene ε × Progress Task UInt64
  | 0 => (s, .waiting task)
  | fuel + 1 =>
    match task.question? work node with
    | none =>
      match task.step work node s.world .begun with
      | some (w, .waiting task) => advance out work node i { s with world := w } task fuel
      | some (w, .finished result) => ({ s with world := w }, .finished result)
      | none => (s, .waiting task)
    | some question =>
      let (outside, answer?, records) := out.answer s.outside s.world i question
      let s : Scene ε := ⟨noteAnswer node s.world question records, outside⟩
      match answer? with
      | none => (s, .waiting task)
      | some answer =>
        match task.step work node s.world (.answer answer) with
        | some (w, .waiting task) => advance out work node i { s with world := w } task fuel
        | some (w, .finished result) => ({ s with world := w }, .finished result)
        | none => (s, .waiting task)

/-- A fan-out and what is outside. -/
structure Staged (ε : Type) where
  fan : FanOut World Task
  outside : ε

/-- The member with this number goes on as far as it can, and is joined if it is over. -/
def advanceMember (out : Outside ε) (work : Work) (op : Operation World Task Happening)
    (fuel : Nat) (s : Staged ε) (i : Nat) : Staged ε :=
  match s.fan.members[i]? with
  | some ⟨node, .running task⟩ =>
    match advance out work node i ⟨s.fan.world, s.outside⟩ task fuel with
    | (scene, .waiting task) =>
      ⟨{ s.fan with world := scene.world }.setPhase i node (.running task), scene.outside⟩
    | (scene, .finished result) =>
      let fan := { s.fan with world := scene.world }.setPhase i node
        (.ended (result.map fun _ => ()))
      ⟨(fan.apply op (.join i)).getD fan, scene.outside⟩
  | _ => s

/-- A member notices the cancellation of its run and is joined. -/
def interruptMember (op : Operation World Task Happening) (f : FanOut World Task) (i : Nat) :
    FanOut World Task :=
  (f.run op [.interrupt i, .join i]).getD f

/-- When a run is cancelled that waits in vain, and what is noted then. -/
structure Interruption (ε : Type) where
  due : ε → World → Bool
  note : World → World

/-- A run that is never cancelled. -/
def Interruption.never : Interruption ε := ⟨fun _ _ => false, id⟩

/-- How many answers a task can take. -/
def fuel (out : Outside ε) (work : Work) (outside : ε) : Nat :=
  (out.bound outside + 3) * ((work.policy.map (·.maxAttempts.toNat)).getD 1 + 1)

/-- Carries a fan-out through. Members of a run that was cancelled already do not begin. Once all
others are over or wait in vain, the run may be cancelled. -/
def settle (out : Outside ε) (work : Work) (op : Operation World Task Happening)
    (interruption : Interruption ε) (fan : FanOut World Task) (outside : ε) : Staged ε :=
  let all := List.range fan.members.length
  if fan.world.isCancelled work.run then ⟨all.foldl (interruptMember op) fan, outside⟩
  else
    let s := all.foldl (advanceMember out work op (fuel out work outside)) ⟨fan, outside⟩
    if s.fan.isOver then s
    else if interruption.due s.outside s.fan.world then
      let fan := { s.fan with world := interruption.note s.fan.world }
      let fan := (fan.apply op .cancel).getD fan
      { s with fan := all.foldl (interruptMember op) fan }
    else s

/-! ### Whole operations -/

/-- Starts a collection. -/
def startCollection (out : Outside ε) (c : Collector) (run : String) (token : RunToken)
    (interruption : Interruption ε) (s : Scene ε) : Except Error CollectionRun × Scene ε :=
  match c.prepare run s.world with
  | (.error error, w) => (.error error, { s with world := w })
  | (.ok dir, w) =>
    let (outside, nodes, records) := out.listSession s.outside c.session.workloadSelector
    let w := records.foldl (fun w r => w.note (r.within [Collector.startSpan run])) w
    match nodes with
    | .error error => (.error error, ⟨w, outside⟩)
    | .ok nodes =>
      let s := settle out (c.startWork run token) (c.startOperation run token) interruption
        (c.launch run token nodes w) outside
      let (run, w) := Collector.started run dir s.fan
      (.ok run, ⟨w, s.outside⟩)

/-- Ends a collection. -/
def endCollection (out : Outside ε) (c : Collector) (run : CollectionRun) (token : RunToken)
    (interruption : Interruption ε) (s : Scene ε) : Report × Scene ε :=
  let s := settle out (c.endWork run token) (c.endOperation run token) interruption
    (c.collect run token s.world) s.outside
  let (report, w) := Collector.ended run s.fan
  (report, ⟨w, s.outside⟩)

/-- Fetches the system information of all nodes. -/
def fetchAll (out : Outside ε) (i : SystemInfo) (token : RunToken)
    (interruption : Interruption ε) (s : Scene ε) : Except Error Unit × Scene ε :=
  let w := SystemInfo.prepare s.world
  let (outside, nodes, records) := out.listNodes s.outside
  let w := records.foldl (fun w r => w.note (r.within [SystemInfo.span])) w
  match nodes with
  | .error error => (.error error, ⟨w, outside⟩)
  | .ok nodes =>
    let s := settle out (i.work token) (i.operation token) interruption
      (i.launch token nodes w) outside
    let (result, w) := SystemInfo.finished s.fan
    (result, ⟨w, s.outside⟩)

/-- Fetches the system information of one node; a run that was cancelled is noticed at once. -/
def fetchOne (out : Outside ε) (session : Session) (node : String) (token : RunToken)
    (s : Scene ε) : Except Error UInt64 × Scene ε :=
  let work := SystemInfo.singleWork session token
  let (w, task) := Task.attempt work node 1 s.world
  if w.isCancelled token then (.error .cancelled, { s with world := task.drop w })
  else
    match advance out work node 0 { s with world := w } task (fuel out work s.outside) with
    | (s, .finished result) => (result, s)
    | (s, .waiting task) => (.error .cancelled, { s with world := task.drop s.world })

/-- Resolves the endpoint of one node's monitor. -/
def resolve (out : Outside ε) (m : Monitors) (node : String) (token : RunToken) (s : Scene ε) :
    Except Error Resolved × Scene ε :=
  let (w, stage) := Resolving.start m node s.world
  go { s with world := w } stage 3
where
  /-- Goes on until the endpoint is resolved. -/
  go (s : Scene ε) (stage : Resolving) : (fuel : Nat) → Except Error Resolved × Scene ε
    | 0 => (.error .cancelled, { s with world := stage.drop s.world })
    | fuel + 1 =>
      let question := stage.question m node
      let (outside, answer?, records) := out.answer s.outside s.world 0 question
      let w := records.foldl World.note s.world
      match answer?.bind (stage.step m token node [Resolving.span node] w ·) with
      | some (w, .waiting stage) => go ⟨w, outside⟩ stage fuel
      | some (w, .finished result) => (result, ⟨w, outside⟩)
      | none => (.error .cancelled, ⟨stage.drop w, outside⟩)

end MonitorFleet.Rehearsal
