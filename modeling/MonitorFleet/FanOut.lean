import MonitorFleet.Progress
import MonitorFleet.Report

/-!
# Fan-outs

An operation is carried out on several nodes side by side, by a task for each. A fan-out is driven
by events, in whatever order they come: a task goes on, notices the cancellation of its run, breaks
down, or is joined, which puts its outcome into the report. The fan-out is over when every task was
joined. A task that fails leaves the others alone.

The operation is given by what its tasks can do (`Operation`), so that a fan-out can be looked at
without knowing them.
-/

namespace MonitorFleet

/-- What the tasks of a fan-out do: `ω` is the world that they share, `τ` where a task stands and
`ε` what can happen to it. -/
structure Operation (ω τ ε : Type) where
  name : String
  /-- The spans around the fan-out. -/
  spans : List Span
  /-- Makes the task of a node. -/
  spawn : ω → String → ω × τ
  /-- What becomes of a task; `none` if the event cannot happen to it. -/
  step : String → ω → τ → ε → Option (ω × Progress τ Unit)
  /-- Gives a task up. -/
  drop : ω → τ → ω
  isCancelled : ω → Bool
  cancel : ω → ω
  note : ω → Record → ω

/-- Where the task of a node stands. -/
inductive Phase (τ : Type) where
  | running (task : τ)
  | ended (outcome : Except Error Unit)
  | joined

/-- A node of a fan-out. -/
structure Member (τ : Type) where
  node : String
  phase : Phase τ

/-- A fan-out under way. -/
structure FanOut (ω τ : Type) where
  world : ω
  members : List (Member τ)
  report : Report

namespace FanOut

variable {ω τ ε : Type}

/-- What can happen in a fan-out; members are meant by their number. -/
inductive Event (ε : Type) where
  /-- Something happens to the task of a member. -/
  | advance (i : Nat) (happening : ε)
  /-- A member notices that the run was cancelled. -/
  | interrupt (i : Nat)
  /-- The task of a member breaks down. -/
  | crash (i : Nat) (reason : String)
  /-- The outcome of a member is put into the report. -/
  | join (i : Nat)
  /-- The run is cancelled. -/
  | cancel

/-- Makes the tasks of all nodes, in order. -/
def spawnAll (op : Operation ω τ ε) (w : ω) : List String → ω × List (Member τ)
  | [] => (w, [])
  | node :: nodes =>
    let (w, task) := op.spawn w node
    let (w, members) := spawnAll op w nodes
    (w, ⟨node, .running task⟩ :: members)

/-- A fan-out over nodes. -/
def start (op : Operation ω τ ε) (nodes : List String) (w : ω) : FanOut ω τ :=
  let (w, members) := spawnAll op w nodes
  ⟨w, members, .new op.name⟩

/-- The fan-out with a member in another phase. -/
def setPhase (f : FanOut ω τ) (i : Nat) (node : String) (phase : Phase τ) : FanOut ω τ :=
  { f with members := f.members.set i ⟨node, phase⟩ }

/-- The world with a list of records. -/
def noteAll (op : Operation ω τ ε) (w : ω) (records : List Record) : ω :=
  records.foldl (fun w r => op.note w (r.within op.spans)) w

/-- The fan-out after an event; `none` if the event cannot happen in it. -/
def apply (op : Operation ω τ ε) (f : FanOut ω τ) : Event ε → Option (FanOut ω τ)
  | .cancel => some { f with world := op.cancel f.world }
  | .advance i happening =>
    match f.members[i]? with
    | some ⟨node, .running task⟩ =>
      match op.step node f.world task happening with
      | none => none
      | some (w, .waiting task) => some ({ f with world := w }.setPhase i node (.running task))
      | some (w, .finished outcome) => some ({ f with world := w }.setPhase i node (.ended outcome))
    | _ => none
  | .interrupt i =>
    match f.members[i]? with
    | some ⟨node, .running task⟩ =>
      if op.isCancelled f.world then
        some ({ f with world := op.drop f.world task }.setPhase i node (.ended (.error .cancelled)))
      else none
    | _ => none
  | .crash i reason =>
    match f.members[i]? with
    | some ⟨node, .running task⟩ =>
      some ({ f with world := op.drop f.world task }.setPhase i node
        (.ended (.error (.taskFailed reason))))
    | _ => none
  | .join i =>
    match f.members[i]? with
    | some ⟨node, .ended outcome⟩ =>
      some ({ f with
        world := noteAll op f.world (Report.warning op.name node outcome)
        report := f.report.record node outcome }.setPhase i node .joined)
    | _ => none

/-- The fan-out after a list of events. -/
def run (op : Operation ω τ ε) (f : FanOut ω τ) (events : List (Event ε)) : Option (FanOut ω τ) :=
  events.foldlM (apply op) f

def Phase.isJoined : Phase τ → Bool
  | .joined => true
  | _ => false

/-- Whether every task was joined. -/
def isOver (f : FanOut ω τ) : Bool := f.members.all fun m => Phase.isJoined m.phase

end FanOut

end MonitorFleet
