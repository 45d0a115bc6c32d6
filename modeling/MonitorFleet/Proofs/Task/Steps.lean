import MonitorFleet.Proofs.FanOut.Standings
import MonitorFleet.Collection

/-!
# What a step of a task does

A task is made of stages in stages: a task attempts, an attempt dials, dialing resolves. For each of
these machines a relation lists its steps, with the world and the progress that they lead to
(`Resolving.Goes`, `Dialing.Goes`, `Attempt.Goes`, `Task.Goes`), and a lemma says that the machine
takes no others (`goes_of_step`). What is proved about tasks goes by the cases of these relations.

## What is proved

* `Task.goes_of_step`, and the like for the inner machines: the relations are complete.
* `Work.moves_of_moves`: the moves of a task as the member of a fan-out.
-/

namespace MonitorFleet

/-! ### Resolving -/

/-- The steps of a resolution. -/
inductive Resolving.Goes (m : Monitors) (run : RunToken) (node : String) (spans : List Span)
    (w : World) : Resolving → Answer → World → Progress Resolving Resolved → Prop where
  /-- The address of the node is not to be had. -/
  | noAddress {error : Error} :
      Goes m run node spans w .address (.address (.error error)) w (.finished (.error error))
  /-- The address of the node is known. -/
  | address {ip : String} :
      Goes m run node spans w .address (.address (.ok ip))
        (w.note ⟨.debug, Resolving.target, spans, s!"monitor of {node} at {ip}:{m.port}"⟩)
        (.finished (.ok ⟨⟨ip, m.port⟩, none⟩))
  /-- No pod is found. -/
  | noPod {error : Error} :
      Goes m run node spans w .pod (.pod (.error error)) w (.finished (.error error))
  /-- A pod is found, and a tunnel to it is asked for. -/
  | pod {p : PodRef} :
      Goes m run node spans w .pod (.pod (.ok p))
        (World.ask { w with tokens := (w.tokens.newTunnel node p run).2 }
          (.portForward p m.port (w.tokens.newTunnel node p run).1))
        (.waiting (.tunnel p (w.tokens.newTunnel node p run).1))
  /-- The tunnel is refused. -/
  | noTunnel {p : PodRef} {token : TunnelToken} {error : Error} :
      Goes m run node spans w (.tunnel p token) (.localPort (.error error))
        (w.release (some token)) (.finished (.error (error.asResolution node)))
  /-- The tunnel is open. -/
  | tunnel {p : PodRef} {token : TunnelToken} {port : UInt16} :
      Goes m run node spans w (.tunnel p token) (.localPort (.ok port))
        (w.note ⟨.debug, Resolving.target, spans,
          s!"monitor of {node} tunneled through {tunnelHost}:{port}"⟩)
        (.finished (.ok ⟨⟨tunnelHost, port⟩, some token⟩))

theorem Resolving.goes_of_step {m : Monitors} {run : RunToken} {node : String} {spans : List Span}
    {w w' : World} {stage : Resolving} {a : Answer} {p : Progress Resolving Resolved}
    (h : stage.step m run node spans w a = some (w', p)) :
    Resolving.Goes m run node spans w stage a w' p := by
  unfold Resolving.step at h
  split at h
  · cases h; exact .noAddress
  · cases h; exact .address
  · cases h; exact .noPod
  · cases h; exact .pod
  · cases h; exact .noTunnel
  · cases h; exact .tunnel
  · cases h

/-! ### Dialing -/

/-- The steps of dialing. -/
inductive Dialing.Goes (m : Monitors) (run : RunToken) (node : String) (w : World) :
    Dialing → Answer → World → Progress Dialing Connection → Prop where
  /-- The resolution goes on. -/
  | resolves {stage stage' : Resolving} {a : Answer} {w' : World}
      (step : Resolving.Goes m run node (innerSpans node) w stage a w' (.waiting stage')) :
      Goes m run node w (.resolving stage) a w' (.waiting (.resolving stage'))
  /-- The resolution failed. -/
  | unresolved {stage : Resolving} {a : Answer} {w' : World} {error : Error}
      (step : Resolving.Goes m run node (innerSpans node) w stage a w' (.finished (.error error))) :
      Goes m run node w (.resolving stage) a w' (.finished (.error (error.asResolution node)))
  /-- The endpoint is resolved, and is connected to. -/
  | connects {stage : Resolving} {a : Answer} {w' : World} {r : Resolved}
      (step : Resolving.Goes m run node (innerSpans node) w stage a w' (.finished (.ok r)))
      (valid : Net.isServiceAddress r.endpoint.text = true) :
      Goes m run node w (.resolving stage) a w' (.waiting (.connecting r))
  /-- The endpoint is resolved, but makes no address. -/
  | invalid {stage : Resolving} {a : Answer} {w' : World} {r : Resolved}
      (step : Resolving.Goes m run node (innerSpans node) w stage a w' (.finished (.ok r)))
      (invalid : Net.isServiceAddress r.endpoint.text = false) :
      Goes m run node w (.resolving stage) a (w'.release r.tunnel)
        (.finished (.error (.connect r.endpoint.text .invalidAddress)))
  /-- The connection is there. -/
  | connected {r : Resolved} :
      Goes m run node w (.connecting r) (.connected true)
        (w.note ⟨.debug, Dialing.target, [span node],
          s!"connected to monitor {node} at {r.endpoint.text}"⟩)
        (.finished (.ok ⟨node, r.endpoint, r.tunnel⟩))
  /-- Nobody answers. -/
  | unreachable {r : Resolved} :
      Goes m run node w (.connecting r) (.connected false) (w.release r.tunnel)
        (.finished (.error (.connect r.endpoint.text .unreachable)))

theorem Dialing.goes_of_step {m : Monitors} {run : RunToken} {node : String} {w w' : World}
    {stage : Dialing} {a : Answer} {p : Progress Dialing Connection}
    (h : stage.step m run node w a = some (w', p)) : Dialing.Goes m run node w stage a w' p := by
  unfold Dialing.step at h
  split at h
  · next stage =>
    split at h
    · cases h
    · next hs => cases h; exact .resolves (Resolving.goes_of_step hs)
    · next w₁ result hs =>
      have hr := Resolving.goes_of_step hs
      cases result with
      | error error => cases h; exact .unresolved hr
      | ok r =>
        simp only [Dialing.resolved] at h
        split at h
        · next valid => cases h; exact .connects hr valid
        · next invalid => cases h; exact .invalid hr (Bool.eq_false_iff.2 invalid)
  · cases h; exact .connected
  · cases h; exact .unreachable
  · cases h

/-! ### Attempts -/

/-- The steps of an attempt. -/
inductive Attempt.Goes (m : Monitors) (run : RunToken) (job : Job) (node : String) (w : World) :
    Attempt → Answer → World → Progress Attempt UInt64 → Prop where
  /-- Dialing goes on. -/
  | dials {stage stage' : Dialing} {a : Answer} {w' : World}
      (step : Dialing.Goes m run node w stage a w' (.waiting stage')) :
      Goes m run job node w (.dialing stage) a w' (.waiting (.dialing stage'))
  /-- Dialing failed. -/
  | undialed {stage : Dialing} {a : Answer} {w' : World} {error : Error}
      (step : Dialing.Goes m run node w stage a w' (.finished (.error error))) :
      Goes m run job node w (.dialing stage) a w' (.finished (.error error))
  /-- The monitor is connected to, and called. -/
  | calls {stage : Dialing} {a : Answer} {w' : World} {connection : Connection}
      (step : Dialing.Goes m run node w stage a w' (.finished (.ok connection))) :
      Goes m run job node w (.dialing stage) a (w'.call node job.call)
        (.waiting (.calling connection))
  /-- The call is refused. -/
  | refused {connection : Connection} {status : Status} :
      Goes m run job node w (.calling connection) (.reply (.error status))
        ((w.count (.monitorCalls job.call.name false) 1).release connection.tunnel)
        (.finished (.error (.remoteCall connection.node job.call.name status)))
  /-- The call is taken, and nothing is streamed. -/
  | acknowledged {connection : Connection} (silent : job.path? = none) :
      Goes m run job node w (.calling connection) (.reply (.ok ()))
        (Attempt.succeed (w.count (.monitorCalls job.call.name true) 1) job connection 0).1
        (.finished (.ok 0))
  /-- The call is taken, but the file cannot be opened. -/
  | unopened {connection : Connection} {path : String} {error : Error} (streams : job.path? = some path)
      (refused : Transfer.start path w.tree = .error error) :
      Goes m run job node w (.calling connection) (.reply (.ok ()))
        ((w.count (.monitorCalls job.call.name true) 1).release connection.tunnel)
        (.finished (.error error))
  /-- The call is taken, and its stream is received. -/
  | opened {connection : Connection} {path : String} {transfer : Transfer} {tree : Tree}
      (streams : job.path? = some path) (start : Transfer.start path w.tree = .ok (transfer, tree)) :
      Goes m run job node w (.calling connection) (.reply (.ok ()))
        { w.count (.monitorCalls job.call.name true) 1 with tree }
        (.waiting (.receiving connection transfer))
  /-- A chunk is taken. -/
  | takes {connection : Connection} {transfer transfer' : Transfer} {data : ByteArray} {tree : Tree}
      (taken : transfer.chunk w.tree data = (.ok transfer', tree)) :
      Goes m run job node w (.receiving connection transfer) (.chunk data) { w with tree }
        (.waiting (.receiving connection transfer'))
  /-- A chunk is refused by the file. -/
  | chokes {connection : Connection} {transfer : Transfer} {data : ByteArray} {tree : Tree}
      {error : Error} (refused : transfer.chunk w.tree data = (.error error, tree)) :
      Goes m run job node w (.receiving connection transfer) (.chunk data)
        (World.release { w with tree } connection.tunnel) (.finished (.error error))
  /-- The stream breaks. -/
  | broken {connection : Connection} {transfer : Transfer} {status : Status} :
      Goes m run job node w (.receiving connection transfer) (.broken status)
        (w.release connection.tunnel) (.finished (.error (transfer.broken status)))
  /-- The stream ends, but the file refused the last of it. -/
  | unfinished {connection : Connection} {transfer : Transfer} {error : Error}
      (refused : transfer.finish = .error error) :
      Goes m run job node w (.receiving connection transfer) .ended
        (w.release connection.tunnel) (.finished (.error error))
  /-- The stream ends. -/
  | finishes {connection : Connection} {transfer : Transfer} {written : UInt64}
      (finish : transfer.finish = .ok written) :
      Goes m run job node w (.receiving connection transfer) .ended
        (Attempt.succeed (w.count .transferBytes written) job connection written).1
        (.finished (.ok written))

theorem Attempt.goes_of_replied {m : Monitors} {run : RunToken} {job : Job} {node : String}
    {w w' : World} {connection : Connection} {result : Except Status Unit}
    {p : Progress Attempt UInt64} (h : Attempt.replied w job connection result = (w', p)) :
    Attempt.Goes m run job node w (.calling connection) (.reply result) w' p := by
  cases result with
  | error status => cases h; exact .refused
  | ok _ =>
    simp only [Attempt.replied] at h
    split at h
    · next silent => cases h; exact .acknowledged silent
    · next path streams =>
      split at h
      · next refused => cases h; exact .unopened streams refused
      · next start => cases h; exact .opened streams start

theorem Attempt.goes_of_received {m : Monitors} {run : RunToken} {job : Job} {node : String}
    {w w' : World} {connection : Connection} {transfer : Transfer} {a : Answer}
    {p : Progress Attempt UInt64}
    (h : Attempt.received w job connection transfer a = some (w', p)) :
    Attempt.Goes m run job node w (.receiving connection transfer) a w' p := by
  unfold Attempt.received at h
  split at h
  · split at h
    · next refused => cases h; exact .chokes refused
    · next taken => cases h; exact .takes taken
  · cases h; exact .broken
  · split at h
    · next refused => cases h; exact .unfinished refused
    · next finish => cases h; exact .finishes finish
  · cases h

theorem Attempt.goes_of_step {m : Monitors} {run : RunToken} {job : Job} {node : String}
    {w w' : World} {stage : Attempt} {a : Answer} {p : Progress Attempt UInt64}
    (h : stage.step m run job node w a = some (w', p)) :
    Attempt.Goes m run job node w stage a w' p := by
  unfold Attempt.step at h
  split at h
  · next stage =>
    split at h
    · cases h
    · next hs => cases h; exact .dials (Dialing.goes_of_step hs)
    · next hs => cases h; exact .undialed (Dialing.goes_of_step hs)
    · next hs => cases h; exact .calls (Dialing.goes_of_step hs)
  · exact Attempt.goes_of_replied (Option.some.inj h)
  · exact Attempt.goes_of_received h
  · cases h

/-! ### Tasks -/

/-- **The steps of a task.** -/
inductive Task.Goes (work : Work) (node : String) (w : World) :
    Task → Happening → World → Progress Task UInt64 → Prop where
  /-- The first attempt begins. -/
  | begins :
      Goes work node w .idle .begun (Task.attempt work node 1 w).1
        (.waiting (Task.attempt work node 1 w).2)
  /-- The pause is over, and the next attempt begins. -/
  | resumes {n : UInt32} :
      Goes work node w (.pausing n) (.answer .elapsed) (Task.attempt work node (n + 1) w).1
        (.waiting (Task.attempt work node (n + 1) w).2)
  /-- The attempt goes on. -/
  | continues {n : UInt32} {stage stage' : Attempt} {a : Answer} {w' : World}
      (step : Attempt.Goes work.monitors work.run (work.job node) node w stage a w'
        (.waiting stage')) :
      Goes work node w (.attempting n stage) (.answer a) w' (.waiting (.attempting n stage'))
  /-- The attempt ends. -/
  | attempted {n : UInt32} {stage : Attempt} {a : Answer} {w' : World}
      {result : Except Error UInt64}
      (step : Attempt.Goes work.monitors work.run (work.job node) node w stage a w'
        (.finished result)) :
      Goes work node w (.attempting n stage) (.answer a) (Task.attempted work node n w' result).1
        (Task.attempted work node n w' result).2
  /-- The task notices that its run was cancelled. -/
  | withdraws {task : Task} (heeds : task.heedsCancellation work = true)
      (cancelled : w.isCancelled work.run = true) :
      Goes work node w task .withdrawn (Task.drop w task) (.finished (.error .cancelled))

theorem Task.goes_of_step {work : Work} {node : String} {w w' : World} {task : Task}
    {x : Happening} {p : Progress Task UInt64} (h : task.step work node w x = some (w', p)) :
    Task.Goes work node w task x w' p := by
  unfold Task.step at h
  split at h
  · split at h
    · cases h; exact .begins
    · cases h
  · split at h
    · next hc =>
      rw [Bool.and_eq_true] at hc
      cases h
      exact .withdraws hc.1 hc.2
    · cases h
  · split at h
    · cases h
    · split at h
      · cases h; exact .resumes
      · cases h
    · split at h
      · cases h
      · next hs => cases h; exact .continues (Attempt.goes_of_step hs)
      · next hs =>
        have hw := Prod.mk.inj (Option.some.inj h)
        rw [← hw.1, ← hw.2]
        exact .attempted (Attempt.goes_of_step hs)

theorem Task.attempted_of_none {work : Work} {node : String} {n : UInt32} {w : World}
    {result : Except Error UInt64} (single : work.policy = none) :
    Task.attempted work node n w result = (w, .finished result) := by
  unfold Task.attempted
  rw [single]

/-! ### Tasks as members -/

/-- Where a member of a fan-out stands whose task made such progress. -/
def Progress.standing : Progress Task UInt64 → FanOut.Standing Task
  | .waiting task => .running task
  | .finished result => .over (result.map fun _ => ())

/-- **The moves of a member of a fan-out**: its task takes a step, or is given up. -/
inductive Work.Moves (work : Work) (i : Nat) (node : String) (w : World) (task : Task) :
    FanOut.Event Happening → World → FanOut.Standing Task → Prop where
  /-- The task takes a step. -/
  | goes {x : Happening} {w' : World} {p : Progress Task UInt64}
      (step : Task.Goes work node w task x w' p) :
      Moves work i node w task (.advance i x) w' p.standing
  /-- The task is given up since the run was cancelled. -/
  | interrupted (cancelled : w.isCancelled work.run = true) :
      Moves work i node w task (.interrupt i) (task.drop w) (.over (.error .cancelled))
  /-- The task breaks down. -/
  | breaks {reason : String} :
      Moves work i node w task (.crash i reason) (task.drop w)
        (.over (.error (.taskFailed reason)))

/-- A step of a member that goes on is a step of its task. -/
theorem Work.step_of_waits {work : Work} {spans : List Span} {node : String} {w w' : World}
    {task task' : Task} {x : Happening}
    (h : (work.fanOut spans).step node w task x = some (w', .waiting task')) :
    task.step work node w x = some (w', .waiting task') := by
  simp only [Work.fanOut, Option.map_eq_some_iff, Prod.mk.injEq] at h
  obtain ⟨⟨w₁, p⟩, hs, rfl, hp⟩ := h
  cases p with
  | waiting _ => cases hp; exact hs
  | finished _ => cases hp

/-- A step that ends a member is a step of its task. -/
theorem Work.step_of_finishes {work : Work} {spans : List Span} {node : String} {w w' : World}
    {task : Task} {x : Happening} {outcome : Except Error Unit}
    (h : (work.fanOut spans).step node w task x = some (w', .finished outcome)) :
    ∃ result, task.step work node w x = some (w', .finished result) ∧
      outcome = result.map fun _ => () := by
  simp only [Work.fanOut, Option.map_eq_some_iff, Prod.mk.injEq] at h
  obtain ⟨⟨w₁, p⟩, hs, rfl, hp⟩ := h
  cases p with
  | waiting _ => cases hp
  | finished result => cases hp; exact ⟨result, hs, rfl⟩

theorem Work.goes_of_waits {work : Work} {spans : List Span} {node : String} {w w' : World}
    {task task' : Task} {x : Happening}
    (h : (work.fanOut spans).step node w task x = some (w', .waiting task')) :
    Task.Goes work node w task x w' (.waiting task') :=
  Task.goes_of_step (Work.step_of_waits h)

theorem Work.goes_of_finishes {work : Work} {spans : List Span} {node : String} {w w' : World}
    {task : Task} {x : Happening} {outcome : Except Error Unit}
    (h : (work.fanOut spans).step node w task x = some (w', .finished outcome)) :
    ∃ result, Task.Goes work node w task x w' (.finished result) ∧
      outcome = result.map fun _ => () := by
  obtain ⟨result, step, rfl⟩ := Work.step_of_finishes h
  exact ⟨result, Task.goes_of_step step, rfl⟩

theorem Work.moves_of_moves {work : Work} {spans : List Span} {i : Nat} {node : String}
    {w w' : World} {task : Task} {e : FanOut.Event Happening} {s : FanOut.Standing Task}
    (h : FanOut.Moves (work.fanOut spans) i node w task e w' s) :
    work.Moves i node w task e w' s := by
  cases h with
  | waits step => exact .goes (Work.goes_of_waits step)
  | finishes step =>
    obtain ⟨result, goes, rfl⟩ := Work.goes_of_finishes step
    exact .goes goes
  | interrupted cancelled => exact .interrupted cancelled
  | breaks => exact .breaks

end MonitorFleet
