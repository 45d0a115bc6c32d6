import MonitorFleet.Proofs.FanOut.Standings
import MonitorFleet.Proofs.Task.Steps

/-!
# What the steps of a task leave alone

A task works on a world that it shares with others, so most of what is known of the world has to
outlive its steps. No step cancels a run, questions and calls are only ever added to those before,
and joining a member writes to the log alone.

## What is proved

* `Work.Moves.runs`: no task cancels a run.
* `Work.Moves.asked`: what the cluster was asked stays.
* `Task.Goes.lookups`: a task looks for no monitor but that of its node.
* `Work.Moves.called`: a task makes no call but its own, and one at a time.
* `Work.world_of_run`, and from it `Work.live_of_run`, `Work.asked_of_run`, `Work.lookups_of_run`,
  `Work.called_of_run`: the same of whole fan-outs.
-/

namespace MonitorFleet

variable {m : Monitors} {run : RunToken} {node : String} {w w' : World} {a : Answer}

/-! ### Giving up -/

@[simp] theorem Task.runs_drop (w : World) (task : Task) :
    (task.drop w).tokens.runs = w.tokens.runs := World.runs_release ..

@[simp] theorem Task.isCancelled_drop (w : World) (task : Task) (r : RunToken) :
    (task.drop w).isCancelled r = w.isCancelled r := by
  unfold World.isCancelled Tokens.isCancelled
  rw [Task.runs_drop]

@[simp] theorem Task.tree_drop (w : World) (task : Task) : (task.drop w).tree = w.tree :=
  World.tree_release ..

@[simp] theorem Task.asked_drop (w : World) (task : Task) : (task.drop w).asked = w.asked :=
  World.asked_release ..

@[simp] theorem Task.called_drop (w : World) (task : Task) : (task.drop w).called = w.called :=
  World.called_release ..

/-! ### Runs -/

theorem Resolving.Goes.runs {spans : List Span} {stage : Resolving}
    {p : Progress Resolving Resolved} (h : Resolving.Goes m run node spans w stage a w' p) :
    w'.tokens.runs = w.tokens.runs := by
  cases h <;> simp

theorem Dialing.Goes.runs {stage : Dialing} {p : Progress Dialing Connection}
    (h : Dialing.Goes m run node w stage a w' p) : w'.tokens.runs = w.tokens.runs := by
  cases h with
  | resolves step => exact step.runs
  | unresolved step => exact step.runs
  | connects step _ => exact step.runs
  | invalid step _ => simpa using step.runs
  | connected => rfl
  | unreachable => simp

theorem Attempt.Goes.runs {job : Job} {stage : Attempt} {p : Progress Attempt UInt64}
    (h : Attempt.Goes m run job node w stage a w' p) : w'.tokens.runs = w.tokens.runs := by
  cases h with
  | dials step => exact step.runs
  | undialed step => exact step.runs
  | calls step => simpa using step.runs
  | _ => simp [Attempt.succeed]

@[simp] theorem Task.tokens_attempt (work : Work) (node : String) (n : UInt32) (w : World) :
    (Task.attempt work node n w).1.tokens = w.tokens := by
  unfold Task.attempt Attempt.start Dialing.start Resolving.start
  cases work.policy <;> cases work.monitors.connectivity <;> rfl

@[simp] theorem Task.tokens_attempted (work : Work) (node : String) (n : UInt32) (w : World)
    (result : Except Error UInt64) :
    (Task.attempted work node n w result).1.tokens = w.tokens := by
  unfold Task.attempted
  split
  · rfl
  · split <;> rfl

theorem Task.Goes.runs {work : Work} {task : Task} {x : Happening} {p : Progress Task UInt64}
    (h : Task.Goes work node w task x w' p) : w'.tokens.runs = w.tokens.runs := by
  cases h with
  | begins => simp
  | resumes => simp
  | continues step => exact step.runs
  | attempted step => simpa using step.runs
  | withdraws _ _ => simp

/-- No task cancels a run. -/
theorem Work.Moves.runs {work : Work} {i : Nat} {task : Task} {e : FanOut.Event Happening}
    {s : FanOut.Standing Task} (h : work.Moves i node w task e w' s) :
    w'.tokens.runs = w.tokens.runs := by
  cases h with
  | goes step => exact step.runs
  | interrupted _ => simp
  | breaks => simp

theorem Task.Goes.isCancelled {work : Work} {task : Task} {x : Happening}
    {p : Progress Task UInt64} (h : Task.Goes work node w task x w' p) (r : RunToken) :
    w'.isCancelled r = w.isCancelled r := by
  unfold World.isCancelled Tokens.isCancelled
  rw [h.runs]

theorem Work.Moves.isCancelled {work : Work} {i : Nat} {task : Task}
    {e : FanOut.Event Happening} {s : FanOut.Standing Task} (h : work.Moves i node w task e w' s)
    (r : RunToken) : w'.isCancelled r = w.isCancelled r := by
  unfold World.isCancelled Tokens.isCancelled
  rw [h.runs]

/-! ### Questions -/

theorem Resolving.Goes.asked {spans : List Span} {stage : Resolving}
    {p : Progress Resolving Resolved} (h : Resolving.Goes m run node spans w stage a w' p) :
    w.asked <+: w'.asked := by
  cases h <;> simp

theorem Dialing.Goes.asked {stage : Dialing} {p : Progress Dialing Connection}
    (h : Dialing.Goes m run node w stage a w' p) : w.asked <+: w'.asked := by
  cases h with
  | resolves step => exact step.asked
  | unresolved step => exact step.asked
  | connects step _ => exact step.asked
  | invalid step _ => simpa using step.asked
  | connected => simp
  | unreachable => simp

theorem Attempt.Goes.asked {job : Job} {stage : Attempt} {p : Progress Attempt UInt64}
    (h : Attempt.Goes m run job node w stage a w' p) : w.asked <+: w'.asked := by
  cases h with
  | dials step => exact step.asked
  | undialed step => exact step.asked
  | calls step => simpa using step.asked
  | _ => simp [Attempt.succeed]

theorem Task.asked_attempt (work : Work) (node : String) (n : UInt32) (w : World) :
    w.asked <+: (Task.attempt work node n w).1.asked := by
  unfold Task.attempt Attempt.start Dialing.start Resolving.start
  cases work.policy <;> cases work.monitors.connectivity <;> simp

@[simp] theorem Task.asked_attempted (work : Work) (node : String) (n : UInt32) (w : World)
    (result : Except Error UInt64) :
    (Task.attempted work node n w result).1.asked = w.asked := by
  unfold Task.attempted
  split
  · rfl
  · split <;> rfl

theorem Task.Goes.asked {work : Work} {task : Task} {x : Happening} {p : Progress Task UInt64}
    (h : Task.Goes work node w task x w' p) : w.asked <+: w'.asked := by
  cases h with
  | begins => exact Task.asked_attempt ..
  | resumes => exact Task.asked_attempt ..
  | continues step => exact step.asked
  | attempted step => simpa using step.asked
  | withdraws _ _ => simp

/-- What the cluster was asked stays asked. -/
theorem Work.Moves.asked {work : Work} {i : Nat} {task : Task} {e : FanOut.Event Happening}
    {s : FanOut.Standing Task} (h : work.Moves i node w task e w' s) :
    w.asked <+: w'.asked := by
  cases h with
  | goes step => exact step.asked
  | interrupted _ => simp
  | breaks => simp

/-! ### Lookups -/

/-- Whether a question is for the monitor of a node, by its address or by its pod. -/
def Query.isLookup (node : String) : Query → Bool
  | nodeIp other => other == node
  | podForNode other _ => other == node
  | _ => false

/-- How often the monitor of a node was looked for. Each attempt begins with this question. -/
def World.lookups (w : World) (node : String) : Nat := w.asked.countP (Query.isLookup node)

/-- Whether a question is for the monitor of some node. -/
def Query.isSearch : Query → Bool
  | nodeIp _ => true
  | podForNode _ _ => true
  | _ => false

/-- How often a monitor was looked for, of whatever node. -/
def World.searches (w : World) : Nat := w.asked.countP Query.isSearch

section

variable {kind : Query → Bool}

theorem Resolving.Goes.countP_asked {spans : List Span} {stage : Resolving}
    {p : Progress Resolving Resolved} (h : Resolving.Goes m run node spans w stage a w' p)
    (other : ∀ pod port tunnel, kind (.portForward pod port tunnel) = false) :
    w'.asked.countP kind = w.asked.countP kind := by
  cases h <;> simp [other]

theorem Dialing.Goes.countP_asked {stage : Dialing} {p : Progress Dialing Connection}
    (h : Dialing.Goes m run node w stage a w' p)
    (other : ∀ pod port tunnel, kind (.portForward pod port tunnel) = false) :
    w'.asked.countP kind = w.asked.countP kind := by
  cases h with
  | resolves step => exact step.countP_asked other
  | unresolved step => exact step.countP_asked other
  | connects step _ => exact step.countP_asked other
  | invalid step _ => simpa using step.countP_asked other
  | connected => simp
  | unreachable => simp

/-- Once it began, an attempt asks for nothing but a way into a pod. -/
theorem Attempt.Goes.countP_asked {job : Job} {stage : Attempt} {p : Progress Attempt UInt64}
    (h : Attempt.Goes m run job node w stage a w' p)
    (other : ∀ pod port tunnel, kind (.portForward pod port tunnel) = false) :
    w'.asked.countP kind = w.asked.countP kind := by
  cases h with
  | dials step => exact step.countP_asked other
  | undialed step => exact step.countP_asked other
  | calls step => simpa using step.countP_asked other
  | _ => simp [Attempt.succeed]

end

/-- An attempt looks for the monitor when it begins, and never again. -/
theorem Attempt.Goes.lookups {job : Job} {stage : Attempt} {p : Progress Attempt UInt64}
    (h : Attempt.Goes m run job node w stage a w' p) (other : String) :
    w'.lookups other = w.lookups other := h.countP_asked fun _ _ _ => rfl

theorem Attempt.Goes.searches {job : Job} {stage : Attempt} {p : Progress Attempt UInt64}
    (h : Attempt.Goes m run job node w stage a w' p) : w'.searches = w.searches :=
  h.countP_asked fun _ _ _ => rfl

theorem Task.searches_attempt (work : Work) (node : String) (n : UInt32) (w : World) :
    (Task.attempt work node n w).1.searches = w.searches + 1 := by
  unfold Task.attempt Attempt.start Dialing.start Resolving.start
  cases work.policy <;> cases work.monitors.connectivity <;>
    simp [World.searches, Query.isSearch]

theorem Task.lookups_attempt (work : Work) (node other : String) (n : UInt32) (w : World) :
    (Task.attempt work node n w).1.lookups other =
      w.lookups other + if other = node then 1 else 0 := by
  unfold Task.attempt Attempt.start Dialing.start Resolving.start
  by_cases h : other = node
  · subst h
    cases work.policy <;> cases work.monitors.connectivity <;>
      simp [World.lookups, Query.isLookup]
  · cases work.policy <;> cases work.monitors.connectivity <;>
      simp [World.lookups, Query.isLookup, h, Ne.symm h]

@[simp] theorem Task.lookups_attempted (work : Work) (node other : String) (n : UInt32) (w : World)
    (result : Except Error UInt64) :
    (Task.attempted work node n w result).1.lookups other = w.lookups other := by
  unfold World.lookups
  rw [Task.asked_attempted]

/-- A task looks for no monitor but that of its node. -/
theorem Task.Goes.lookups {work : Work} {task : Task} {x : Happening} {p : Progress Task UInt64}
    (h : Task.Goes work node w task x w' p) {other : String} (hne : other ≠ node) :
    w'.lookups other = w.lookups other := by
  cases h with
  | begins => simp [Task.lookups_attempt, hne]
  | resumes => simp [Task.lookups_attempt, hne]
  | continues step => exact step.lookups other
  | attempted step => simpa using step.lookups other
  | withdraws _ _ => simp [World.lookups]

theorem Work.Moves.lookups {work : Work} {i : Nat} {task : Task} {e : FanOut.Event Happening}
    {s : FanOut.Standing Task} (h : work.Moves i node w task e w' s) {other : String}
    (hne : other ≠ node) : w'.lookups other = w.lookups other := by
  cases h with
  | goes step => exact step.lookups hne
  | interrupted _ => simp [World.lookups]
  | breaks => simp [World.lookups]

/-! ### Files -/

/-- Whether an attempt receives a stream. -/
def Attempt.isReceiving : Attempt → Bool
  | receiving _ _ => true
  | _ => false

/-- Whether a task receives a stream. -/
def Task.isReceiving : Task → Bool
  | attempting _ stage => stage.isReceiving
  | _ => false

/-- A task receives no stream after an attempt. -/
theorem Task.isReceiving_of_attempted {work : Work} {n : UInt32} {result : Except Error UInt64}
    {task : Task} (h : (Task.attempted work node n w result).2 = .waiting task) :
    task.isReceiving = false := by
  unfold Task.attempted at h
  split at h
  · cases h
  · split at h
    · cases h
    · cases h
      rfl

@[simp] theorem Task.tree_attempt (work : Work) (node : String) (n : UInt32) (w : World) :
    (Task.attempt work node n w).1.tree = w.tree := by
  unfold Task.attempt Attempt.start Dialing.start Resolving.start
  cases work.policy <;> cases work.monitors.connectivity <;> rfl

@[simp] theorem Task.tree_attempted (work : Work) (node : String) (n : UInt32) (w : World)
    (result : Except Error UInt64) :
    (Task.attempted work node n w result).1.tree = w.tree := by
  unfold Task.attempted
  split
  · rfl
  · split <;> rfl

/-! ### Calls -/

theorem Dialing.Goes.called {stage : Dialing} {p : Progress Dialing Connection}
    (h : Dialing.Goes m run node w stage a w' p) : w'.called = w.called := by
  have resolving : ∀ {spans stage a w' p},
      Resolving.Goes m run node spans w stage a w' p → w'.called = w.called := by
    intro spans stage a w' p h
    cases h <;> simp
  cases h with
  | resolves step => exact resolving step
  | unresolved step => exact resolving step
  | connects step _ => exact resolving step
  | invalid step _ => simpa using resolving step
  | connected => simp
  | unreachable => simp

/-- Whether the monitor was called. -/
def Attempt.hasCalled : Attempt → Bool
  | dialing _ => false
  | calling _ => true
  | receiving _ _ => true

/-- An attempt that goes on either called in this step or did not call. -/
theorem Attempt.Goes.called_of_waiting {job : Job} {stage stage' : Attempt}
    (h : Attempt.Goes m run job node w stage a w' (.waiting stage')) :
    stage'.hasCalled = stage.hasCalled ∧ w'.called = w.called ∨
      stage.hasCalled = false ∧ stage'.hasCalled = true ∧
        w'.called = w.called ++ [(node, job.call)] := by
  cases h with
  | dials step => exact .inl ⟨rfl, step.called⟩
  | calls step => exact .inr ⟨rfl, rfl, by simp [step.called]⟩
  | opened _ _ => exact .inl ⟨rfl, rfl⟩
  | takes _ => exact .inl ⟨rfl, rfl⟩

theorem Attempt.Goes.called_of_finished {job : Job} {stage : Attempt}
    {result : Except Error UInt64}
    (h : Attempt.Goes m run job node w stage a w' (.finished result)) : w'.called = w.called := by
  cases h with
  | undialed step => exact step.called
  | _ => simp [Attempt.succeed]

@[simp] theorem Task.called_attempt (work : Work) (node : String) (n : UInt32) (w : World) :
    (Task.attempt work node n w).1.called = w.called := by
  unfold Task.attempt Attempt.start Dialing.start Resolving.start
  cases work.policy <;> cases work.monitors.connectivity <;> rfl

@[simp] theorem Task.called_attempted (work : Work) (node : String) (n : UInt32) (w : World)
    (result : Except Error UInt64) :
    (Task.attempted work node n w result).1.called = w.called := by
  unfold Task.attempted
  split
  · rfl
  · split <;> rfl

theorem Task.Goes.called {work : Work} {task : Task} {x : Happening} {p : Progress Task UInt64}
    (h : Task.Goes work node w task x w' p) :
    w'.called = w.called ∨ w'.called = w.called ++ [(node, (work.job node).call)] := by
  cases h with
  | begins => simp
  | resumes => simp
  | continues step =>
    rcases step.called_of_waiting with ⟨-, h⟩ | ⟨-, -, h⟩
    · exact .inl h
    · exact .inr h
  | attempted step => exact .inl (by simpa using step.called_of_finished)
  | withdraws _ _ => simp

/-- A task calls the monitor of its node, with the call of its job, and nobody else. -/
theorem Work.Moves.called {work : Work} {i : Nat} {task : Task} {e : FanOut.Event Happening}
    {s : FanOut.Standing Task} (h : work.Moves i node w task e w' s) :
    w'.called = w.called ∨ w'.called = w.called ++ [(node, (work.job node).call)] := by
  cases h with
  | goes step => exact step.called
  | interrupted _ => simp
  | breaks => simp

/-! ### Joining -/

theorem Work.noteAll_eq (work : Work) (spans : List Span) (w : World) (records : List Record) :
    ∃ log, FanOut.noteAll (work.fanOut spans) w records = { w with log } := by
  obtain ⟨log, h⟩ := World.foldl_note (records.map (Record.within spans)) w
  rw [List.foldl_map] at h
  exact ⟨log, h⟩

/-! ### Fan-outs of tasks -/

/-- Whether a task broke down. -/
def Crashed (events : List (FanOut.Event Happening)) : Prop :=
  ∃ i reason, FanOut.Event.crash i reason ∈ events

section

variable {work : Work} {spans : List Span} {names : List String}
  {events : List (FanOut.Event Happening)} {f : FanOut World Task}

theorem Work.spawnAll_eq (work : Work) (spans : List Span) (w : World) (names : List String) :
    FanOut.spawnAll (work.fanOut spans) w names = (w, names.map fun node => ⟨node, .running .idle⟩) := by
  induction names with
  | nil => rfl
  | cons node names ih => simp only [FanOut.spawnAll, Work.fanOut] at ih ⊢; rw [ih]; rfl

@[simp] theorem Work.world_start (work : Work) (spans : List Span) (names : List String)
    (w : World) : (FanOut.start (work.fanOut spans) names w).world = w := by
  simp [FanOut.start, Work.spawnAll_eq]

theorem Work.stands_start (work : Work) (spans : List Span) (w : World) {i : Nat}
    (h : names[i]? = some node) :
    FanOut.Stands (FanOut.start (work.fanOut spans) names w) i node (.running .idle) := by
  refine .running ?_
  simp [FanOut.start, Work.spawnAll_eq, h]

/-- **What is said of the world without its log** holds at the end of a fan-out, if it holds at the
start and is kept by all moves and by the cancellation of the run. -/
theorem Work.world_of_run
    (h : (FanOut.start (work.fanOut spans) names w).run (work.fanOut spans) events = some f)
    {P : World → Prop} (begins : P w) (silent : ∀ {w log}, P w → P { w with log })
    (moves : ∀ {i node w task e w' s}, node ∈ names → P w → work.Moves i node w task e w' s → P w')
    (cancel : ∀ {w}, FanOut.Event.cancel ∈ events → P w → P (w.cancel work.run)) : P f.world := by
  refine FanOut.world_of_run h ?_ ?_ ?_ cancel
  · rwa [Work.world_start]
  · intro i node w task e w' s hmem hP move
    exact moves hmem hP (Work.moves_of_moves move)
  · intro w records hP
    obtain ⟨log, hlog⟩ := work.noteAll_eq spans w records
    rw [hlog]
    exact silent hP

/-- No run is cancelled by a fan-out but its own. -/
theorem Work.isCancelled_of_run
    (h : (FanOut.start (work.fanOut spans) names w).run (work.fanOut spans) events = some f)
    (run : RunToken) (cancelled : f.world.isCancelled run = true) :
    w.isCancelled run = true ∨ run = work.run ∧ FanOut.Event.cancel ∈ events := by
  revert cancelled
  refine Work.world_of_run h (P := fun g => g.isCancelled run = true →
    w.isCancelled run = true ∨ run = work.run ∧ FanOut.Event.cancel ∈ events) .inl id ?_ ?_
  · intro i node g task e g' s _ ih move cancelled
    exact ih ((move.isCancelled run).symm.trans cancelled)
  · intro g hmem ih cancelled
    rcases Tokens.isCancelled_of_cancel cancelled with cancelled | rfl
    · exact ih cancelled
    · exact .inr ⟨rfl, hmem⟩

/-- A run that is not cancelled at first, nor by the fan-out, stays so. -/
theorem Work.live_of_run
    (h : (FanOut.start (work.fanOut spans) names w).run (work.fanOut spans) events = some f)
    (live : w.isCancelled work.run = false) (undisturbed : FanOut.Event.cancel ∉ events) :
    f.world.isCancelled work.run = false := by
  refine Bool.eq_false_iff.2 fun cancelled => ?_
  rcases Work.isCancelled_of_run h work.run cancelled with before | ⟨-, during⟩
  · exact Bool.false_ne_true (live.symm.trans before)
  · exact undisturbed during

/-- What the cluster was asked stays asked. -/
theorem Work.asked_of_run
    (h : (FanOut.start (work.fanOut spans) names w).run (work.fanOut spans) events = some f) :
    w.asked <+: f.world.asked := by
  refine Work.world_of_run h (P := fun g => w.asked <+: g.asked) (List.prefix_refl _) id ?_ ?_
  · intro i node w task e w' s _ ih move
    exact ih.trans move.asked
  · intro w _ ih
    exact ih

/-- A fan-out looks for no monitors but those of its nodes. -/
theorem Work.lookups_of_run
    (h : (FanOut.start (work.fanOut spans) names w).run (work.fanOut spans) events = some f)
    (absent : node ∉ names) : f.world.lookups node = w.lookups node := by
  refine Work.world_of_run h (P := fun g => g.lookups node = w.lookups node) rfl id ?_
    fun _ ih => ih
  intro i other g task e g' s hmem ih move
  have hne : node ≠ other := fun heq => absent (heq ▸ hmem)
  exact (move.lookups hne).trans ih

/-- The calls of a fan-out are those of its jobs, to its nodes. -/
theorem Work.called_of_run
    (h : (FanOut.start (work.fanOut spans) names w).run (work.fanOut spans) events = some f) :
    ∃ made, f.world.called = w.called ++ made ∧
      ∀ x ∈ made, x.1 ∈ names ∧ x.2 = (work.job x.1).call := by
  refine Work.world_of_run h (P := fun g => ∃ made, g.called = w.called ++ made ∧
    ∀ x ∈ made, x.1 ∈ names ∧ x.2 = (work.job x.1).call) ⟨[], by simp⟩ id ?_ fun _ ih => ih
  rintro i node g task e g' s hmem ⟨made, hmade, hall⟩ move
  rcases move.called with called | called
  · exact ⟨made, called.trans hmade, hall⟩
  · refine ⟨made ++ [(node, (work.job node).call)], by rw [called, hmade, List.append_assoc], ?_⟩
    intro x hx
    rcases List.mem_append.1 hx with hx | hx
    · exact hall x hx
    · obtain rfl := List.mem_singleton.1 hx
      exact ⟨hmem, rfl⟩

end

end MonitorFleet
