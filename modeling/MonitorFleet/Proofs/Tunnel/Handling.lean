import MonitorFleet.Proofs.Task.Frames

/-!
# What a step does with a tunnel

A task holds one tunnel at most. Each of its steps does one of three things with it: the tunnel
stays in the same hands or passes from one stage to the next, a tunnel is opened by a task that held
none, or what was held is released (`Handling`). This is shown stage by stage, from the resolution,
which opens tunnels, to the member of a fan-out, whose task may be given up anywhere.

## What is proved

* `Resolving.Goes.handling`, `Dialing.Goes.handling`, `Attempt.Goes.handling`,
  `Task.Goes.handling`: no stage does anything else.
* `Work.Moves.handling`: nor does a member of a fan-out.
-/

namespace MonitorFleet

/-- The tunnels that were handed to the cluster to be opened, in order. -/
def World.handed (w : World) : List TunnelToken :=
  w.asked.filterMap fun
    | .portForward _ _ tunnel => some tunnel
    | _ => none

/-- What becomes of the tunnel that is held, for a run, at a node, from one world to the next:
`held` and `held'` are what is held before and afterwards. -/
inductive Handling (run : RunToken) (node : String) (w w' : World) :
    Option TunnelToken → Option TunnelToken → Prop where
  /-- It stays held. -/
  | kept {held : Option TunnelToken} (tunnels : w'.tokens.tunnels = w.tokens.tunnels)
      (handed : w'.handed = w.handed) : Handling run node w w' held held
  /-- None was held, and one is opened. -/
  | opened {pod : PodRef}
      (tunnels : w'.tokens.tunnels = w.tokens.tunnels ++ [⟨node, pod, run, false⟩])
      (handed : w'.handed = w.handed ++ [w.tokens.tunnels.length]) :
      Handling run node w w' none (some w.tokens.tunnels.length)
  /-- It is released. -/
  | released {held : Option TunnelToken}
      (tunnels : w'.tokens.tunnels = (w.release held).tokens.tunnels)
      (handed : w'.handed = w.handed) : Handling run node w w' held none

variable {m : Monitors} {run : RunToken} {node : String} {w w' : World} {a : Answer}

theorem World.handed_of_asked (h : w'.asked = w.asked) : w'.handed = w.handed := by
  unfold World.handed
  rw [h]

/-! ### Resolving -/

/-- What is held once a stage went on: by the stage that follows, or by its result. -/
def Progress.held {σ α : Type} (stage : σ → Option TunnelToken) (result : α → Option TunnelToken) :
    Progress σ α → Option TunnelToken
  | .waiting s => stage s
  | .finished (.ok x) => result x
  | .finished (.error _) => none

theorem Resolving.Goes.handling {spans : List Span} {stage : Resolving}
    {p : Progress Resolving Resolved} (h : Resolving.Goes m run node spans w stage a w' p) :
    Handling run node w w' stage.held (p.held Resolving.held Resolved.tunnel) := by
  cases h with
  | noAddress => exact .kept rfl rfl
  | address => exact .kept rfl rfl
  | noPod => exact .kept rfl rfl
  | pod => exact .opened rfl (by simp [World.handed, Tokens.newTunnel])
  | noTunnel => exact .released rfl rfl
  | tunnel => exact .kept rfl rfl

theorem Resolving.Goes.hands_over {spans : List Span} {stage : Resolving} {r : Resolved}
    (h : Resolving.Goes m run node spans w stage a w' (.finished (.ok r))) :
    w'.tokens.tunnels = w.tokens.tunnels ∧ w'.handed = w.handed ∧ r.tunnel = stage.held := by
  cases h with
  | address => exact ⟨rfl, rfl, rfl⟩
  | tunnel => exact ⟨rfl, rfl, rfl⟩

/-! ### Dialing -/

theorem World.tunnels_release (h : w'.tokens.tunnels = w.tokens.tunnels)
    (held : Option TunnelToken) :
    (w'.release held).tokens.tunnels = (w.release held).tokens.tunnels := by
  cases held with
  | none => exact h
  | some tunnel => simp [Tokens.release, h]

theorem Dialing.Goes.handling {stage : Dialing} {p : Progress Dialing Connection}
    (h : Dialing.Goes m run node w stage a w' p) :
    Handling run node w w' stage.held (p.held Dialing.held Connection.tunnel) := by
  cases h with
  | resolves step => exact step.handling
  | unresolved step => exact step.handling
  | connects step _ => exact step.handling
  | @invalid stage _ w₁ r step _ =>
    obtain ⟨htunnels, hhanded, hheld⟩ := step.hands_over
    rw [hheld]
    exact .released (World.tunnels_release htunnels _)
      ((World.handed_of_asked (World.asked_release ..)).trans hhanded)
  | connected => exact .kept rfl rfl
  | unreachable => exact .released rfl (World.handed_of_asked (World.asked_release ..))

/-! ### Attempts -/

theorem Handling.congr {w'' : World} {held held' : Option TunnelToken}
    (h : Handling run node w w' held held') (tokens : w''.tokens.tunnels = w'.tokens.tunnels)
    (asked : w''.handed = w'.handed) : Handling run node w w'' held held' := by
  cases h with
  | kept htunnels hhanded => exact .kept (tokens.trans htunnels) (asked.trans hhanded)
  | opened htunnels hhanded => exact .opened (tokens.trans htunnels) (asked.trans hhanded)
  | released htunnels hhanded => exact .released (tokens.trans htunnels) (asked.trans hhanded)

theorem Handling.releasing (held : Option TunnelToken)
    (tokens : w'.tokens.tunnels = w.tokens.tunnels) (asked : w'.asked = w.asked) :
    Handling run node w (w'.release held) held none :=
  .released (World.tunnels_release tokens held)
    (World.handed_of_asked ((World.asked_release ..).trans asked))

theorem Attempt.handling_succeed (job : Job) (connection : Connection) (written : UInt64)
    (tokens : w'.tokens.tunnels = w.tokens.tunnels) (asked : w'.asked = w.asked) :
    Handling run node w (Attempt.succeed w' job connection written).1 connection.tunnel none := by
  have released : Handling run node w (World.release (w'.note ⟨.debug, Dialing.target, [],
      s!"closing connection to monitor {connection.node}"⟩) connection.tunnel)
      connection.tunnel none := .releasing _ tokens asked
  exact released.congr rfl rfl

theorem Attempt.Goes.handling {job : Job} {stage : Attempt} {p : Progress Attempt UInt64}
    (h : Attempt.Goes m run job node w stage a w' p) :
    Handling run node w w' stage.held (p.held Attempt.held fun _ => none) := by
  cases h with
  | dials step => exact step.handling
  | undialed step => exact step.handling
  | calls step => exact step.handling.congr rfl rfl
  | refused => exact .releasing _ rfl rfl
  | acknowledged _ => exact Attempt.handling_succeed _ _ _ rfl rfl
  | unopened _ _ => exact .releasing _ rfl rfl
  | opened _ _ => exact .kept rfl rfl
  | takes _ => exact .kept rfl rfl
  | chokes _ => exact .releasing _ rfl rfl
  | broken => exact .releasing _ rfl rfl
  | unfinished _ => exact .releasing _ rfl rfl
  | finishes _ => exact Attempt.handling_succeed _ _ _ rfl rfl

/-! ### Tasks -/

theorem Task.handed_attempt (work : Work) (node : String) (n : UInt32) (w : World) :
    (Task.attempt work node n w).1.handed = w.handed := by
  unfold Task.attempt Attempt.start Dialing.start Resolving.start
  cases work.policy <;> cases work.monitors.connectivity <;> simp [World.handed]

/-- Nothing is held when an attempt begins. -/
theorem Task.handling_attempt (work : Work) (node : String) (n : UInt32) (w : World) :
    Handling work.run node w (Task.attempt work node n w).1 none
      (Task.attempt work node n w).2.held := by
  have held : (Task.attempt work node n w).2.held = none := by
    unfold Task.attempt Attempt.start Dialing.start Resolving.start
    cases work.policy <;> cases work.monitors.connectivity <;> rfl
  rw [held]
  exact .kept (congrArg Tokens.tunnels (Task.tokens_attempt ..)) (Task.handed_attempt ..)

theorem Task.held_attempted (work : Work) (node : String) (n : UInt32) (w : World)
    (result : Except Error UInt64) :
    (Task.attempted work node n w result).2.held Task.held (fun _ => none) = none := by
  unfold Task.attempted
  split
  · cases result <;> rfl
  · split
    · next r _ => cases r <;> rfl
    · rfl

theorem Task.Goes.handling {work : Work} {task : Task} {x : Happening} {p : Progress Task UInt64}
    (h : Task.Goes work node w task x w' p) :
    Handling work.run node w w' task.held (p.held Task.held fun _ => none) := by
  cases h with
  | begins => exact Task.handling_attempt ..
  | resumes => exact Task.handling_attempt ..
  | continues step => exact step.handling
  | @attempted n stage a w₁ result step =>
    have handling := step.handling
    have none : (Progress.finished result : Progress Attempt UInt64).held Attempt.held
        (fun _ => none) = none := by
      cases result <;> rfl
    rw [none] at handling
    rw [Task.held_attempted]
    exact handling.congr (congrArg Tokens.tunnels (Task.tokens_attempted ..))
      (World.handed_of_asked (Task.asked_attempted ..))
  | withdraws _ _ => exact .releasing _ rfl rfl

/-! ### Members of a fan-out -/

/-- What is held by a member of a fan-out, where it stands. -/
def FanOut.Standing.held : FanOut.Standing Task → Option TunnelToken
  | .running task => task.held
  | .over _ => none

theorem Progress.held_standing (p : Progress Task UInt64) :
    p.standing.held = p.held Task.held fun _ => none := by
  cases p with
  | waiting _ => rfl
  | finished result => cases result <;> rfl

/-- **A member of a fan-out keeps its tunnel, opens one, or releases it**, and does nothing else to
any tunnel. -/
theorem Work.Moves.handling {work : Work} {i : Nat} {task : Task} {e : FanOut.Event Happening}
    {s : FanOut.Standing Task} (h : work.Moves i node w task e w' s) :
    Handling work.run node w w' task.held s.held := by
  cases h with
  | goes step =>
    rw [Progress.held_standing]
    exact step.handling
  | interrupted _ => exact .releasing _ rfl rfl
  | breaks => exact .releasing _ rfl rfl

end MonitorFleet
