import MonitorFleet.Proofs.Task.Writing

/-!
# What tasks ask the cluster

A task knows the cluster by what its work says of the monitors. Where they are reached directly it asks
for the address of its node; where they are reached through tunnels it asks for the pod of a monitor, by
the selector of the monitors, and then for a way to their port. It asks nothing else, however often it is
retried and whatever it is answered.

## What is proved

* `Task.Goes.asks`: what a step of a task asks.
* `Work.asks_of_happens`: what an event of a fan-out asks.
-/

namespace MonitorFleet

open FanOut (Event Happens)

/-- The questions by which the monitor of a node is reached. -/
inductive Monitors.Asks (m : Monitors) (node : String) : Query → Prop where
  | address (mode : m.connectivity = .direct) : Asks m node (.nodeIp node)
  | pod (mode : m.connectivity = .portForward) : Asks m node (.podForNode node m.selector)
  | tunnel {pod : PodRef} {token : TunnelToken} : Asks m node (.portForward pod m.port token)

/-! ### Questions that are added -/

/-- That the cluster was asked nothing but such questions from a world on until another. -/
def World.AsksOnly (P : Query → Prop) (w w' : World) : Prop :=
  ∃ more, w'.asked = w.asked ++ more ∧ ∀ q ∈ more, P q

namespace World.AsksOnly

variable {P Q : Query → Prop} {w w₁ w' : World}

theorem of_eq (same : w'.asked = w.asked) : w.AsksOnly P w' :=
  ⟨[], by rw [same, List.append_nil], nofun⟩

theorem of_ask {q : Query} (one : w'.asked = w.asked ++ [q]) (hq : P q) : w.AsksOnly P w' :=
  ⟨[q], one, fun _ h => List.mem_singleton.1 h ▸ hq⟩

theorem trans (h : w.AsksOnly P w₁) (h' : w₁.AsksOnly P w') : w.AsksOnly P w' := by
  obtain ⟨more, heq, all⟩ := h
  obtain ⟨more', heq', all'⟩ := h'
  refine ⟨more ++ more', by rw [heq', heq, List.append_assoc], fun q hq => ?_⟩
  exact (List.mem_append.1 hq).elim (all q) (all' q)

theorem mono (h : w.AsksOnly P w') (sub : ∀ q, P q → Q q) : w.AsksOnly Q w' := by
  obtain ⟨more, heq, all⟩ := h
  exact ⟨more, heq, fun q hq => sub q (all q hq)⟩

theorem congr_right (h : w.AsksOnly P w₁) (same : w'.asked = w₁.asked) : w.AsksOnly P w' :=
  h.trans (of_eq same)

theorem of_append (h : w.AsksOnly P w') {more : List Query} (added : w'.asked = w.asked ++ more) :
    ∀ q ∈ more, P q := by
  obtain ⟨more', heq, all⟩ := h
  rwa [← List.append_cancel_left (heq.symm.trans added)]

end World.AsksOnly

/-! ### Steps -/

section

variable {m : Monitors} {run : RunToken} {node : String} {w w' : World} {a : Answer}

theorem Resolving.Goes.asks {spans : List Span} {stage : Resolving} {p : Progress Resolving Resolved}
    (h : Resolving.Goes m run node spans w stage a w' p) : w.AsksOnly (m.Asks node) w' := by
  cases h with
  | noAddress => exact .of_eq rfl
  | address => exact .of_eq rfl
  | noPod => exact .of_eq rfl
  | pod => exact .of_ask (World.asked_ask ..) .tunnel
  | noTunnel => exact .of_eq rfl
  | tunnel => exact .of_eq rfl

theorem Dialing.Goes.asks {stage : Dialing} {p : Progress Dialing Connection}
    (h : Dialing.Goes m run node w stage a w' p) : w.AsksOnly (m.Asks node) w' := by
  cases h with
  | resolves step => exact step.asks
  | unresolved step => exact step.asks
  | connects step _ => exact step.asks
  | invalid step _ => exact step.asks.congr_right (World.asked_release ..)
  | connected => exact .of_eq rfl
  | unreachable => exact .of_eq (World.asked_release ..)

/-- An attempt asks while it dials. -/
theorem Attempt.Goes.asks {job : Job} {stage : Attempt} {p : Progress Attempt UInt64}
    (h : Attempt.Goes m run job node w stage a w' p) : w.AsksOnly (m.Asks node) w' := by
  cases h with
  | dials step => exact step.asks
  | undialed step => exact step.asks
  | calls step => exact step.asks.congr_right (World.asked_call ..)
  | _ => exact .of_eq (by simp [Attempt.succeed])

variable {work : Work} {task : Task}

theorem Task.asks_attempt (work : Work) (node : String) (n : UInt32) (w : World) :
    w.AsksOnly (work.monitors.Asks node) (Task.attempt work node n w).1 := by
  unfold Task.attempt Attempt.start Dialing.start Resolving.start
  cases mode : work.monitors.connectivity with
  | direct => cases work.policy <;> exact .of_ask rfl (.address mode)
  | portForward => cases work.policy <;> exact .of_ask rfl (.pod mode)

/-- What a step of a task asks. -/
theorem Task.Goes.asks {x : Happening} {p : Progress Task UInt64}
    (h : Task.Goes work node w task x w' p) : w.AsksOnly (work.monitors.Asks node) w' := by
  cases h with
  | begins => exact Task.asks_attempt ..
  | resumes => exact Task.asks_attempt ..
  | continues step => exact step.asks
  | attempted step => exact step.asks.congr_right (Task.asked_attempted ..)
  | withdraws _ _ => exact .of_eq (Task.asked_drop ..)

end

/-! ### Fan-outs -/

section

variable {work : Work} {spans : List Span} {e : Event Happening} {f f' : FanOut World Task}

/-- **What an event of a fan-out asks.** -/
theorem Work.asks_of_happens (hap : Happens (work.fanOut spans) f e f') :
    f.world.AsksOnly (fun q => ∃ node, work.monitors.Asks node q) f'.world := by
  cases hap with
  | cancel => exact .of_eq rfl
  | @waits i node _ _ _ _ _ step => exact (Work.goes_of_waits step).asks.mono fun _ hq => ⟨node, hq⟩
  | @finishes i node _ _ _ _ _ step =>
    obtain ⟨_, step, -⟩ := Work.goes_of_finishes step
    exact step.asks.mono fun _ hq => ⟨node, hq⟩
  | interrupt _ _ => exact .of_eq (Task.asked_drop ..)
  | crash _ => exact .of_eq (Task.asked_drop ..)
  | @join i node outcome _ =>
    obtain ⟨log, hlog⟩ := work.noteAll_eq spans f.world (Report.warning work.operation node outcome)
    have same := congrArg World.asked hlog
    exact .of_eq same

end

end MonitorFleet
