import MonitorFleet.Proofs.Kubernetes.Addresses
import MonitorFleet.Proofs.Task.Cancelling
import MonitorFleet.Proofs.Task.Whole

/-!
# Tasks that go by addresses

Where monitors are reached directly, the cluster tells a task nothing but the address of its node. So a
node is found unresolvable only if a lookup of its address failed, and a task that is told every time
that its node has no address never gets further than that: it uses up its attempts on it.

## What is proved

* `Task.Goes.direct`, `refusal_of_run`: what the cluster refuses to such a task is the address.
* `refused_of_run`: a node that could not be resolved is one whose address was refused.
* `Task.Goes.seeks`, `endsUnaddressed_of_run`: how the task of a node without an address ends.
-/

namespace MonitorFleet

open FanOut (Event Standing)
open Kubernetes.Client (unaddressed)

variable {work : Work} {spans : List Span} {names : List String} {events : List (Event Happening)}
  {w w' : World} {f : FanOut World Task} {i : Nat} {node : String}

/-! ### Resolving directly -/

/-- That a task resolves its monitor by the address of its node, if at all. -/
def Task.Direct : Task → Prop
  | .attempting _ (.dialing (.resolving stage)) => stage = .address
  | _ => True

/-- That the cluster refuses nothing with an answer, or else an address. -/
def Answer.RefusesAddress (a : Answer) : Prop :=
  ∀ error, a.clusterError? = some error → a = .address (.error error)

theorem Task.attempt_of_direct (mode : work.monitors.connectivity = .direct) (node : String)
    (n : UInt32) (w : World) :
    (Task.attempt work node n w).2 = .attempting n (.dialing (.resolving .address)) := by
  unfold Task.attempt Attempt.start Dialing.start Resolving.start
  rw [mode]

/-- What dials directly goes on to connect, and is refused nothing but the address. -/
theorem Dialing.Goes.direct {m : Monitors} {run : RunToken} {stage : Dialing} {a : Answer}
    {p : Progress Dialing Connection} (step : Dialing.Goes m run node w stage a w' p)
    (direct : ∀ s, stage = .resolving s → s = .address) :
    (∀ s, p ≠ .waiting (.resolving s)) ∧ a.RefusesAddress := by
  cases step with
  | resolves step =>
    obtain rfl := direct _ rfl
    cases step
  | unresolved step =>
    obtain rfl := direct _ rfl
    cases step
    exact ⟨nofun, fun _ refused => by cases refused; rfl⟩
  | connects step _ =>
    obtain rfl := direct _ rfl
    cases step
    exact ⟨nofun, nofun⟩
  | invalid step _ =>
    obtain rfl := direct _ rfl
    cases step
    exact ⟨nofun, nofun⟩
  | connected => exact ⟨nofun, nofun⟩
  | unreachable => exact ⟨nofun, nofun⟩

/-- An attempt that dials directly does so until it is connected. -/
theorem Attempt.Goes.direct {m : Monitors} {run : RunToken} {job : Job} {stage : Attempt} {a : Answer}
    {p : Progress Attempt UInt64} (step : Attempt.Goes m run job node w stage a w' p)
    (direct : ∀ s, stage = .dialing (.resolving s) → s = .address) :
    (∀ s, p ≠ .waiting (.dialing (.resolving s))) ∧ a.RefusesAddress := by
  have inner : ∀ {dialing : Dialing}, stage = .dialing dialing →
      ∀ s, dialing = .resolving s → s = .address := by
    rintro dialing rfl s rfl
    exact direct s rfl
  cases step with
  | dials step =>
    obtain ⟨onward, refuses⟩ := step.direct (inner rfl)
    exact ⟨fun s heq => by cases heq; exact onward s rfl, refuses⟩
  | undialed step => exact ⟨nofun, (step.direct (inner rfl)).2⟩
  | calls step => exact ⟨nofun, (step.direct (inner rfl)).2⟩
  | _ => exact ⟨nofun, nofun⟩

/-- A task that resolves directly goes on to do so, and the cluster refuses it nothing but the
address of its node. -/
theorem Task.Goes.direct (mode : work.monitors.connectivity = .direct) {task : Task} {x : Happening}
    {p : Progress Task UInt64} (step : Task.Goes work node w task x w' p) (h : task.Direct) :
    (∀ task', p = .waiting task' → task'.Direct) ∧ ∀ a, x = .answer a → a.RefusesAddress := by
  have begun : ∀ n, (Task.attempt work node n w).2.Direct := by
    intro n
    rw [Task.attempt_of_direct mode]
    exact rfl
  have stage : ∀ {n : UInt32} {stage : Attempt}, (Task.attempting n stage).Direct →
      ∀ s, stage = .dialing (.resolving s) → s = .address := by
    rintro n stage h s rfl
    exact h
  cases step with
  | begins => exact ⟨fun _ heq => by cases heq; exact begun 1, nofun⟩
  | resumes => exact ⟨fun _ heq => by cases heq; exact begun _, fun _ heq => by cases heq; exact nofun⟩
  | @continues n _ stage' a _ step =>
    obtain ⟨onward, refuses⟩ := step.direct (stage h)
    refine ⟨fun _ heq => ?_, fun _ heq => by cases heq; exact refuses⟩
    cases heq
    cases stage' with
    | dialing dialing =>
      cases dialing with
      | resolving s => exact absurd rfl (onward s)
      | connecting r => exact trivial
    | _ => exact trivial
  | @attempted n _ a u result step =>
    obtain ⟨-, refuses⟩ := step.direct (stage h)
    refine ⟨fun task' heq => ?_, fun _ heq => by cases heq; exact refuses⟩
    unfold Task.attempted at heq
    split at heq
    · cases heq
    · split at heq
      · cases heq
      · cases heq
        exact trivial
  | withdraws _ _ => exact ⟨nofun, nofun⟩

/-- What the cluster refuses to a task that resolves directly is the address of its node, all along
a fan-out. -/
theorem refusal_of_run (mode : work.monitors.connectivity = .direct) (distinct : names.Nodup)
    (hi : names[i]? = some node)
    (h : (FanOut.start (work.fanOut spans) names w).run (work.fanOut spans) events = some f) :
    ∀ a, .advance i (.answer a) ∈ events → a.RefusesAddress := by
  have later : ∀ {before : List (Event Happening)} {e : Event Happening},
      (∀ a, .advance i (.answer a) ∈ before → a.RefusesAddress) →
      (∀ a, e = .advance i (.answer a) → a.RefusesAddress) →
      ∀ a, .advance i (.answer a) ∈ before ++ [e] → a.RefusesAddress := by
    intro before e sofar now a hmem
    rcases List.mem_append.1 hmem with hmem | hmem
    · exact sofar a hmem
    · exact now a (List.mem_singleton.1 hmem).symm
  obtain ⟨s, -, -, known⟩ := FanOut.member_induction distinct h
    (P := fun before s => (∀ task, s = .running task → task.Direct) ∧
      ∀ a, .advance i (.answer a) ∈ before → a.RefusesAddress)
    (work.stands_start spans w hi) ⟨fun _ heq => by cases heq; exact trivial, nofun⟩
    (fun _ still known => ⟨known.1, later known.2 fun _ heq => by subst heq; exact absurd rfl still⟩)
    (by
      intro before e g task w' s _ move known
      cases Work.moves_of_moves move with
      | @goes x _ p step =>
        obtain ⟨onward, refuses⟩ := step.direct mode (known.1 task rfl)
        refine ⟨fun task' heq => ?_, later known.2 fun a heq => by cases heq; exact refuses a rfl⟩
        cases p with
        | waiting task => cases heq; exact onward _ rfl
        | finished result => cases heq
      | interrupted _ => exact ⟨nofun, later known.2 nofun⟩
      | breaks => exact ⟨nofun, later known.2 nofun⟩)
  exact known

/-- A node that could not be resolved in its last attempt is one whose address the cluster refused. -/
theorem refused_of_run (mode : work.monitors.connectivity = .direct) (distinct : names.Nodup)
    (h : (FanOut.start (work.fanOut spans) names w).run (work.fanOut spans) events = some f)
    {operation on n reason : String} {attempts : UInt32}
    (recorded : f.report.get? node =
      some (.error (.retryExhausted operation on attempts (.resolution n reason)))) :
    ∃ i error, names[i]? = some node ∧ .advance i (.answer (.address (.error error))) ∈ events ∧
      error.asResolution node = .resolution n reason := by
  obtain ⟨i, before, e, g, hi, hpre, -, fails⟩ := Work.fails_of_run h recorded
  have hmem : e ∈ events := hpre.subset (by simp)
  generalize heq : Error.retryExhausted operation on attempts (.resolution n reason) = error at fails
  cases fails with
  | interrupted _ => cases heq
  | withdrawn _ => cases heq
  | reported _ => cases heq
  | breaks => cases heq
  | failed _ fails => exact absurd heq.symm (fails.ne_retryExhausted _ _ _ _)
  | @exhausted _ _ a _ _ _ fails =>
    cases heq
    generalize hsource : Error.resolution n reason = source at fails
    cases fails with
    | unresolved refused _ =>
      obtain rfl := refusal_of_run mode distinct hi h a hmem _ refused
      exact ⟨i, _, hi, hmem, rfl⟩
    | invalid => cases hsource
    | unreachable => cases hsource
    | refused => cases hsource
    | broken => cases hsource
    | unwritten => cases hsource

/-! ### Nodes without an address -/

/-- That a task did not get further than to ask for an address. -/
def Task.Seeks : Task → Prop
  | .attempting _ stage => stage = .dialing (.resolving .address)
  | _ => True

/-- That a task which took a step in a world goes on to seek an address, or ended with its attempts used
up, unless it noticed that its run was cancelled. -/
def Work.SeeksOn (work : Work) (node : String) (w : World) : Progress Task UInt64 → Prop
  | .waiting task => task.Seeks
  | .finished result =>
    (∃ n, result = .error (.retryExhausted work.operation node n (unaddressed node))) ∨
      result = .error .cancelled ∧ w.isCancelled work.run = true

/-- An attempt that failed for want of an address is followed by another one, or was the last one. -/
theorem Work.seeksOn_attempted {policy : RetryPolicy} (retried : work.policy = some policy) (node : String)
    (n : UInt32) (u w : World) :
    work.SeeksOn node w (Task.attempted work node n u (.error (unaddressed node))).2 := by
  unfold Task.attempted
  rw [retried]
  dsimp only [RetryPolicy.judge, unaddressed, Error.isCancelled]
  by_cases spent : policy.maxAttempts ≤ n
  · simp only [spent, if_true, Bool.false_eq_true, if_false]
    exact .inl ⟨n, rfl⟩
  · simp only [spent, Bool.false_eq_true, if_false]
    exact trivial

/-- A step of a task that is told of no address leads it no further. -/
theorem Task.Goes.seeks {policy : RetryPolicy} (mode : work.monitors.connectivity = .direct)
    (retried : work.policy = some policy) {task : Task} {x : Happening} {p : Progress Task UInt64}
    (step : Task.Goes work node w task x w' p) (h : task.Seeks)
    (told : ∀ r, x = .answer (.address r) → r = .error (unaddressed node)) : work.SeeksOn node w p := by
  cases step with
  | begins =>
    rw [Task.attempt_of_direct mode]
    exact rfl
  | resumes =>
    rw [Task.attempt_of_direct mode]
    exact rfl
  | continues step =>
    obtain rfl := h
    cases step with
    | dials step =>
      cases step with
      | resolves step => cases step
      | connects step _ =>
        cases step
        cases told _ rfl
    | calls step => cases step
  | @attempted n _ _ _ _ step =>
    obtain rfl := h
    cases step with
    | undialed step =>
      cases step with
      | unresolved step =>
        cases step
        cases told _ rfl
        exact Work.seeksOn_attempted retried ..
      | invalid step _ =>
        cases step
        cases told _ rfl
  | withdraws _ cancelled => exact .inr ⟨rfl, cancelled⟩

/-- How the task of a node without an address ends, after these events. -/
inductive Work.EndsUnaddressed (work : Work) (i : Nat) (node : String) (w : World)
    (events : List (Event Happening)) : Except Error Unit → Prop where
  /-- Its attempts are used up. -/
  | exhausted {n : UInt32} : EndsUnaddressed work i node w events
      (.error (.retryExhausted work.operation node n (unaddressed node)))
  /-- Its run was cancelled. -/
  | cancelled (cancelled : w.isCancelled work.run = true ∨ .cancel ∈ events) :
      EndsUnaddressed work i node w events (.error .cancelled)
  /-- It breaks down. -/
  | crashed {reason : String} (crashed : .crash i reason ∈ events) :
      EndsUnaddressed work i node w events (.error (.taskFailed reason))

theorem Work.EndsUnaddressed.mono {more : List (Event Happening)} {outcome : Except Error Unit}
    (h : work.EndsUnaddressed i node w events outcome) (later : events ⊆ more) :
    work.EndsUnaddressed i node w more outcome := by
  cases h with
  | exhausted => exact .exhausted
  | cancelled cancelled => exact .cancelled (cancelled.imp id fun hmem => later hmem)
  | crashed crashed => exact .crashed (later crashed)

/-- What is known of a task that is told of no address. -/
def Work.Unaddressed (work : Work) (i : Nat) (node : String) (w : World)
    (before : List (Event Happening)) : Standing Task → Prop
  | .running task => task.Seeks
  | .over outcome => work.EndsUnaddressed i node w before outcome

/-- That a task is told only that its node has no address. -/
def ToldUnaddressed (i : Nat) (node : String) (events : List (Event Happening)) : Prop :=
  ∀ r, .advance i (.answer (.address r)) ∈ events → r = .error (unaddressed node)

/-- **The task of a node without an address uses up its attempts**, unless its run is cancelled or it
breaks down. -/
theorem endsUnaddressed_of_run {policy : RetryPolicy} (mode : work.monitors.connectivity = .direct)
    (retried : work.policy = some policy) (distinct : names.Nodup) (hi : names[i]? = some node)
    (h : (FanOut.start (work.fanOut spans) names w).run (work.fanOut spans) events = some f)
    (isOver : f.isOver = true) (told : ToldUnaddressed i node events) :
    ∃ outcome, f.report.get? node = some outcome ∧ work.EndsUnaddressed i node w events outcome := by
  have sooner : ∀ {before : List (Event Happening)} {e : Event Happening},
      ToldUnaddressed i node (before ++ [e]) → ToldUnaddressed i node before := fun told r hmem =>
    told r (List.mem_append_left _ hmem)
  obtain ⟨s, hs, known⟩ := FanOut.member_induction distinct h
    (P := fun before s => ToldUnaddressed i node before → work.Unaddressed i node w before s)
    (work.stands_start spans w hi) (fun _ => trivial)
    (by
      intro before e g s _ _ known told
      obtain task | outcome := s
      · exact known (sooner told)
      · exact (known (sooner told)).mono (List.subset_append_left ..))
    (by
      intro before e g task w' s hrun move known told
      have seeks : task.Seeks := known (sooner told)
      have last : e ∈ before ++ [e] := List.mem_append_right _ (List.mem_singleton_self e)
      -- A cancellation that is noticed now has happened before.
      have noticed : g.world.isCancelled work.run = true →
          w.isCancelled work.run = true ∨ .cancel ∈ before ++ [e] := fun cancelled =>
        (Work.isCancelled_of_run hrun work.run cancelled).imp id fun both =>
          List.mem_append_left _ both.2
      cases Work.moves_of_moves move with
      | @goes x _ p step =>
        have onward := step.seeks mode retried seeks fun r heq => told r (heq ▸ last)
        cases p with
        | waiting task' => exact onward
        | finished result =>
          rcases onward with ⟨n, rfl⟩ | ⟨rfl, cancelled⟩
          · exact .exhausted
          · exact .cancelled (noticed cancelled)
      | interrupted cancelled => exact .cancelled (noticed cancelled)
      | breaks => exact .crashed last)
  obtain ⟨outcome, rfl, recorded⟩ := hs.recorded isOver
  exact ⟨outcome, recorded, known told⟩

end MonitorFleet
