import MonitorFleet.Proofs.Task.Cancelling
import MonitorFleet.Proofs.Task.Whole

/-!
# When the attempts of a task are exhausted

A task under a policy counts its attempts, and no attempt that it is at has a higher number than the
policy allows. So if it gives up because its attempts are exhausted, the number that it reports is the
one of the policy, whether nodes are listed once or more often.

## What is proved

* `FanOut.running_of_run`: what the steps of tasks keep is so of every task that runs.
* `RetryPolicy.new_of_one_le`: what a policy takes as it is.
* `RetryPolicy.spent_of_judge`: when attempts are exhausted by the judgement of a policy.
* `Work.numbered_of_run`: every task that runs is at an attempt that its policy allows.
* `Work.attempts_of_exhausted`: the number of attempts that a node is reported with is the policy's.
-/

namespace MonitorFleet

open FanOut (Event Happens)

namespace FanOut

variable {ω τ ε : Type} {op : Operation ω τ ε} {f₀ f g g' : FanOut ω τ} {events : List (Event ε)}
  {P : τ → Prop}

/-- That something is so of every task that runs. -/
def AllRunning (P : τ → Prop) (f : FanOut ω τ) : Prop :=
  ∀ (i : Nat) (node : String) (task : τ), f.members[i]? = some ⟨node, .running task⟩ → P task

/-- A member in another phase leaves the others as they are. -/
theorem AllRunning.setPhase (h : AllRunning P f) (same : g.members = f.members) {j : Nat} {node : String}
    {old phase : Phase τ} (member : f.members[j]? = some ⟨node, old⟩)
    (own : ∀ task, phase = .running task → P task) : AllRunning P (g.setPhase j node phase) := by
  intro i node' task there
  by_cases hij : j = i
  · subst hij
    rw [getElem?_setPhase_self (same ▸ member)] at there
    cases there
    exact own task rfl
  · rw [getElem?_setPhase_ne hij, same] at there
    exact h i node' task there

/-- What the steps of tasks keep is kept by an event. -/
theorem AllRunning.happens (h : AllRunning P g)
    (waits : ∀ {node w task x w' task'}, P task → op.step node w task x = some (w', .waiting task') →
      P task')
    {e : Event ε} (hap : Happens op g e g') : AllRunning P g' := by
  cases hap with
  | cancel => exact h
  | waits member step =>
    refine h.setPhase rfl member fun task heq => ?_
    cases heq
    exact waits (h _ _ _ member) step
  | finishes member _ => exact h.setPhase rfl member nofun
  | interrupt member _ => exact h.setPhase rfl member nofun
  | crash member => exact h.setPhase rfl member nofun
  | join member => exact h.setPhase rfl member nofun

/-- What the steps of tasks keep is so of every task that runs. -/
theorem running_of_run (h : f₀.run op events = some f) (start : AllRunning P f₀)
    (waits : ∀ {node w task x w' task'}, P task → op.step node w task x = some (w', .waiting task') →
      P task') : AllRunning P f :=
  run_induction h (P := fun _ f => AllRunning P f) start fun _ _ kept hap => kept.happens waits hap

end FanOut

/-! ### Policies that allow an attempt -/

/-- A policy takes the number of attempts as it is, if that is one at least. -/
theorem RetryPolicy.new_of_one_le {n : UInt32} (h : 1 ≤ n) (delay : Duration) :
    RetryPolicy.new n delay = ⟨n, delay⟩ := by
  have clamped : max n 1 = n := by
    show (if n ≤ 1 then 1 else n) = n
    split
    · next le => exact UInt32.le_antisymm h le
    · rfl
  rw [RetryPolicy.new, clamped]

theorem RetryPolicy.limit_of_one_le {p : RetryPolicy} (h : 1 ≤ p.maxAttempts) :
    p.limit = p.maxAttempts.toNat :=
  Nat.max_eq_right (UInt32.le_iff_toNat_le.1 h)

/-- Only the last attempt is followed by the judgement that the attempts are exhausted. -/
theorem RetryPolicy.spent_of_judge {α : Type} {p : RetryPolicy} {operation node operation' on : String}
    {k n : UInt32} {outcome : Except Error α} {source : Error} (h : p.judge operation node k outcome =
      .over (.error (.retryExhausted operation' on n source))) : n = k ∧ p.maxAttempts ≤ k := by
  cases outcome with
  | ok a => cases h
  | error reason =>
    rw [RetryPolicy.judge] at h
    split at h
    · cases h
    · split at h
      · next spent =>
        cases h
        exact ⟨rfl, spent⟩
      · cases h

/-! ### Attempts that are used up -/

section

variable {work : Work} {spans : List Span} {names : List String} {p : RetryPolicy} {node : String}
  {w w' : World} {task : Task} {x : Happening} {events : List (Event Happening)} {f : FanOut World Task}

theorem Work.allRunning_start {P : Task → Prop} (idle : P .idle) :
    FanOut.AllRunning P (FanOut.start (work.fanOut spans) names w) := by
  intro i node task member
  simp only [FanOut.start, Work.spawnAll_eq, List.getElem?_map, Option.map_eq_some_iff] at member
  obtain ⟨name, -, heq⟩ := member
  cases heq
  exact idle

/-- Every task that runs is at an attempt that its policy allows, or pauses before one. -/
theorem Work.numbered_of_run (retried : work.policy = some p)
    (h : (FanOut.start (work.fanOut spans) names w).run (work.fanOut spans) events = some f) :
    FanOut.AllRunning (fun task => ∃ attempts, Task.Numbered p attempts (.running task)) f := by
  refine FanOut.running_of_run h (Work.allRunning_start ⟨0, rfl⟩) ?_
  rintro node w task x w' task' ⟨attempts, number⟩ step
  exact ⟨_, (Work.goes_of_waits step).numbered retried number⟩

/-- A task whose attempts are exhausted made as many as its policy allows, if that is one at least. -/
theorem Task.Goes.attempts_eq (retried : work.policy = some p) (positive : 1 ≤ p.maxAttempts)
    {operation on : String} {n : UInt32} {source : Error}
    (step : Task.Goes work node w task x w' (.finished (.error (.retryExhausted operation on n source))))
    {attempts : Nat} (number : Task.Numbered p attempts (.running task)) : n = p.maxAttempts := by
  have limit := RetryPolicy.limit_of_one_le positive
  generalize heq : (Progress.finished (.error (.retryExhausted operation on n source)) :
    Progress Task UInt64) = progress at step
  cases step with
  | begins => cases heq
  | resumes => cases heq
  | continues _ => cases heq
  | withdraws _ _ => cases heq
  | @attempted k _ a w₁ result step =>
    obtain ⟨rfl, within⟩ := number
    rw [Task.attempted, retried] at heq
    dsimp only at heq
    split at heq
    · next judged =>
      cases heq
      obtain ⟨rfl, spent⟩ := RetryPolicy.spent_of_judge judged
      exact UInt32.le_antisymm (UInt32.le_iff_toNat_le.2 (limit ▸ within)) spent
    · cases heq

/-- **A node whose attempts are exhausted** is reported with the number of attempts that the policy
allows. -/
theorem Work.attempts_of_exhausted (retried : work.policy = some p) (positive : 1 ≤ p.maxAttempts)
    (h : (FanOut.start (work.fanOut spans) names w).run (work.fanOut spans) events = some f)
    {operation on : String} {n : UInt32} {source : Error}
    (recorded : f.report.get? node = some (.error (.retryExhausted operation on n source))) :
    n = p.maxAttempts := by
  obtain ⟨i, e, g, ⟨before, hpre, hrun⟩, task, w', member, move⟩ :=
    (FanOut.originated_of_run h).reported node _ recorded
  obtain ⟨attempts, number⟩ := Work.numbered_of_run retried hrun i node task member
  generalize hs : FanOut.Standing.over (.error (.retryExhausted operation on n source)) = s at move
  cases Work.moves_of_moves move with
  | @goes _ _ progress step =>
    cases progress with
    | waiting _ => cases hs
    | finished result =>
      cases result with
      | ok _ => cases hs
      | error reason =>
        cases hs
        exact step.attempts_eq retried positive number
  | interrupted _ => cases hs
  | breaks => cases hs

end

end MonitorFleet
