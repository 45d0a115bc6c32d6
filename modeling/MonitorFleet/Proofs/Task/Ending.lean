import MonitorFleet.Proofs.Task.Whole

/-!
# Operations come to their ends

An operation never gets stuck by itself: whatever a task waits for, it takes any answer to it
(`Task.step_isSome`), and a task that is over can be joined. Nor does it go on by itself forever: only
so much can happen to a task, chunks of its streams apart, since each attempt takes its answers one by
one and there are only so many attempts (`Task.rank`). So an operation comes to its end unless something
is never answered, or a stream never ends.

## What is proved

* `Work.goes_on`: as long as an operation is not over, all that is waited for can happen.
* `Work.length_le`: how much can happen to it, but for chunks and cancellations.
* `Work.completes`: it can come to its end, from wherever it got.
-/

namespace MonitorFleet

open FanOut (Event Standing)

/-! ### What is waited for -/

/-- Whether an answer is one to a question. -/
def Answer.fits : Question → Answer → Bool
  | .cluster (.nodeIp _), .address _ => true
  | .cluster (.podForNode ..), .pod _ => true
  | .cluster (.portForward ..), .localPort _ => true
  | .connection .., .connected _ => true
  | .reply .., .reply _ => true
  | .part .., .chunk _ => true
  | .part .., .broken _ => true
  | .part .., .ended => true
  | .pause _, .elapsed => true
  | _, _ => false

/-- Whether an answer is no chunk, of which there may be any number. -/
def Answer.isLast : Answer → Bool
  | .chunk _ => false
  | _ => true

/-- Whether a happening is no chunk. -/
def Happening.isLast : Happening → Bool
  | .answer a => a.isLast
  | _ => true

section

variable {m : Monitors} {run : RunToken} {job : Job} {work : Work} {node : String} {w : World}
  {a : Answer}

theorem Resolving.step_isSome {spans : List Span} {stage : Resolving}
    (h : a.fits (stage.question m node) = true) : (stage.step m run node spans w a).isSome = true := by
  cases stage with
  | address =>
    cases a with
    | address result => cases result <;> rfl
    | _ => cases h
  | pod =>
    cases a with
    | pod result => cases result <;> rfl
    | _ => cases h
  | tunnel _ _ =>
    cases a with
    | localPort result => cases result <;> rfl
    | _ => cases h

theorem Dialing.step_isSome {stage : Dialing} (h : a.fits (stage.question m node) = true) :
    (stage.step m run node w a).isSome = true := by
  cases stage with
  | resolving stage =>
    have resolves : (stage.step m run node (innerSpans node) w a).isSome = true :=
      Resolving.step_isSome h
    obtain ⟨⟨w', p⟩, hp⟩ := Option.isSome_iff_exists.1 resolves
    simp only [step, hp]
    cases p <;> rfl
  | connecting resolved =>
    cases a with
    | connected reached => cases reached <;> rfl
    | _ => cases h

theorem Attempt.received_isSome {connection : Connection} {transfer : Transfer}
    (h : a.fits (.part connection job.call) = true) :
    (received w job connection transfer a).isSome = true := by
  cases a with
  | chunk data =>
    rw [received]
    split <;> rfl
  | broken status => rfl
  | ended =>
    rw [received]
    split <;> rfl
  | _ => cases h

theorem Attempt.step_isSome {stage : Attempt} (h : a.fits (stage.question m job node) = true) :
    (stage.step m run job node w a).isSome = true := by
  cases stage with
  | dialing stage =>
    have dials : (stage.step m run node w a).isSome = true := Dialing.step_isSome h
    obtain ⟨⟨w', p⟩, hp⟩ := Option.isSome_iff_exists.1 dials
    simp only [step, hp]
    cases p with
    | waiting stage => rfl
    | finished result => cases result <;> rfl
  | calling connection =>
    cases a with
    | reply result => rfl
    | _ => cases h
  | receiving connection transfer => exact received_isSome h

/-- What a task waits for: to begin, or for an answer. -/
def Task.awaits (work : Work) (node : String) : Task → Happening → Bool
  | .idle, .begun => true
  | .attempting _ stage, .answer a => a.fits (stage.question work.monitors (work.job node) node)
  | .pausing _, .answer .elapsed => true
  | _, _ => false

/-- A task takes whatever it waits for. -/
theorem Task.step_isSome {task : Task} {x : Happening} (h : task.awaits work node x = true) :
    (task.step work node w x).isSome = true := by
  unfold Task.awaits at h
  split at h
  · rfl
  · next n stage a =>
    have takes : (stage.step work.monitors work.run (work.job node) node w a).isSome = true :=
      Attempt.step_isSome h
    obtain ⟨⟨w', p⟩, hp⟩ := Option.isSome_iff_exists.1 takes
    simp only [step, hp]
    cases p <;> rfl
  · rfl
  · cases h

/-- Something that is waited for, and is no chunk. -/
theorem Task.exists_awaits (work : Work) (node : String) (task : Task) :
    ∃ x, task.awaits work node x = true ∧ x.isLast = true := by
  cases task with
  | idle => exact ⟨.begun, rfl, rfl⟩
  | pausing _ => exact ⟨.answer .elapsed, rfl, rfl⟩
  | attempting _ stage =>
    obtain ⟨a, fits, last⟩ : ∃ a : Answer,
        a.fits (stage.question work.monitors (work.job node) node) = true ∧ a.isLast = true := by
      cases stage with
      | dialing stage =>
        cases stage with
        | resolving stage =>
          cases stage with
          | address => exact ⟨.address (.error .cancelled), rfl, rfl⟩
          | pod => exact ⟨.pod (.error .cancelled), rfl, rfl⟩
          | tunnel _ _ => exact ⟨.localPort (.error .cancelled), rfl, rfl⟩
        | connecting _ => exact ⟨.connected false, rfl, rfl⟩
      | calling _ => exact ⟨.reply (.ok ()), rfl, rfl⟩
      | receiving _ _ => exact ⟨.ended, rfl, rfl⟩
    exact ⟨.answer a, fits, last⟩

end

/-! ### How much there is to come -/

/-- How many answers dialing still takes, beyond the one that it waits for. -/
def Dialing.rank : Dialing → Nat
  | resolving (.tunnel ..) => 1
  | resolving _ => 2
  | connecting _ => 0

/-- How many answers an attempt still takes at most, but for chunks. -/
def Attempt.rank : Attempt → Nat
  | dialing stage => stage.rank + 3
  | calling _ => 2
  | receiving .. => 1

section

variable {m : Monitors} {run : RunToken} {job : Job} {work : Work} {node : String} {w w' : World}
  {a : Answer}

theorem Dialing.Goes.rank {stage stage' : Dialing}
    (step : Dialing.Goes m run node w stage a w' (.waiting stage')) :
    stage'.rank < stage.rank ∧ a.isLast = true := by
  cases step with
  | resolves step =>
    cases step
    exact ⟨Nat.lt_succ_self 1, rfl⟩
  | connects step _ =>
    cases step with
    | address => exact ⟨Nat.zero_lt_two, rfl⟩
    | tunnel => exact ⟨Nat.zero_lt_one, rfl⟩

theorem Dialing.Goes.isLast {stage : Dialing} {p : Progress Dialing Connection}
    (step : Dialing.Goes m run node w stage a w' p) : a.isLast = true := by
  have dials := step.dials.1
  cases a with
  | chunk _ => cases dials
  | _ => rfl

theorem Attempt.rank_pos (stage : Attempt) : 0 < stage.rank := by
  cases stage <;> exact Nat.succ_pos _

/-- An attempt that goes on has less to come, or took a chunk. -/
theorem Attempt.Goes.rank {stage stage' : Attempt}
    (step : Attempt.Goes m run job node w stage a w' (.waiting stage')) :
    stage'.rank + a.isLast.toNat ≤ stage.rank := by
  cases step with
  | dials step =>
    obtain ⟨less, last⟩ := step.rank
    rw [last]
    exact Nat.add_lt_add_right less 3
  | calls step =>
    rw [step.isLast]
    exact Nat.le_add_left 3 _
  | opened _ _ => exact Nat.le_refl 2
  | takes _ => exact Nat.le_refl 1

/-- How many attempts there are in an operation at most. -/
def Work.limit (work : Work) : Nat :=
  match work.policy with
  | none => 1
  | some policy => policy.limit

/-- How much there is still to come after an attempt. -/
def Work.rankAfter (work : Work) (n : UInt32) : Nat := 6 * (work.limit - n.toNat)

/-- How much can still happen to a task, but for chunks. -/
def Task.rank (work : Work) : Task → Nat
  | idle => work.rankAfter 1 + 8
  | attempting n stage => work.rankAfter n + stage.rank + 2
  | pausing n => work.rankAfter (n + 1) + 8

/-- How much can still happen to a member whose task stands so. -/
def FanOut.Standing.rank (work : Work) : Standing Task → Nat
  | .running task => task.rank work
  | .over _ => 1

theorem Task.rank_attempt (work : Work) (node : String) (n : UInt32) (w : World) :
    (Task.attempt work node n w).2.rank work = work.rankAfter n + 7 := by
  unfold attempt Attempt.start Dialing.start Resolving.start
  cases work.monitors.connectivity <;> rfl

theorem Task.one_lt_rank (work : Work) (task : Task) : 1 < task.rank work := by
  cases task <;> simp [rank]

/-- After an attempt that another one may follow, there is that one less to come. -/
theorem Work.rankAfter_succ {policy : RetryPolicy} {n : UInt32} (retried : work.policy = some policy)
    (left : n < policy.maxAttempts) : work.rankAfter (n + 1) + 6 = work.rankAfter n := by
  have small : n.toNat + 1 ≤ policy.maxAttempts.toNat := UInt32.lt_iff_toNat_lt.1 left
  have next : (n + 1).toNat = n.toNat + 1 := by
    rw [UInt32.toNat_add]
    exact Nat.mod_eq_of_lt (small.trans_lt policy.maxAttempts.toNat_lt)
  have limit : policy.maxAttempts.toNat ≤ work.limit := by
    rw [Work.limit, retried]
    exact Nat.le_max_right ..
  unfold Work.rankAfter
  omega

/-- A step of a task leaves less to come, or took a chunk. -/
theorem Task.Goes.rank {task : Task} {x : Happening} {p : Progress Task UInt64}
    (step : Task.Goes work node w task x w' p) :
    p.standing.rank work + x.isLast.toNat ≤ task.rank work := by
  cases step with
  | begins =>
    have begun := Task.rank_attempt work node 1 w
    exact (congrArg (· + 1) begun).le
  | @resumes n =>
    have begun := Task.rank_attempt work node (n + 1) w
    exact (congrArg (· + 1) begun).le
  | @continues n stage stage' a _ step =>
    have less := step.rank
    have here : (Progress.standing (.waiting (Task.attempting n stage'))).rank work =
      work.rankAfter n + stage'.rank + 2 := rfl
    rw [here, Task.rank, Happening.isLast]
    omega
  | @attempted n stage a w₁ result _ =>
    have some := stage.rank_pos
    have one := Bool.toNat_le (Happening.answer a).isLast
    rw [Task.rank]
    rcases Task.standing_attempted work node n w₁ result with
      ⟨outcome, ended, -⟩ | ⟨policy, retried, left, -, again⟩
    · rw [ended, FanOut.Standing.rank]
      omega
    · have fewer := Work.rankAfter_succ retried left
      rw [again, FanOut.Standing.rank, Task.rank]
      omega
  | withdraws _ _ => exact Task.one_lt_rank work task

end

/-! ### Operations -/

/-- How much can still happen to a member of an operation. -/
def Phase.rank (work : Work) : Phase Task → Nat
  | .running task => task.rank work
  | .ended _ => 1
  | .joined => 0

/-- How much can still happen to the members of an operation. -/
def Work.rank (work : Work) : List (Member Task) → Nat
  | [] => 0
  | m :: ms => m.phase.rank work + work.rank ms

/-- Whether an event is more than a chunk, or than the cancellation of the run. -/
def FanOut.Event.isLast : Event Happening → Bool
  | .advance _ x => x.isLast
  | .cancel => false
  | _ => true

/-- Whether an event is one that is waited for: something happens to a task, or it is joined. -/
def FanOut.Event.isAwaited : Event Happening → Bool
  | .advance _ .withdrawn => false
  | .advance _ _ => true
  | .join _ => true
  | _ => false

section

variable {work : Work} {spans : List Span} {names : List String} {w : World}
  {events : List (Event Happening)} {f g : FanOut World Task} {i : Nat} {node : String}

theorem Work.rank_set (work : Work) {members : List (Member Task)} {m : Member Task}
    (m' : Member Task) (h : members[i]? = some m) :
    work.rank (members.set i m') + m.phase.rank work = work.rank members + m'.phase.rank work := by
  induction members generalizing i with
  | nil => cases h
  | cons first members ih =>
    cases i with
    | zero =>
      cases h
      simp only [List.set_cons_zero, rank]
      omega
    | succ i =>
      have rest := ih h
      simp only [List.set_cons_succ, rank]
      omega

theorem Work.rank_start (work : Work) (spans : List Span) (names : List String) (w : World) :
    work.rank (FanOut.start (work.fanOut spans) names w).members =
      names.length * (6 * work.limit + 2) := by
  have idle : Phase.rank work (.running .idle) = 6 * work.limit + 2 := by
    have one : 1 ≤ work.limit := by
      unfold limit
      split
      · exact Nat.le_refl 1
      · exact Nat.le_max_left ..
    have first : (1 : UInt32).toNat = 1 := rfl
    rw [Phase.rank, Task.rank, rankAfter, first]
    omega
  simp only [FanOut.start, spawnAll_eq]
  induction names with
  | nil => exact (Nat.zero_mul _).symm
  | cons node names ih =>
    rw [List.map_cons, rank, ih, idle, List.length_cons, Nat.add_mul names.length 1, Nat.one_mul,
      Nat.add_comm]

/-- An event leaves less to come, but for a chunk and for the cancellation of the run. -/
theorem Work.rank_of_happens {e : Event Happening} (h : FanOut.Happens (work.fanOut spans) f e g) :
    work.rank g.members + e.isLast.toNat ≤ work.rank f.members := by
  -- What happens to one member leaves the others as they are.
  have less : ∀ {i node old phase}, f.members[i]? = some ⟨node, old⟩ →
      g.members = f.members.set i ⟨node, phase⟩ →
      phase.rank work + e.isLast.toNat ≤ old.rank work →
      work.rank g.members + e.isLast.toNat ≤ work.rank f.members := by
    intro i node old phase member members less
    have moved := work.rank_set ⟨node, phase⟩ member
    rw [← members] at moved
    dsimp only at moved
    omega
  cases h with
  | cancel => exact Nat.le_refl _
  | waits member step => exact less member rfl (goes_of_waits step).rank
  | finishes member step =>
    obtain ⟨result, goes, -⟩ := goes_of_finishes step
    exact less member rfl goes.rank
  | @interrupt i node task member _ => exact less member rfl (Task.one_lt_rank work task)
  | @crash i node task _ member => exact less member rfl (Task.one_lt_rank work task)
  | join member => exact less member rfl (Nat.le_refl 1)

/-- Only so much can happen in an operation, but for the chunks that are streamed. -/
theorem Work.length_le
    (h : (FanOut.start (work.fanOut spans) names w).run (work.fanOut spans) events = some f) :
    events.countP FanOut.Event.isLast ≤ names.length * (6 * work.limit + 2) := by
  suffices kept : work.rank f.members + events.countP FanOut.Event.isLast ≤
      names.length * (6 * work.limit + 2) by omega
  refine FanOut.run_induction h (P := fun before g => work.rank g.members +
    before.countP FanOut.Event.isLast ≤ names.length * (6 * work.limit + 2)) ?_ ?_
  · exact (work.rank_start spans names w).le
  · rintro before e after g g' - - kept happens
    have less := rank_of_happens happens
    have one : (if e.isLast = true then 1 else 0) = e.isLast.toNat := by cases e.isLast <;> rfl
    rw [List.countP_append, List.countP_singleton, one]
    omega

/-- Whatever a task waits for can happen. -/
theorem Work.goes_on (spans : List Span) {task : Task} {x : Happening}
    (member : f.members[i]? = some ⟨node, .running task⟩) (awaited : task.awaits work node x = true) :
    ∃ g, f.apply (work.fanOut spans) (.advance i x) = some g := by
  obtain ⟨⟨w', p⟩, hp⟩ := Option.isSome_iff_exists.1 (Task.step_isSome (w := f.world) awaited)
  cases p <;> simp [FanOut.apply, member, Work.fanOut, hp]

/-- As long as an operation is not over, there is something that is waited for, and can happen. -/
theorem Work.exists_apply (work : Work) (spans : List Span) (notOver : f.isOver = false) :
    ∃ e g, f.apply (work.fanOut spans) e = some g ∧ e.isAwaited = true ∧ e.isLast = true := by
  obtain ⟨⟨node, phase⟩, hmem, unjoined⟩ := List.all_eq_false.1 notOver
  obtain ⟨i, member⟩ := List.getElem?_of_mem hmem
  cases phase with
  | running task =>
    obtain ⟨x, awaited, last⟩ := task.exists_awaits work node
    obtain ⟨g, hg⟩ := goes_on spans member awaited
    refine ⟨_, g, hg, ?_, last⟩
    cases x with
    | withdrawn => cases task <;> cases awaited
    | _ => rfl
  | ended outcome =>
    have joins : (f.apply (work.fanOut spans) (.join i)).isSome = true := by
      simp [FanOut.apply, member]
    obtain ⟨g, hg⟩ := Option.isSome_iff_exists.1 joins
    exact ⟨_, g, hg, rfl, rfl⟩
  | joined => exact absurd rfl unjoined

/-- **An operation can come to its end**, from wherever it got, if all that is waited for happens. -/
theorem Work.completes (work : Work) (spans : List Span) (f : FanOut World Task) :
    ∃ events g, f.run (work.fanOut spans) events = some g ∧ g.isOver = true ∧
      ∀ e ∈ events, e.isAwaited = true := by
  -- The induction is on what there is to come, of which each further event leaves less.
  induction hrank : work.rank f.members using Nat.strong_induction_on generalizing f with
  | _ rank ih =>
    by_cases isOver : f.isOver = true
    · exact ⟨[], f, rfl, isOver, List.forall_mem_nil _⟩
    · obtain ⟨e, f', hf', awaited, last⟩ := work.exists_apply spans (Bool.eq_false_iff.2 isOver)
      have less := rank_of_happens (FanOut.happens_of_apply hf')
      rw [last] at less
      obtain ⟨events, g, hg, gOver, all⟩ := ih _ (hrank ▸ less) f' rfl
      refine ⟨e :: events, g, ?_, gOver, List.forall_mem_cons.2 ⟨awaited, all⟩⟩
      rw [FanOut.run, List.foldlM_cons, hf']
      exact hg

end

end MonitorFleet
