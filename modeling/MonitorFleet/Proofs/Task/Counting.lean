import MonitorFleet.Proofs.Task.Frames

/-!
# What a task counts

The counters are touched at three places, far from each other: when an attempt begins under a policy,
when a monitor answers to a call, and when a transfer is complete. Some ways through an attempt pass
all of them and some pass none. What a counter grows by in a step of a task is said here by what
happens to the task (`Work.entry`), and so is what the step asks of the cluster and whom it calls.

## What is proved

* `Task.Goes.counted`: what a step of a task adds to the counters.
* `Task.Goes.searches`: an attempt that begins looks for the monitor.
* `Task.Goes.dialed`: a task that reaches the monitor calls it.
* `Task.Goes.answered`: a call that is made is answered, unless the task gives itself up.
-/

namespace MonitorFleet

/-! ### What happens to a task -/

namespace Happening

/-- Whether an attempt begins: the first one, or another one after a pause. -/
def begins : Happening → Bool
  | begun => true
  | answer .elapsed => true
  | _ => false

/-- Whether a monitor is reached, which is what dialing comes to if it succeeds. -/
def reaches : Happening → Bool
  | answer (.connected reached) => reached
  | _ => false

/-- Whether a monitor takes a call, or refuses it. -/
def replies (taken : Bool) : Happening → Bool
  | answer (.reply result) => taken == result.isOk
  | _ => false

end Happening

/-- Whether an answer is one that dialing waits for. -/
def Answer.dials : Answer → Bool
  | address _ => true
  | pod _ => true
  | localPort _ => true
  | connected _ => true
  | _ => false

/-- Whether something came to its end with a result. -/
def Progress.succeeds {σ α : Type} : Progress σ α → Bool
  | finished result => result.isOk
  | waiting _ => false

/-- What something came to, if it is at its end. -/
def Progress.results {σ α : Type} : Progress σ α → List α
  | finished (.ok result) => [result]
  | _ => []

/-- How many bytes a transfer came to, if the attempt receives one and makes such progress. -/
def Attempt.transferred (stage : Attempt) (p : Progress Attempt UInt64) : List UInt64 :=
  if stage.isReceiving then p.results else []

/-- How many bytes a transfer came to, if the task receives one and makes such progress. -/
def Task.transferred (task : Task) (p : Progress Task UInt64) : List UInt64 :=
  if task.isReceiving then p.results else []

/-- What a counter comes to when it grows by each of some numbers. -/
def Counters.total (numbers : List UInt64) : UInt64 := numbers.foldr (· + ·) 0

@[simp] theorem Counters.total_nil : total [] = 0 := rfl

@[simp] theorem Counters.total_singleton (n : UInt64) : total [n] = n := UInt64.add_zero n

theorem Counters.total_append (numbers more : List UInt64) :
    total (numbers ++ more) = total numbers + total more := by
  induction numbers with
  | nil => exact (UInt64.zero_add _).symm
  | cons n numbers ih => exact (congrArg (n + ·) ih).trans (UInt64.add_assoc ..).symm

/-- What a counter grows by when something happens to a task, whose call has a name, and when
transfers come to so many bytes by it. -/
def Work.entry (work : Work) (call : String) (x : Happening) (written : List UInt64) :
    Counter → UInt64
  | .retryAttempts operation =>
    if operation = work.operation ∧ work.policy.isSome ∧ x.begins then 1 else 0
  | .monitorCalls name taken => if name = call ∧ x.replies taken then 1 else 0
  | .transferBytes => Counters.total written

section

variable {m : Monitors} {run : RunToken} {node : String} {w w' : World} {a : Answer}

theorem Answer.begins_of_dials (dials : a.dials = true) : (Happening.answer a).begins = false := by
  cases a <;> first | rfl | cases dials

theorem Answer.replies_of_dials (dials : a.dials = true) (taken : Bool) :
    (Happening.answer a).replies taken = false := by
  cases a <;> first | rfl | cases dials

theorem Resolving.Goes.dials {spans : List Span} {stage : Resolving}
    {p : Progress Resolving Resolved} (h : Resolving.Goes m run node spans w stage a w' p) :
    a.dials = true ∧ (Happening.answer a).reaches = false ∧ w'.counters = w.counters := by
  cases h <;> exact ⟨rfl, rfl, by simp⟩

/-- Dialing counts nothing. It goes on with answers of its own, and comes to a connection when the
monitor is reached. -/
theorem Dialing.Goes.dials {stage : Dialing} {p : Progress Dialing Connection}
    (h : Dialing.Goes m run node w stage a w' p) :
    a.dials = true ∧ (Happening.answer a).reaches = p.succeeds ∧ w'.counters = w.counters := by
  cases h with
  | resolves step => exact step.dials
  | unresolved step => exact step.dials
  | connects step _ => exact step.dials
  | invalid step _ =>
    obtain ⟨dials, unreached, same⟩ := step.dials
    exact ⟨dials, unreached, (World.counters_release ..).trans same⟩
  | connected => exact ⟨rfl, rfl, rfl⟩
  | unreachable => exact ⟨rfl, rfl, World.counters_release ..⟩

variable {work : Work} {call : String}

namespace Work

theorem entry_eq_zero {x : Happening} (underway : x.begins = false)
    (unanswered : ∀ taken, x.replies taken = false) (c : Counter) :
    work.entry call x [] c = 0 := by
  cases c with
  | retryAttempts operation => simp [entry, underway]
  | monitorCalls name taken => simp [entry, unanswered]
  | transferBytes => rfl

theorem entry_of_dials (dials : a.dials = true) (c : Counter) :
    work.entry call (.answer a) [] c = 0 :=
  entry_eq_zero (Answer.begins_of_dials dials) (Answer.replies_of_dials dials) c

/-- The answer to a call is counted under its name and by what it is. -/
theorem value_add_reply (cs : Counters) (result : Except Status Unit) (c : Counter) :
    (cs.add (.monitorCalls call result.isOk) 1).value c =
      cs.value c + work.entry call (.answer (.reply result)) [] c := by
  rw [Counters.value_add]
  cases c with
  | monitorCalls name taken => simp [entry, Happening.replies]
  | retryAttempts _ => simp [entry, Happening.begins]
  | transferBytes => simp [entry]

/-- The bytes of a transfer are counted once it is complete. -/
theorem value_add_transferred (cs : Counters) (written : UInt64) (c : Counter) :
    (cs.add .transferBytes written).value c =
      cs.value c + work.entry call (.answer .ended) [written] c := by
  rw [Counters.value_add]
  cases c with
  | monitorCalls _ _ => simp [entry, Happening.replies]
  | retryAttempts _ => simp [entry, Happening.begins]
  | transferBytes => simp [entry]

end Work

/-- A step of dialing adds nothing to the counters. -/
theorem Dialing.Goes.counted {stage : Dialing} {p : Progress Dialing Connection}
    (h : Dialing.Goes m run node w stage a w' p) (c : Counter) :
    w'.counters.value c = w.counters.value c + work.entry call (.answer a) [] c := by
  obtain ⟨dials, -, same⟩ := h.dials
  rw [same, Work.entry_of_dials dials, UInt64.add_zero]

/-- What a step of an attempt adds to the counters. -/
theorem Attempt.Goes.counted {stage : Attempt} {p : Progress Attempt UInt64}
    (h : Attempt.Goes work.monitors work.run (work.job node) node w stage a w' p) (c : Counter) :
    w'.counters.value c = w.counters.value c +
      work.entry (work.job node).call.name (.answer a) (stage.transferred p) c := by
  have replied : ∀ result, w'.counters =
      w.counters.add (.monitorCalls (work.job node).call.name result.isOk) 1 →
      w'.counters.value c = w.counters.value c +
        work.entry (work.job node).call.name (.answer (.reply result)) [] c := by
    intro result heq
    rw [heq, Work.value_add_reply]
  have streamed : w'.counters = w.counters → (∀ taken, (Happening.answer a).replies taken = false) →
      (Happening.answer a).begins = false →
      w'.counters.value c = w.counters.value c +
        work.entry (work.job node).call.name (.answer a) [] c := by
    intro same unanswered underway
    rw [same, Work.entry_eq_zero underway unanswered, UInt64.add_zero]
  cases h with
  | dials step => exact step.counted c
  | undialed step => exact step.counted c
  | calls step => exact step.counted c
  | refused => exact replied (.error _) (World.counters_release ..)
  | acknowledged _ => exact replied (.ok ()) (World.counters_release ..)
  | unopened _ _ => exact replied (.ok ()) (World.counters_release ..)
  | opened _ _ => exact replied (.ok ()) rfl
  | takes _ => exact streamed rfl (fun _ => rfl) rfl
  | chokes _ => exact streamed (World.counters_release ..) (fun _ => rfl) rfl
  | broken => exact streamed (World.counters_release ..) (fun _ => rfl) rfl
  | unfinished _ => exact streamed (World.counters_release ..) (fun _ => rfl) rfl
  | @finishes connection transfer written _ =>
    have heq : (succeed (w.count .transferBytes written) (work.job node) connection written).1.counters
        = w.counters.add .transferBytes written := World.counters_release ..
    rw [heq, Work.value_add_transferred]
    rfl

/-! ### Along a task -/

theorem Task.counters_attempt (work : Work) (node : String) (n : UInt32) (w : World) :
    (Task.attempt work node n w).1.counters =
      if work.policy.isSome then w.counters.add (.retryAttempts work.operation) 1
      else w.counters := by
  unfold Task.attempt Attempt.start Dialing.start Resolving.start
  cases work.policy <;> cases work.monitors.connectivity <;> rfl

@[simp] theorem Task.counters_attempted (work : Work) (node : String) (n : UInt32) (w : World)
    (result : Except Error UInt64) :
    (Task.attempted work node n w result).1.counters = w.counters := by
  unfold Task.attempted
  split
  · rfl
  · split <;> rfl

/-- Each attempt under a policy is counted when it begins. -/
theorem Task.value_attempt {x : Happening} (begins : x.begins = true)
    (unanswered : ∀ taken, x.replies taken = false) (n : UInt32) (c : Counter) :
    (Task.attempt work node n w).1.counters.value c =
      w.counters.value c + work.entry call x [] c := by
  rw [Task.counters_attempt]
  cases hp : work.policy with
  | none => cases c <;> simp [Work.entry, hp, unanswered]
  | some policy =>
    rw [Option.isSome_some, if_pos rfl, Counters.value_add]
    cases c <;> simp [Work.entry, hp, begins, unanswered]

/-- A task comes to what its attempt came to. -/
theorem Task.results_attempted (work : Work) (node : String) (n : UInt32) (w : World)
    (result : Except Error UInt64) :
    (Task.attempted work node n w result).2.results =
      (Progress.finished result : Progress Attempt UInt64).results := by
  unfold Task.attempted
  cases work.policy with
  | none => cases result <;> rfl
  | some policy =>
    cases result with
    | ok written => rfl
    | error error =>
      simp only [RetryPolicy.judge]
      split_ifs <;> rfl

/-- What a step of a task adds to the counters. -/
theorem Task.Goes.counted {task : Task} {x : Happening} {p : Progress Task UInt64}
    (h : Task.Goes work node w task x w' p) (c : Counter) :
    w'.counters.value c = w.counters.value c +
      work.entry (work.job node).call.name x (task.transferred p) c := by
  cases h with
  | begins => exact Task.value_attempt rfl (fun _ => rfl) 1 c
  | resumes => exact Task.value_attempt rfl (fun _ => rfl) _ c
  | continues step => exact step.counted c
  | attempted step =>
    rw [Task.counters_attempted, Task.transferred, Task.results_attempted]
    exact step.counted c
  | withdraws _ _ =>
    have none : task.transferred (.finished (.error .cancelled)) = [] := ite_self []
    rw [none, Work.entry_eq_zero rfl fun _ => rfl, UInt64.add_zero]
    exact congrArg (Counters.value · c) (World.counters_release ..)

theorem Attempt.Goes.underway {job : Job} {stage : Attempt} {p : Progress Attempt UInt64}
    (h : Attempt.Goes m run job node w stage a w' p) : (Happening.answer a).begins = false := by
  cases h with
  | dials step => exact Answer.begins_of_dials step.dials.1
  | undialed step => exact Answer.begins_of_dials step.dials.1
  | calls step => exact Answer.begins_of_dials step.dials.1
  | _ => rfl

/-- An attempt that begins looks for the monitor, and nothing else does. -/
theorem Task.Goes.searches {task : Task} {x : Happening} {p : Progress Task UInt64}
    (h : Task.Goes work node w task x w' p) : w'.searches = w.searches + x.begins.toNat := by
  cases h with
  | begins => exact Task.searches_attempt ..
  | resumes => exact Task.searches_attempt ..
  | continues step => rw [step.underway]; exact step.searches
  | attempted step =>
    rw [step.underway]
    unfold World.searches
    rw [Task.asked_attempted]
    exact step.searches
  | withdraws _ _ => simp [World.searches, Happening.begins]

/-- An attempt that reaches the monitor calls it. -/
theorem Attempt.Goes.dialed {job : Job} {stage : Attempt} {p : Progress Attempt UInt64}
    (h : Attempt.Goes m run job node w stage a w' p) :
    w'.called.length = w.called.length + (Happening.answer a).reaches.toNat := by
  cases h with
  | dials step => rw [step.called, step.dials.2.1]; rfl
  | undialed step => rw [step.called, step.dials.2.1]; rfl
  | calls step =>
    rw [World.called_call, List.length_append, step.called, step.dials.2.1]; rfl
  | _ => simp [Attempt.succeed, Happening.reaches]

/-- A task that reaches the monitor calls it, and does not call it otherwise. -/
theorem Task.Goes.dialed {task : Task} {x : Happening} {p : Progress Task UInt64}
    (h : Task.Goes work node w task x w' p) :
    w'.called.length = w.called.length + x.reaches.toNat := by
  cases h with
  | begins => rw [Task.called_attempt]; rfl
  | resumes => rw [Task.called_attempt]; rfl
  | continues step => exact step.dialed
  | attempted step => rw [Task.called_attempted]; exact step.dialed
  | withdraws _ _ => rw [Task.called_drop]; rfl

/-! ### Calls that wait for their answers -/

/-- Whether the answer to the call of an attempt is out. -/
def Attempt.isCalling : Attempt → Bool
  | calling _ => true
  | _ => false

/-- Whether the answer to a call of a task is out. -/
def Task.isCalling : Task → Bool
  | attempting _ stage => stage.isCalling
  | _ => false

/-- Whether something goes on, in a stage of a kind. -/
def Progress.waitsIn {σ α : Type} (kind : σ → Bool) : Progress σ α → Bool
  | waiting stage => kind stage
  | finished _ => false

/-- Whether a task gives itself up. -/
def Happening.quits : Happening → Bool
  | withdrawn => true
  | _ => false

/-- A call that is made is answered, as long as the attempt is not given up. -/
theorem Attempt.Goes.answered {job : Job} {stage : Attempt} {p : Progress Attempt UInt64}
    (h : Attempt.Goes m run job node w stage a w' p) :
    (Happening.answer a).reaches.toNat + stage.isCalling.toNat =
      (p.waitsIn Attempt.isCalling).toNat + ((Happening.answer a).replies true).toNat +
        ((Happening.answer a).replies false).toNat := by
  cases h with
  | dials step =>
    simp only [step.dials.2.1, Answer.replies_of_dials step.dials.1]
    rfl
  | undialed step =>
    simp only [step.dials.2.1, Answer.replies_of_dials step.dials.1]
    rfl
  | calls step =>
    simp only [step.dials.2.1, Answer.replies_of_dials step.dials.1]
    rfl
  | _ => rfl

theorem Task.isCalling_attempted (work : Work) (node : String) (n : UInt32) (w : World)
    (result : Except Error UInt64) :
    (Task.attempted work node n w result).2.waitsIn Task.isCalling = false := by
  unfold Task.attempted
  split
  · rfl
  · split <;> rfl

/-- A call that is made is answered, as long as the task does not give itself up. -/
theorem Task.Goes.answered {task : Task} {x : Happening} {p : Progress Task UInt64}
    (h : Task.Goes work node w task x w' p) :
    x.reaches.toNat + task.isCalling.toNat =
      (p.waitsIn Task.isCalling).toNat + (x.replies true).toNat + (x.replies false).toNat +
        (x.quits && task.isCalling).toNat := by
  cases h with
  | begins => rfl
  | resumes => rfl
  | continues step => exact step.answered
  | attempted step => rw [Task.isCalling_attempted]; exact step.answered
  | withdraws _ _ => exact (Nat.zero_add _).trans (Nat.zero_add _).symm

/-- A task gives itself up only if its run was cancelled. -/
theorem Task.Goes.cancelled_of_quits {task : Task} {x : Happening} {p : Progress Task UInt64}
    (h : Task.Goes work node w task x w' p) (quits : x.quits = true) :
    w.isCancelled work.run = true := by
  cases h with
  | withdraws _ cancelled => exact cancelled
  | _ => cases quits

/-! ### Calls without a stream -/

/-- An attempt that streams nothing succeeds when its call is taken. -/
theorem Attempt.Goes.taken {job : Job} {stage : Attempt} {p : Progress Attempt UInt64}
    (h : Attempt.Goes m run job node w stage a w' p) (silent : job.path? = none)
    (deaf : stage.isReceiving = false) :
    (Happening.answer a).replies true = p.succeeds ∧ p.waitsIn Attempt.isReceiving = false := by
  have streams : ∀ {path}, job.path? ≠ some path := by simp [silent]
  cases h with
  | dials step => exact ⟨Answer.replies_of_dials step.dials.1 true, rfl⟩
  | undialed step => exact ⟨Answer.replies_of_dials step.dials.1 true, rfl⟩
  | calls step => exact ⟨Answer.replies_of_dials step.dials.1 true, rfl⟩
  | refused => exact ⟨rfl, rfl⟩
  | acknowledged _ => exact ⟨rfl, rfl⟩
  | unopened path _ => exact absurd path streams
  | opened path _ => exact absurd path streams
  | _ => cases deaf

/-- A task that streams nothing, in one attempt, succeeds when its call is taken. -/
theorem Task.Goes.taken {task : Task} {x : Happening} {p : Progress Task UInt64}
    (h : Task.Goes work node w task x w' p) (single : work.policy = none)
    (silent : (work.job node).path? = none) (deaf : task.isReceiving = false) :
    x.replies true = p.succeeds ∧ p.waitsIn Task.isReceiving = false := by
  cases h with
  | begins => exact ⟨rfl, rfl⟩
  | resumes => exact ⟨rfl, rfl⟩
  | continues step => exact step.taken silent deaf
  | attempted step =>
    rw [Task.attempted_of_none single]
    exact step.taken silent deaf
  | withdraws _ _ => exact ⟨rfl, rfl⟩

end

end MonitorFleet
