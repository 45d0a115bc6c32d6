import MonitorFleet.Proofs.FanOut.Tallies
import MonitorFleet.Proofs.Task.Counting

/-!
# What a fan-out counts

The attempts of a fan-out go side by side, and each is repeated, fails or is given up in its own time.
What the counters grow by over all of it is said here by what happened in it (`Work.tally`): how
often an attempt began, how often a call was taken or refused, and what the transfers came to that
were complete. What happened is tied to what can be seen of it from outside: an attempt that began
looked for a monitor, and a monitor that was reached was called.

## What is proved

* `Work.counted_of_run`: what the counters grow by.
* `Work.searches_of_run`: each attempt looked for a monitor.
* `Work.dialed_of_run`: each monitor that was reached was called.
* `Work.answered_of_run`: each call was answered, or is out, or its task was given up before.
* `Work.taken_of_run`: if nothing is streamed, the tasks succeed whose calls were taken.
-/

namespace MonitorFleet

open FanOut (Event Happens happened observed)

/-- The member whose task an event gives up, if it does. -/
def FanOut.Event.quits? : Event Happening → Option Nat
  | .advance i x => if x.quits then some i else none
  | .interrupt i => some i
  | .crash i _ => some i
  | _ => none

/-- The member whose task an event gives up while the answer to its call is out. -/
def FanOut.unanswered (g : FanOut World Task) (e : Event Happening) : List Nat :=
  e.quits?.toList.filter fun i => (g.members[i]?).any (Member.runsIn Task.isCalling)

/-- How many bytes a transfer came to, of those that an event completes. -/
def Work.transferred (work : Work) (g : FanOut World Task) : Event Happening → List UInt64
  | .advance i x =>
    match g.members[i]? with
    | some ⟨node, .running task⟩ =>
      match task.step work node g.world x with
      | some (_, p) => task.transferred p
      | none => []
    | _ => []
  | _ => []

/-- What the counters grow by in a fan-out, by what happens in it; all calls have one name. -/
def Work.tally (work : Work) (call : String) (spans : List Span) (f₀ : FanOut World Task)
    (events : List (Event Happening)) : Counter → UInt64
  | .retryAttempts operation =>
    if operation = work.operation ∧ work.policy.isSome then
      .ofNat (happened Happening.begins events)
    else 0
  | .monitorCalls name taken =>
    if name = call then .ofNat (happened (Happening.replies taken) events) else 0
  | .transferBytes => Counters.total (observed (work.fanOut spans) work.transferred f₀ events)

section

variable {work : Work} {spans : List Span} {names : List String} {call : String}
  {before events : List (Event Happening)} {e : Event Happening} {w : World}
  {f₀ f g g' : FanOut World Task} {c : Counter}

namespace Work

/-- What a counter grows by at an event. -/
def growth (work : Work) (call : String) (g : FanOut World Task) :
    Event Happening → Counter → UInt64
  | .advance i x => work.entry call x (work.transferred g (.advance i x))
  | _ => fun _ => 0

theorem tally_concat (h : f₀.run (work.fanOut spans) before = some g) (e : Event Happening)
    (c : Counter) :
    work.tally call spans f₀ (before ++ [e]) c =
      work.tally call spans f₀ before c + work.growth call g e c := by
  cases c with
  | retryAttempts operation =>
    rw [tally, tally, FanOut.happened_concat]
    by_cases ours : operation = work.operation ∧ work.policy.isSome
    · rw [if_pos ours, if_pos ours, UInt64.ofNat_add]
      congr 1
      cases e with
      | advance i x => cases hx : x.begins <;> simp [growth, entry, Event.isOf, ours, hx]
      | _ => rfl
    · rw [if_neg ours, if_neg ours]
      cases e with
      | advance i x => simp_all [growth, entry]
      | _ => rfl
  | monitorCalls name taken =>
    rw [tally, tally, FanOut.happened_concat]
    by_cases ours : name = call
    · rw [if_pos ours, if_pos ours, UInt64.ofNat_add]
      congr 1
      cases e with
      | advance i x => cases hx : x.replies taken <;> simp [growth, entry, Event.isOf, ours, hx]
      | _ => rfl
    · rw [if_neg ours, if_neg ours]
      cases e with
      | advance i x => simp [growth, entry, ours]
      | _ => rfl
  | transferBytes =>
    rw [tally, tally, FanOut.observed_concat h, Counters.total_append]
    congr 1
    cases e <;> rfl

end Work

theorem Work.running_start {kind : Task → Bool} (other : kind .idle = false) :
    (FanOut.start (work.fanOut spans) names w).running kind = 0 := by
  rw [FanOut.running, FanOut.start, Work.spawnAll_eq]
  refine List.countP_eq_zero.2 fun m hmem => ?_
  obtain ⟨node, -, rfl⟩ := List.mem_map.1 hmem
  simp [Member.runsIn, other]

theorem Work.successes_start :
    (FanOut.start (work.fanOut spans) names w).successes = 0 := by
  rw [FanOut.successes, FanOut.start, Work.spawnAll_eq]
  refine (Nat.zero_add _).trans (List.countP_eq_zero.2 fun m hmem => ?_)
  obtain ⟨node, -, rfl⟩ := List.mem_map.1 hmem
  exact Bool.false_ne_true

/-- What an event adds to the counters. -/
theorem Work.counted_of_happens (named : ∀ node, (work.job node).call.name = call)
    (hap : Happens (work.fanOut spans) g e g') (c : Counter) :
    g'.world.counters.value c = g.world.counters.value c + work.growth call g e c := by
  have moved : ∀ {i : Nat} {node : String} {task : Task} {x : Happening} {w' : World}
      {p : Progress Task UInt64}, g.members[i]? = some ⟨node, .running task⟩ →
      task.step work node g.world x = some (w', p) →
      w'.counters.value c = g.world.counters.value c + work.growth call g (.advance i x) c := by
    intro i node task x w' p member step
    have seen : work.transferred g (.advance i x) = task.transferred p := by
      simp only [Work.transferred, member, step]
    rw [Work.growth, seen, ← named node]
    exact (Task.goes_of_step step).counted c
  have unmoved : ∀ {w' : World}, w'.counters = g.world.counters →
      w'.counters.value c = g.world.counters.value c + 0 := by
    intro w' same
    rw [same, UInt64.add_zero]
  cases hap with
  | cancel => exact unmoved rfl
  | waits member step => exact moved member (Work.step_of_waits step)
  | finishes member step =>
    obtain ⟨result, step, -⟩ := Work.step_of_finishes step
    exact moved member step
  | interrupt _ _ => exact unmoved (World.counters_release ..)
  | crash _ => exact unmoved (World.counters_release ..)
  | @join i node outcome _ =>
    obtain ⟨log, hlog⟩ := work.noteAll_eq spans g.world (Report.warning work.operation node outcome)
    have same := congrArg World.counters hlog
    exact unmoved same

/-- **What the counters grow by in a fan-out.** -/
theorem Work.counted_of_run (named : ∀ node, (work.job node).call.name = call)
    (h : f₀.run (work.fanOut spans) events = some f) (c : Counter) :
    f.world.counters.value c =
      f₀.world.counters.value c + work.tally call spans f₀ events c := by
  refine FanOut.run_induction h (P := fun before g => g.world.counters.value c =
    f₀.world.counters.value c + work.tally call spans f₀ before c) ?_ ?_
  · cases c with
    | retryAttempts operation => simp [Work.tally, happened]
    | monitorCalls name taken => simp [Work.tally, happened]
    | transferBytes => exact (UInt64.add_zero _).symm
  · intro before e after g g' _ hrun ih hap
    rw [Work.counted_of_happens named hap, ih, Work.tally_concat hrun, UInt64.add_assoc]

/-! ### Attempts and calls -/

/-- What the tasks do each time that something happens to them is done as often over a fan-out. -/
theorem Work.happened_of_run (measure : World → Nat) {kind : Happening → Bool}
    (h : f₀.run (work.fanOut spans) events = some f)
    (goes : ∀ {node w task x w' p}, Task.Goes work node w task x w' p →
      measure w' = measure w + (kind x).toNat)
    (drop : ∀ w task, measure (Task.drop w task) = measure w)
    (note : ∀ w log, measure { w with log } = measure w)
    (cancel : ∀ w, measure (w.cancel work.run) = measure w) :
    measure f.world = measure f₀.world + happened kind events := by
  refine FanOut.run_induction h
    (P := fun before g => measure g.world = measure f₀.world + happened kind before) rfl ?_
  intro before e after g g' _ _ ih hap
  rw [FanOut.happened_concat, ← Nat.add_assoc, ← ih]
  cases hap with
  | cancel => exact cancel _
  | waits _ step => exact goes (Work.goes_of_waits step)
  | finishes _ step =>
    obtain ⟨_, step, -⟩ := Work.goes_of_finishes step
    exact goes step
  | interrupt _ _ => exact drop _ _
  | crash _ => exact drop _ _
  | @join i node outcome _ =>
    obtain ⟨log, hlog⟩ := work.noteAll_eq spans g.world (Report.warning work.operation node outcome)
    exact (congrArg measure hlog).trans (note _ _)

/-- Each attempt looked for a monitor. -/
theorem Work.searches_of_run (h : f₀.run (work.fanOut spans) events = some f) :
    f.world.searches = f₀.world.searches + happened Happening.begins events :=
  Work.happened_of_run World.searches h Task.Goes.searches
    (fun w task => congrArg (·.countP Query.isSearch) (Task.asked_drop w task))
    (fun _ _ => rfl) fun _ => rfl

/-- Each monitor that was reached was called. -/
theorem Work.dialed_of_run (h : f₀.run (work.fanOut spans) events = some f) :
    f.world.called.length = f₀.world.called.length + happened Happening.reaches events :=
  Work.happened_of_run (fun w => w.called.length) h Task.Goes.dialed
    (fun w task => congrArg List.length (Task.called_drop w task)) (fun _ _ => rfl) fun _ => rfl

/-! ### Answers -/

/-- What an event leaves unanswered, which may make a task quit. -/
theorem FanOut.length_unanswered {i : Nat} {node : String} {task : Task}
    (member : g.members[i]? = some ⟨node, .running task⟩) (quits : Bool)
    (given : e.quits? = if quits then some i else none) :
    (FanOut.unanswered g e).length = (quits && task.isCalling).toNat := by
  unfold FanOut.unanswered
  rw [given]
  cases quits with
  | false => rfl
  | true => cases hc : task.isCalling <;> simp [member, Member.runsIn, hc]

/-- An answer that was out is out after an event, or came with it, or its task was given up. -/
theorem Work.answered_of_happens (hap : Happens (work.fanOut spans) g e g') :
    (e.isOf Happening.reaches).toNat + g.running Task.isCalling =
      (e.isOf (Happening.replies true)).toNat + (e.isOf (Happening.replies false)).toNat +
        g'.running Task.isCalling + (FanOut.unanswered g e).length := by
  have given : ∀ {i : Nat} {node : String} {task : Task} (w : World) (outcome : Except Error Unit),
      g.members[i]? = some ⟨node, .running task⟩ → e.quits? = some i →
      g.running Task.isCalling =
        ({ g with world := w }.setPhase i node (.ended outcome)).running Task.isCalling +
          (FanOut.unanswered g e).length := by
    intro i node task w outcome member quits
    rw [FanOut.length_unanswered member true quits]
    exact (FanOut.running_ends Task.isCalling w member outcome).symm
  cases hap with
  | cancel => simp [Event.isOf, FanOut.unanswered, Event.quits?, FanOut.running]
  | @waits i node task task' x w member step =>
    have answered := (Work.goes_of_waits step).answered
    have counted := FanOut.running_waits Task.isCalling w member task'
    rw [FanOut.length_unanswered member x.quits rfl]
    simp only [Event.isOf, Progress.waitsIn] at answered ⊢
    omega
  | @finishes i node task x w outcome member step =>
    obtain ⟨result, goes, -⟩ := Work.goes_of_finishes step
    have answered := goes.answered
    have counted := FanOut.running_ends Task.isCalling w member outcome
    rw [FanOut.length_unanswered member x.quits rfl]
    simp only [Event.isOf, Progress.waitsIn, Bool.toNat_false] at answered ⊢
    omega
  | interrupt member _ => simpa [Event.isOf] using given _ _ member rfl
  | crash member => simpa [Event.isOf] using given _ _ member rfl
  | join member =>
    rw [FanOut.running_join Task.isCalling _ member]
    simp [Event.isOf, FanOut.unanswered, Event.quits?]

/-- Each call was answered, or its answer is out, or its task was given up before. -/
theorem Work.answered_of_run (h : f₀.run (work.fanOut spans) events = some f)
    (idle : f₀.running Task.isCalling = 0) :
    happened Happening.reaches events =
      happened (Happening.replies true) events + happened (Happening.replies false) events +
        f.running Task.isCalling +
          (observed (work.fanOut spans) FanOut.unanswered f₀ events).length := by
  refine FanOut.run_induction h (P := fun before g => happened Happening.reaches before =
    happened (Happening.replies true) before + happened (Happening.replies false) before +
      g.running Task.isCalling +
        (observed (work.fanOut spans) FanOut.unanswered f₀ before).length) ?_ ?_
  · rw [idle]
    rfl
  · intro before e after g g' _ hrun ih hap
    rw [FanOut.happened_concat, FanOut.happened_concat, FanOut.happened_concat,
      FanOut.observed_concat hrun, List.length_append]
    have answered := Work.answered_of_happens hap
    omega

/-- A call that is never answered is that of a task that broke down, unless the run was cancelled. -/
theorem Work.crashed_of_unanswered
    (h : (FanOut.start (work.fanOut spans) names w).run (work.fanOut spans) events = some f)
    (live : w.isCancelled work.run = false) (undisturbed : .cancel ∉ events) {i : Nat}
    (lost : i ∈ observed (work.fanOut spans) FanOut.unanswered
      (FanOut.start (work.fanOut spans) names w) events) :
    ∃ reason, .crash i reason ∈ events := by
  obtain ⟨before, e, g, g', hpre, hrun, hap, hmem⟩ := FanOut.mem_observed h lost
  have quits : e.quits? = some i := by simpa using (List.mem_filter.1 hmem).1
  have still : g.world.isCancelled work.run ≠ true := Bool.eq_false_iff.1 <|
    Work.live_of_run hrun live fun hc => undisturbed (hpre.subset (by simp [hc]))
  have given : ∀ {j : Nat} {x : Happening}, e = .advance j x → x.quits = true := by
    rintro j x rfl
    by_contra stays
    simp [Event.quits?, stays] at quits
  cases hap with
  | cancel => cases quits
  | waits _ step => exact absurd ((Work.goes_of_waits step).cancelled_of_quits (given rfl)) still
  | finishes _ step =>
    obtain ⟨_, goes, -⟩ := Work.goes_of_finishes step
    exact absurd (goes.cancelled_of_quits (given rfl)) still
  | interrupt _ cancelled => exact absurd cancelled still
  | @crash j _ _ reason _ =>
    cases quits
    exact ⟨reason, hpre.subset (by simp)⟩
  | join _ => cases quits

/-! ### Calls without a stream -/

/-- An event of single attempts that stream nothing makes a task succeed just if it takes its
call. -/
theorem Work.taken_of_happens (single : work.policy = none)
    (silent : ∀ node, (work.job node).path? = none) (deaf : g.running Task.isReceiving = 0)
    (fresh : ∀ (i : Nat) (node : String) (outcome : Except Error Unit),
      g.members[i]? = some ⟨node, .ended outcome⟩ → g.report.get? node = none)
    (hap : Happens (work.fanOut spans) g e g') :
    g.successes + (e.isOf (Happening.replies true)).toNat = g'.successes ∧
      g'.running Task.isReceiving = 0 := by
  -- A task that is given up did not succeed.
  have given : ∀ {i : Nat} {node : String} {task : Task} (w : World) (error : Error),
      g.members[i]? = some ⟨node, .running task⟩ → e.isOf (Happening.replies true) = false →
      g.successes + (e.isOf (Happening.replies true)).toNat =
          ({ g with world := w }.setPhase i node (.ended (.error error))).successes ∧
        ({ g with world := w }.setPhase i node (.ended (.error error))).running
          Task.isReceiving = 0 := by
    intro i node task w error member unanswered
    have still := FanOut.running_ends Task.isReceiving w member (.error error)
    rw [unanswered]
    exact ⟨(FanOut.successes_ends w member (.error error)).symm, by omega⟩
  cases hap with
  | cancel => exact ⟨rfl, deaf⟩
  | @waits i node task task' x w member step =>
    obtain ⟨taken, waits⟩ := (Work.goes_of_waits step).taken single (silent _)
      (FanOut.not_kind_of_running deaf member)
    have still := FanOut.running_waits Task.isReceiving w member task'
    rw [Progress.waitsIn] at waits
    rw [Event.isOf, taken, FanOut.successes_waits w member]
    rw [waits, Bool.toNat_false] at still
    exact ⟨rfl, by omega⟩
  | @finishes i node task x w outcome member step =>
    obtain ⟨result, goes, rfl⟩ := Work.goes_of_finishes step
    obtain ⟨taken, -⟩ := goes.taken single (silent _) (FanOut.not_kind_of_running deaf member)
    have still := FanOut.running_ends Task.isReceiving w member (result.map fun _ => ())
    rw [Event.isOf, taken, FanOut.successes_ends w member]
    refine ⟨?_, by omega⟩
    cases result <;> rfl
  | interrupt member _ => exact given _ _ member rfl
  | crash member => exact given _ _ member rfl
  | @join i node outcome member =>
    rw [FanOut.successes_join _ member (fresh i node outcome member),
      FanOut.running_join Task.isReceiving _ member]
    exact ⟨rfl, deaf⟩

/-- In a fan-out of single attempts that stream nothing, the tasks succeed whose calls were taken. -/
theorem Work.taken_of_run (single : work.policy = none)
    (silent : ∀ node, (work.job node).path? = none) (distinct : names.Nodup)
    (h : (FanOut.start (work.fanOut spans) names w).run (work.fanOut spans) events = some f) :
    happened (Happening.replies true) events = f.successes := by
  refine (FanOut.run_induction h (P := fun before g =>
    happened (Happening.replies true) before = g.successes ∧ g.running Task.isReceiving = 0)
    ⟨Work.successes_start.symm, Work.running_start rfl⟩ ?_).1
  rintro before e after g g' - hrun ⟨counted, deaf⟩ hap
  rw [FanOut.happened_concat, counted]
  exact Work.taken_of_happens single silent deaf
    (fun i node outcome member => FanOut.unrecorded_of_run distinct hrun i _ member rfl) hap

end

end MonitorFleet
