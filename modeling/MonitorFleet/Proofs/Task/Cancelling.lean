import MonitorFleet.Proofs.FanOut.Outcomes
import MonitorFleet.Proofs.Task.Frames
import MonitorFleet.SystemInfo

/-!
# Cancellation

The cancellation of a run is noticed in several places: by a task that dials, by one that is under a
policy, and by the fan-out for all of its members. Each of them hands it on as it is, and so does
everything that an error of the cluster passes through on its way up. A node that is given up is
therefore recorded as cancelled, and only such a node is, or one for which the cluster itself said
so.

All of this is said of the fan-out of any work, over any nodes and after any events: of the start
and the end of a collection and of the retrieval of system information, whatever the cluster and the
monitors answer, and whenever the run is cancelled.

## What is proved

* `Work.Moves.fails`: what ends a task with an error.
* `Heeded`: what is so of the outcomes of a fan-out that may be cancelled.
* `heeded_of_run`: it is so of every fan-out that is over.
* `withdrawn_of_repeated`: a node that is listed twice can lose the outcome that it had.
-/

namespace MonitorFleet

open FanOut (Event)

/-- The error that the cluster answers with, if it does. -/
def Answer.clusterError? : Answer → Option Error
  | .address (.error error) => some error
  | .pod (.error error) => some error
  | .localPort (.error error) => some error
  | _ => none

/-- How an answer makes an attempt fail, other than by a cancellation. -/
inductive Answer.Fails (node : String) : Answer → Error → Prop where
  /-- The cluster refuses, for another reason than a cancellation. -/
  | unresolved {a : Answer} {error : Error} (refused : a.clusterError? = some error)
      (genuine : error ≠ .cancelled) : Fails node a (error.asResolution node)
  /-- The endpoint makes no address. -/
  | invalid {a : Answer} {endpoint : String} : Fails node a (.connect endpoint .invalidAddress)
  /-- Nobody answers. -/
  | unreachable {endpoint : String} :
      Fails node (.connected false) (.connect endpoint .unreachable)
  /-- The monitor refuses the call. -/
  | refused {called call : String} {status : Status} :
      Fails node (.reply (.error status)) (.remoteCall called call status)
  /-- The stream breaks. -/
  | broken {path : String} {status : Status} :
      Fails node (.broken status) (.transfer path (.receive status))
  /-- The file refuses the bytes. -/
  | unwritten {a : Answer} {path : String} {fault : Fault} :
      Fails node a (.transfer path (.write fault))

/-- No other failure reads as a cancellation. -/
theorem Answer.Fails.ne_cancelled {node : String} {a : Answer} {error : Error}
    (h : a.Fails node error) : error ≠ .cancelled := by
  cases h with
  | unresolved _ genuine => exact fun heq => genuine (Error.asResolution_eq_cancelled.1 heq)
  | invalid => exact nofun
  | unreachable => exact nofun
  | refused => exact nofun
  | broken => exact nofun
  | unwritten => exact nofun

/-- No attempt fails as if it had been repeated already. -/
theorem Answer.Fails.ne_retryExhausted {node : String} {a : Answer} {error : Error}
    (h : a.Fails node error) (operation on : String) (attempts : UInt32) (source : Error) :
    error ≠ .retryExhausted operation on attempts source := by
  cases h with
  | @unresolved _ reason _ _ => cases reason <;> exact nofun
  | invalid => exact nofun
  | unreachable => exact nofun
  | refused => exact nofun
  | broken => exact nofun
  | unwritten => exact nofun

/-! ### Transfers -/

namespace Transfer

variable {t : Transfer} {tree tree' : Tree} {error : Error}

/-- Whether an error says that a file refused the bytes. -/
def Unwritten (error : Error) : Prop := ∃ path fault, error = .transfer path (.write fault)

theorem unwritten_of_start {path : String} (h : start path tree = .error error) :
    Unwritten error := by
  unfold start at h
  split at h
  · cases h
    exact ⟨_, _, rfl⟩
  · cases h

theorem unwritten_of_blocksIn {blocks : List ByteArray}
    (h : t.blocksIn tree blocks = (.error error, tree')) : Unwritten error := by
  induction blocks generalizing t tree with
  | nil => cases h
  | cons data rest ih =>
    simp only [blocksIn] at h
    split at h
    · next refused =>
      cases h
      unfold block at refused
      split at refused
      · cases refused
        exact ⟨_, _, rfl⟩
      · split at refused <;> cases refused
    · exact ih h

theorem unwritten_of_chunk {data : ByteArray} (h : t.chunk tree data = (.error error, tree')) :
    Unwritten error := by
  unfold chunk at h
  split at h
  · next refused =>
    cases h
    exact unwritten_of_blocksIn refused
  · cases h

theorem unwritten_of_finish (h : t.finish = .error error) : Unwritten error := by
  unfold finish at h
  split at h
  · cases h
    exact ⟨_, _, rfl⟩
  · cases h

end Transfer

theorem Answer.fails_of_unwritten {node : String} {a : Answer} {error : Error}
    (h : Transfer.Unwritten error) : a.Fails node error := by
  obtain ⟨_, _, rfl⟩ := h
  exact .unwritten

/-! ### Along a task -/

section

variable {m : Monitors} {run : RunToken} {node : String} {w w' : World} {a : Answer} {error : Error}

/-- A resolution fails only by an error of the cluster, which is seen as an error of the node. -/
theorem Resolving.Goes.refused {spans : List Span} {stage : Resolving}
    (h : Resolving.Goes m run node spans w stage a w' (.finished (.error error))) :
    ∃ reason, a.clusterError? = some reason ∧
      error.asResolution node = reason.asResolution node := by
  cases h with
  | noAddress => exact ⟨_, rfl, rfl⟩
  | noPod => exact ⟨_, rfl, rfl⟩
  | noTunnel => exact ⟨_, rfl, Error.asResolution_asResolution ..⟩

/-- What ends an attempt with an error: an answer of the cluster that says that it was cancelled,
which passes through, or another failure. -/
def Answer.Breaks (node : String) (a : Answer) (error : Error) : Prop :=
  a.clusterError? = some .cancelled ∧ error = .cancelled ∨ a.Fails node error

theorem Dialing.Goes.breaks {stage : Dialing}
    (h : Dialing.Goes m run node w stage a w' (.finished (.error error))) :
    a.Breaks node error := by
  cases h with
  | unresolved step =>
    obtain ⟨reason, refused, heq⟩ := step.refused
    rw [heq]
    by_cases hreason : reason = .cancelled
    · subst hreason
      exact .inl ⟨refused, rfl⟩
    · exact .inr (.unresolved refused hreason)
  | invalid _ _ => exact .inr .invalid
  | unreachable => exact .inr .unreachable

theorem Attempt.Goes.breaks {job : Job} {stage : Attempt}
    (h : Attempt.Goes m run job node w stage a w' (.finished (.error error))) :
    a.Breaks node error := by
  cases h with
  | undialed step => exact step.breaks
  | refused => exact .inr .refused
  | unopened _ refused => exact .inr (Answer.fails_of_unwritten (Transfer.unwritten_of_start refused))
  | chokes refused => exact .inr (Answer.fails_of_unwritten (Transfer.unwritten_of_chunk refused))
  | broken => exact .inr .broken
  | unfinished refused =>
    exact .inr (Answer.fails_of_unwritten (Transfer.unwritten_of_finish refused))

/-- A cancellation that an attempt ends with is what the task ends with, under a policy or not:
it is neither repeated nor wrapped. -/
theorem Task.attempted_cancelled (work : Work) (node : String) (n : UInt32) (w : World) :
    Task.attempted work node n w (.error .cancelled) = (w, .finished (.error .cancelled)) := by
  unfold Task.attempted
  split <;> rfl

end

/-- What ends the task of a member with an error. -/
inductive Work.Fails (work : Work) (i : Nat) (node : String) (w : World) :
    Event Happening → Error → Prop where
  /-- The fan-out gives it up, its run being cancelled. -/
  | interrupted (cancelled : w.isCancelled work.run = true) :
      Fails work i node w (.interrupt i) .cancelled
  /-- It gives itself up, its run being cancelled. -/
  | withdrawn (cancelled : w.isCancelled work.run = true) :
      Fails work i node w (.advance i .withdrawn) .cancelled
  /-- The cluster says that it was cancelled. -/
  | reported {a : Answer} (reported : a.clusterError? = some .cancelled) :
      Fails work i node w (.advance i (.answer a)) .cancelled
  /-- It breaks down. -/
  | breaks {reason : String} : Fails work i node w (.crash i reason) (.taskFailed reason)
  /-- Its only attempt fails. -/
  | failed {a : Answer} {error : Error} (single : work.policy = none) (fails : a.Fails node error) :
      Fails work i node w (.advance i (.answer a)) error
  /-- The last attempt of its policy fails. -/
  | exhausted {policy : RetryPolicy} {n : UInt32} {a : Answer} {source : Error}
      (retried : work.policy = some policy) (spent : policy.maxAttempts ≤ n)
      (fails : a.Fails node source) :
      Fails work i node w (.advance i (.answer a)) (.retryExhausted work.operation node n source)

section

variable {work : Work} {i : Nat} {node : String} {w w' : World} {error : Error}

theorem Work.fails_of_attempted {n : UInt32} {a : Answer} {result : Except Error UInt64} {u : World}
    (breaks : ∀ reason, result = .error reason → a.Breaks node reason)
    (h : (Task.attempted work node n u result).2 = .finished (.error error)) :
    work.Fails i node w (.advance i (.answer a)) error := by
  cases result with
  | ok written =>
    unfold Task.attempted at h
    split at h <;> cases h
  | error reason =>
    rcases breaks reason rfl with ⟨reported, rfl⟩ | fails
    · rw [Task.attempted_cancelled] at h
      cases h
      exact .reported reported
    · have other : reason.isCancelled = false := by
        cases reason <;> first | rfl | exact absurd rfl fails.ne_cancelled
      unfold Task.attempted at h
      split at h
      · next single =>
        cases h
        exact .failed single fails
      · next policy retried =>
        simp only [RetryPolicy.judge, other, Bool.false_eq_true, if_false] at h
        by_cases spent : policy.maxAttempts ≤ n
        · rw [if_pos spent] at h
          cases h
          exact .exhausted retried spent fails
        · rw [if_neg spent] at h
          cases h

/-- Attempts are never exhausted by a cancellation. -/
theorem Work.Fails.source_ne_cancelled {e : Event Happening} {operation on : String} {n : UInt32}
    {source : Error} (h : work.Fails i node w e (.retryExhausted operation on n source)) :
    source ≠ .cancelled := by
  generalize heq : Error.retryExhausted operation on n source = error at h
  cases h with
  | interrupted _ => cases heq
  | withdrawn _ => cases heq
  | reported _ => cases heq
  | breaks => cases heq
  | failed _ fails => exact absurd heq.symm (fails.ne_retryExhausted _ _ _ _)
  | exhausted _ _ fails => cases heq; exact fails.ne_cancelled

/-- A task ends as cancelled only if its run was cancelled, or the cluster says so. -/
theorem Work.Fails.of_cancelled {e : Event Happening} (h : work.Fails i node w e .cancelled) :
    w.isCancelled work.run = true ∨
      ∃ a, e = .advance i (.answer a) ∧ a.clusterError? = some .cancelled := by
  generalize heq : Error.cancelled = error at h
  cases h with
  | interrupted cancelled => exact .inl cancelled
  | withdrawn cancelled => exact .inl cancelled
  | reported reported => exact .inr ⟨_, rfl, reported⟩
  | breaks => cases heq
  | failed _ fails => exact absurd heq.symm fails.ne_cancelled
  | exhausted _ _ _ => cases heq

/-- What ends a task with an error is a cancellation or a breakdown, or a failure that is no
cancellation. -/
theorem Work.Moves.fails {task : Task} {e : Event Happening}
    (h : work.Moves i node w task e w' (.over (.error error))) : work.Fails i node w e error := by
  generalize hs : FanOut.Standing.over (.error error) = s at h
  cases h with
  | @goes _ _ p step =>
    cases p with
    | waiting _ => cases hs
    | finished result =>
      cases result with
      | ok _ => cases hs
      | error reason =>
        obtain rfl : error = reason := by simpa [Progress.standing, Except.map] using hs
        generalize hp : (Progress.finished (.error error) : Progress Task UInt64) = p at step
        cases step with
        | begins => cases hp
        | resumes => cases hp
        | continues _ => cases hp
        | @attempted _ _ _ _ result step =>
          exact Work.fails_of_attempted (fun reason heq => by subst heq; exact step.breaks) hp.symm
        | withdraws _ cancelled => cases hp; exact .withdrawn cancelled
  | interrupted cancelled => cases hs; exact .interrupted cancelled
  | breaks => cases hs; exact .breaks

end

/-! ### In a fan-out -/

/-- What is so of the outcomes of a fan-out over nodes that may be cancelled, at its end. -/
structure Heeded (work : Work) (spans : List Span) (names : List String) (w : World)
    (events : List (Event Happening)) (f : FanOut World Task) : Prop where
  /-- A cancellation is never what the attempts at a node were exhausted by. -/
  unwrapped : ∀ node operation on attempts source,
    f.report.get? node = some (.error (.retryExhausted operation on attempts source)) →
      source ≠ .cancelled
  /-- Each error is what an event ended a task at the node with. -/
  caused : ∀ node error, f.report.get? node = some (.error error) →
    ∃ i before e g, names[i]? = some node ∧ before ++ [e] <+: events ∧
      (FanOut.start (work.fanOut spans) names w).run (work.fanOut spans) before = some g ∧
      work.Fails i node g.world e error
  /-- Once the run is cancelled, each task can be given up, whatever it waits for. -/
  exposed : ∀ before g i node task, before <+: events →
    (FanOut.start (work.fanOut spans) names w).run (work.fanOut spans) before = some g →
    g.members[i]? = some ⟨node, .running task⟩ → g.world.isCancelled work.run = true →
      ∃ g', g.apply (work.fanOut spans) (.interrupt i) = some g'
  /-- A node that was given up is recorded as cancelled, if it is listed once. -/
  interrupted : ∀ before e i node, before ++ [e] <+: events →
    e = .interrupt i ∨ e = .advance i .withdrawn → names[i]? = some node → names.count node ≤ 1 →
      f.report.get? node = some (.error .cancelled)
  /-- A node whose task is over keeps the outcome, if it is listed once. -/
  kept : ∀ before g i node outcome, before <+: events →
    (FanOut.start (work.fanOut spans) names w).run (work.fanOut spans) before = some g →
    FanOut.Stands g i node (.over outcome) → names.count node ≤ 1 →
      f.report.get? node = some outcome
  /-- No node is recorded as cancelled if neither the run nor the cluster was cancelled. -/
  uninvented : w.isCancelled work.run = false → Event.cancel ∉ events →
    (∀ i a, Event.advance i (.answer a) ∈ events → a.clusterError? ≠ some .cancelled) →
      ∀ node, f.report.get? node ≠ some (.error .cancelled)

section

variable {work : Work} {spans : List Span} {names : List String}
  {events : List (Event Happening)} {w : World} {f : FanOut World Task} {node : String}
  {error : Error}

/-- Each error in the report is what an event ended a task at the node with. -/
theorem Work.fails_of_run
    (h : (FanOut.start (work.fanOut spans) names w).run (work.fanOut spans) events = some f)
    (recorded : f.report.get? node = some (.error error)) :
    ∃ i before e g, names[i]? = some node ∧ before ++ [e] <+: events ∧
      (FanOut.start (work.fanOut spans) names w).run (work.fanOut spans) before = some g ∧
      work.Fails i node g.world e error := by
  obtain ⟨i, e, g, ⟨before, hpre, hrun⟩, task, w', member, move⟩ :=
    (FanOut.originated_of_run h).reported node _ recorded
  have hi : names[i]? = some node := by
    rw [← FanOut.nodes_start (work.fanOut spans) names w, ← FanOut.nodes_of_run hrun]
    exact FanOut.getElem?_nodes member
  exact ⟨i, before, e, g, hi, hpre, hrun, (Work.moves_of_moves move).fails⟩

/-- Giving a task up leaves its member cancelled, whoever notices the cancellation. -/
theorem Work.stands_of_given_up {g g' : FanOut World Task} {e : Event Happening} {i : Nat}
    (hap : FanOut.Happens (work.fanOut spans) g e g')
    (gives : e = .interrupt i ∨ e = .advance i .withdrawn) (hi : g.nodes[i]? = some node) :
    FanOut.Stands g' i node (.over (.error .cancelled)) := by
  have named : ∀ {other : String} {phase : Phase Task},
      g.members[i]? = some ⟨other, phase⟩ → other = node := by
    intro other phase member
    exact Option.some.inj ((FanOut.getElem?_nodes member).symm.trans hi)
  rcases gives with rfl | rfl
  · cases hap with
    | interrupt member _ =>
      obtain rfl := named member
      exact .ended (FanOut.getElem?_setPhase_self (f := { g with world := _ }) member)
  · cases hap with
    | waits _ step => cases Work.goes_of_waits step
    | finishes member step =>
      obtain ⟨result, goes, rfl⟩ := Work.goes_of_finishes step
      obtain rfl := named member
      cases goes with
      | withdraws _ _ =>
        exact .ended (FanOut.getElem?_setPhase_self (f := { g with world := _ }) member)

/-- **A cancellation is heeded as it should be** in every fan-out that is over. -/
theorem heeded_of_run
    (h : (FanOut.start (work.fanOut spans) names w).run (work.fanOut spans) events = some f)
    (isOver : f.isOver = true) : Heeded work spans names w events f := by
  have listed : ∀ {before g}, (FanOut.start (work.fanOut spans) names w).run (work.fanOut spans)
      before = some g → g.nodes = names := fun hrun =>
    (FanOut.nodes_of_run hrun).trans (FanOut.nodes_start ..)
  have kept : ∀ before g i node outcome, before <+: events →
      (FanOut.start (work.fanOut spans) names w).run (work.fanOut spans) before = some g →
      FanOut.Stands g i node (.over outcome) → names.count node ≤ 1 →
        f.report.get? node = some outcome := by
    intro before g i node outcome hpre hrun hs once
    obtain ⟨g', after, -, hrun', hrest⟩ := FanOut.run_of_prefix h hpre
    obtain rfl : g = g' := Option.some.inj (hrun.symm.trans hrun')
    exact hs.recorded_of_count (listed hrun ▸ once) hrest isOver
  refine ⟨?_, fun node error => Work.fails_of_run h, ?_, ?_, kept, ?_⟩
  · intro node operation on attempts source recorded
    obtain ⟨i, before, e, g, -, -, -, fails⟩ := Work.fails_of_run h recorded
    exact fails.source_ne_cancelled
  · intro before g i node task _ _ member cancelled
    have cancelled' : (work.fanOut spans).isCancelled g.world = true := cancelled
    exact ⟨_, by simp only [FanOut.apply, member, cancelled', if_true]; rfl⟩
  · intro before e i node hpre gives hi once
    obtain ⟨g, g', hrun, hap, hrun'⟩ := FanOut.happens_of_prefix h hpre
    exact kept _ g' i node _ hpre hrun' (Work.stands_of_given_up hap gives (listed hrun ▸ hi)) once
  · intro uncancelled silent genuine node recorded
    obtain ⟨i, before, e, g, -, hpre, hrun, fails⟩ := Work.fails_of_run h recorded
    have hmem : e ∈ events := hpre.subset (by simp)
    -- The run cannot have been cancelled before the event that ended the task.
    have never : g.world.isCancelled work.run ≠ true := Bool.eq_false_iff.1 <|
      Work.live_of_run hrun uncancelled fun hc => silent (hpre.subset (by simp [hc]))
    rcases fails.of_cancelled with cancelled | ⟨a, rfl, reported⟩
    · exact never cancelled
    · exact genuine _ _ hmem reported

end

/-! ### A node that is listed twice -/

/-- The retrieval of system information in two attempts at each node. -/
def SystemInfo.twice : SystemInfo := ⟨⟨"s", "/s", .direct, .default⟩, ⟨2, .zero⟩⟩

/-- A world with a run that is not cancelled. -/
def World.undisturbed : World := { tree := .fresh, tokens := ⟨[false], []⟩ }

/-- The first of two members fails twice. -/
def exhaustingEvents : List (Event Happening) :=
  [.advance 0 .begun, .advance 1 .begun,
    .advance 0 (.answer (.address (.error (.cluster "gone")))), .advance 0 (.answer .elapsed),
    .advance 0 (.answer (.address (.error (.cluster "gone"))))]

/-- The run is cancelled, and the second member given up. -/
def givingUpEvents : List (Event Happening) :=
  [.cancel, .join 0, .advance 1 .withdrawn, .join 1]

/-- Of two nodes, the one that failed keeps its failure and the other is cancelled. -/
theorem heeded_on_two_nodes :
    ∃ f, (FanOut.start (SystemInfo.twice.operation 0) ["a", "b"] .undisturbed).run
        (SystemInfo.twice.operation 0) (exhaustingEvents ++ givingUpEvents) = some f ∧
      f.isOver = true ∧
      Heeded (SystemInfo.twice.work 0) [SystemInfo.span] ["a", "b"] .undisturbed
        (exhaustingEvents ++ givingUpEvents) f ∧
      f.report.get? "a" = some (.error (.retryExhausted "GetSysInfo" "a" 2
        (.resolution "a" "Cluster query failed: gone"))) ∧
      f.report.get? "b" = some (.error .cancelled) :=
  ⟨_, rfl, rfl, heeded_of_run rfl rfl, rfl, rfl⟩

/-- **A node that is listed twice can lose the outcome that it had**: its first task had exhausted its
attempts, and the node is recorded as cancelled since the second one was given up. -/
theorem withdrawn_of_repeated :
    ∃ g f, (SystemInfo.twice.launch 0 [⟨"a", none⟩, ⟨"a", none⟩] .undisturbed).run
        (SystemInfo.twice.operation 0) exhaustingEvents = some g ∧
      g.run (SystemInfo.twice.operation 0) givingUpEvents = some f ∧ f.isOver = true ∧
      FanOut.Stands g 0 "a" (.over (.error (.retryExhausted "GetSysInfo" "a" 2
        (.resolution "a" "Cluster query failed: gone")))) ∧
      f.report.get? "a" = some (.error .cancelled) :=
  ⟨_, _, rfl, rfl, rfl, .ended rfl, rfl⟩

end MonitorFleet
