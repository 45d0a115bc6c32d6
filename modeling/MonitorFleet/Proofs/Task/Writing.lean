import MonitorFleet.Proofs.Task.Frames
import MonitorFleet.Proofs.Tree.Growing

/-!
# What tasks write

A task writes to the file of its stream alone, and only from the moment at which it opens it. So all
that a fan-out writes is at locations that its nodes' paths lead to when they are opened, whatever
happens in it: several tasks may stream to one file, a file may refuse to be opened, and tasks may be
given up.

## What is proved

* `Task.Goes.written`: a step of a task changes at most the file of its stream.
* `Task.written_of_runWith`: a task on its own changes at most the file that it may open.
* `Work.written_of_happens`, `Work.written_of_run`: a fan-out changes at most the files that its tasks may open.
* `Task.grows_of_runWith`, `Work.grows_of_run`: neither shortens a file or changes what was in it.
-/

namespace MonitorFleet

open FanOut (Event)
open MonitorFleet.Tree (Grows Written)

variable {m : Monitors} {run : RunToken} {job : Job} {node : String} {w w' : World} {a : Answer}
  {places : Location → Prop}

/-! ### Steps -/

theorem Resolving.Goes.tree {spans : List Span} {stage : Resolving}
    {p : Progress Resolving Resolved} (h : Resolving.Goes m run node spans w stage a w' p) :
    w'.tree = w.tree := by
  cases h <;> simp

theorem Dialing.Goes.tree {stage : Dialing} {p : Progress Dialing Connection}
    (h : Dialing.Goes m run node w stage a w' p) : w'.tree = w.tree := by
  cases h with
  | resolves step => exact step.tree
  | unresolved step => exact step.tree
  | connects step _ => exact step.tree
  | invalid step _ => simpa using step.tree
  | connected => rfl
  | unreachable => simp

/-- Whether an attempt streams to none but these locations. -/
def Attempt.StreamsTo (places : Location → Prop) : Attempt → Prop
  | receiving _ transfer => places transfer.place
  | _ => True

/-- Whether a task streams to none but these locations. -/
def Task.StreamsTo (places : Location → Prop) : Task → Prop
  | attempting _ stage => stage.StreamsTo places
  | _ => True

/-- Whether the file of a job is at one of these locations, if it can be opened. -/
def Job.OpensIn (places : Location → Prop) (tree : Tree) (job : Job) : Prop :=
  ∀ path place later, job.path? = some path → tree.openFile path = .ok (place, later) → places place

/-- What a step of an attempt writes. -/
theorem Attempt.Goes.written {stage : Attempt} {p : Progress Attempt UInt64}
    (h : Attempt.Goes m run job node w stage a w' p) (streams : stage.StreamsTo places)
    (opens : job.OpensIn places w.tree) :
    Written places w.tree w'.tree ∧ ∀ stage', p = .waiting stage' → stage'.StreamsTo places := by
  have still : ∀ {tree : Tree}, tree = w.tree → Written places w.tree tree := by
    rintro _ rfl
    exact .refl _ _
  have own : ∀ {place : Location} {tree : Tree}, places place →
      Written (· = place) w.tree tree → Written places w.tree tree := by
    intro place tree allowed written
    exact written.mono fun q hq => hq ▸ allowed
  have ended : ∀ {result : Except Error UInt64} (stage' : Attempt),
      (.finished result : Progress Attempt UInt64) = .waiting stage' → stage'.StreamsTo places := by
    intro result stage' h
    cases h
  cases h with
  | dials step => exact ⟨still step.tree, fun _ h' => by cases h'; trivial⟩
  | undialed step => exact ⟨still step.tree, ended⟩
  | calls step => exact ⟨still (by simp [step.tree]), fun _ h' => by cases h'; trivial⟩
  | refused => exact ⟨still (by simp), ended⟩
  | acknowledged _ => exact ⟨still (by simp [Attempt.succeed]), ended⟩
  | unopened _ _ => exact ⟨still (by simp), ended⟩
  | opened streams' start =>
    obtain ⟨hopen, written⟩ := Transfer.written_of_start start
    have allowed := opens _ _ _ streams' hopen
    exact ⟨own allowed written, fun _ h' => by cases h'; exact allowed⟩
  | takes taken =>
    obtain ⟨written, place⟩ := Transfer.written_of_chunk taken
    refine ⟨own streams written, fun _ h' => ?_⟩
    cases h'
    exact (congrArg places (place _ rfl)).mpr streams
  | chokes refused =>
    have written := (Transfer.written_of_chunk refused).1
    refine ⟨?_, ended⟩
    rw [World.tree_release]
    exact own streams written
  | broken => exact ⟨still (by simp), ended⟩
  | unfinished _ => exact ⟨still (by simp), ended⟩
  | finishes _ => exact ⟨still (by simp [Attempt.succeed]), ended⟩

variable {work : Work} {task : Task}

theorem Task.streamsTo_attempt (work : Work) (node : String) (n : UInt32) (w : World) :
    (Task.attempt work node n w).2.StreamsTo places := by
  unfold Task.attempt Attempt.start Dialing.start
  trivial

theorem Task.streamsTo_of_attempted {n : UInt32} {result : Except Error UInt64} {task : Task}
    (h : (Task.attempted work node n w result).2 = .waiting task) : task.StreamsTo places := by
  unfold Task.attempted at h
  split at h
  · cases h
  · split at h <;> cases h
    trivial

/-- A step of a task changes at most the file of its stream. -/
theorem Task.Goes.written {x : Happening} {p : Progress Task UInt64}
    (h : Task.Goes work node w task x w' p) (streams : task.StreamsTo places)
    (opens : (work.job node).OpensIn places w.tree) :
    Written places w.tree w'.tree ∧ ∀ task', p = .waiting task' → task'.StreamsTo places := by
  cases h with
  | begins =>
    rw [Task.tree_attempt]
    exact ⟨.refl _ _, fun _ h' => by cases h'; exact Task.streamsTo_attempt ..⟩
  | resumes =>
    rw [Task.tree_attempt]
    exact ⟨.refl _ _, fun _ h' => by cases h'; exact Task.streamsTo_attempt ..⟩
  | continues step =>
    obtain ⟨written, goes⟩ := step.written streams opens
    exact ⟨written, fun _ h' => by cases h'; exact goes _ rfl⟩
  | attempted step =>
    rw [Task.tree_attempted]
    exact ⟨(step.written streams opens).1, fun _ h' => Task.streamsTo_of_attempted h'⟩
  | withdraws _ _ =>
    rw [Task.tree_drop]
    exact ⟨.refl _ _, nofun⟩

/-! ### Tasks on their own -/

/-- A task on its own goes on with what happens to it, until it is done, or is given up since its
run was cancelled; `none` if this cannot happen to it. The cancellation of the run comes in between
as an event without a happening. -/
def Task.runWith (work : Work) (node : String) :
    List (Option Happening) → World → Task → Option (Except Error UInt64 × World)
  | [], w, task => if w.isCancelled work.run then some (.error .cancelled, task.drop w) else none
  | none :: events, w, task => runWith work node events (w.cancel work.run) task
  | some x :: events, w, task =>
    match task.step work node w x with
    | none => none
    | some (w, .waiting task) => runWith work node events w task
    | some (w, .finished result) => if events.isEmpty then some (result, w) else none

/-- A task on its own changes at most the file that it may open. -/
theorem Task.written_of_runWith {events : List (Option Happening)} {result : Except Error UInt64}
    (h : Task.runWith work node events w task = some (result, w')) (streams : task.StreamsTo places)
    (opens : ∀ tree, Written places w.tree tree → (work.job node).OpensIn places tree) :
    Written places w.tree w'.tree := by
  induction events generalizing w task with
  | nil =>
    rw [runWith] at h
    split at h
    · cases h
      rw [Task.tree_drop]
      exact .refl _ _
    · cases h
  | cons event events ih =>
    cases event with
    | none => exact ih (w := w.cancel work.run) h streams opens
    | some x =>
      rw [runWith] at h
      split at h
      · cases h
      · next hstep =>
        obtain ⟨written, goes⟩ := (Task.goes_of_step hstep).written streams (opens _ (.refl _ _))
        exact written.trans (ih h (goes _ rfl) fun tree later => opens tree (written.trans later))
      · next hstep =>
        split at h
        · cases h
          exact ((Task.goes_of_step hstep).written streams (opens _ (.refl _ _))).1
        · cases h

/-! ### Fan-outs -/

/-- Whether the tasks that run are of these nodes, each with the number of its node, and stream to none
but the locations of their nodes. -/
def StreamTo (names : List String) (places : String → Location → Prop) (f : FanOut World Task) : Prop :=
  ∀ (i : Nat) (node : String) (task : Task), f.members[i]? = some ⟨node, .running task⟩ →
    names[i]? = some node ∧ task.StreamsTo (places node)

/-- A member whose phase is set is the one that the event is about; the others stand as before. -/
theorem StreamTo.setPhase {names : List String} {places : String → Location → Prop}
    {f g : FanOut World Task} {j : Nat} {phase : Phase Task} (h : StreamTo names places f)
    (same : g.members = f.members)
    (own : ∀ task, phase = .running task → names[j]? = some node ∧ task.StreamsTo (places node)) :
    StreamTo names places (g.setPhase j node phase) := by
  intro i node' task member
  by_cases hij : j = i
  · subst hij
    have bound : j < g.members.length := by
      have := (List.getElem?_eq_some_iff.1 member).1
      rwa [FanOut.setPhase, List.length_set] at this
    rw [FanOut.setPhase, List.getElem?_set_self bound] at member
    cases member
    exact own task rfl
  · rw [FanOut.getElem?_setPhase_ne hij, same] at member
    exact h i node' task member

theorem streamTo_start {spans : List Span} {names : List String}
    {places : String → Location → Prop} (w : World) :
    StreamTo names places (FanOut.start (work.fanOut spans) names w) := by
  intro i node task member
  simp only [FanOut.start, Work.spawnAll_eq, List.getElem?_map, Option.map_eq_some_iff] at member
  obtain ⟨name, hname, heq⟩ := member
  cases heq
  exact ⟨hname, trivial⟩

/-- What happens in a fan-out changes at most the files of the node whose task goes on. -/
theorem Work.written_of_happens {spans : List Span} {names : List String}
    {places : String → Location → Prop} {e : Event Happening} {g g' : FanOut World Task}
    (hap : FanOut.Happens (work.fanOut spans) g e g') (streams : StreamTo names places g)
    (opens : ∀ node ∈ names, (work.job node).OpensIn (places node) g.world.tree) :
    Written (fun q => ∃ i node, e.mover? = some i ∧ names[i]? = some node ∧ places node q)
      g.world.tree g'.world.tree ∧ StreamTo names places g' := by
  cases hap with
  | cancel => exact ⟨.refl _ _, streams⟩
  | waits member step =>
    obtain ⟨listed, streamed⟩ := streams _ _ _ member
    obtain ⟨grown, goes⟩ := (Work.goes_of_waits step).written streamed
      (opens _ (List.mem_of_getElem? listed))
    refine ⟨grown.mono fun q hq => ⟨_, _, rfl, listed, hq⟩,
      StreamTo.setPhase streams rfl fun task h' => ?_⟩
    cases h'
    exact ⟨listed, goes _ rfl⟩
  | finishes member step =>
    obtain ⟨listed, streamed⟩ := streams _ _ _ member
    obtain ⟨_, goes, -⟩ := Work.goes_of_finishes step
    exact ⟨(goes.written streamed (opens _ (List.mem_of_getElem? listed))).1.mono
      fun q hq => ⟨_, _, rfl, listed, hq⟩, StreamTo.setPhase streams rfl fun _ h' => by cases h'⟩
  | @interrupt i node task member cancelled =>
    refine ⟨?_, StreamTo.setPhase streams rfl fun _ h' => by cases h'⟩
    exact (congrArg (Written _ g.world.tree) (Task.tree_drop g.world task)).mpr (.refl _ _)
  | @crash i node task reason member =>
    refine ⟨?_, StreamTo.setPhase streams rfl fun _ h' => by cases h'⟩
    exact (congrArg (Written _ g.world.tree) (Task.tree_drop g.world task)).mpr (.refl _ _)
  | @join i node outcome member =>
    refine ⟨?_, StreamTo.setPhase streams rfl fun _ h' => by cases h'⟩
    obtain ⟨log, hlog⟩ := work.noteAll_eq spans g.world
      (Report.warning (work.fanOut spans).name node outcome)
    exact (congrArg (Written _ g.world.tree) (congrArg World.tree hlog)).mpr (.refl _ _)

/-- **A fan-out changes at most the files that its tasks may open.** -/
theorem Work.written_of_run {spans : List Span} {names : List String}
    {events : List (Event Happening)} {f : FanOut World Task}
    (h : (FanOut.start (work.fanOut spans) names w).run (work.fanOut spans) events = some f)
    (opens : ∀ node ∈ names, ∀ tree, Written places w.tree tree →
      (work.job node).OpensIn places tree) : Written places w.tree f.world.tree := by
  refine (FanOut.run_induction h (P := fun _ g => Written places w.tree g.world.tree ∧
    StreamTo names (fun _ => places) g) ⟨?_, streamTo_start w⟩ ?_).1
  · rw [Work.world_start]
    exact .refl _ _
  · rintro before e after g g' - - ⟨written, streams⟩ hap
    obtain ⟨grown, streams'⟩ := Work.written_of_happens hap streams
      fun node listed => opens node listed _ written
    exact ⟨written.trans (grown.mono fun q ⟨_, _, _, _, hq⟩ => hq), streams'⟩

/-! ### Growing files -/

/-- A step of an attempt shortens no file. -/
theorem Attempt.Goes.grows {stage : Attempt} {p : Progress Attempt UInt64}
    (h : Attempt.Goes m run job node w stage a w' p) : Grows w.tree w'.tree := by
  have still : ∀ {tree : Tree}, tree = w.tree → Grows w.tree tree := by
    rintro _ rfl
    exact .refl _
  cases h with
  | dials step => exact still step.tree
  | undialed step => exact still step.tree
  | calls step => exact still (by simp [step.tree])
  | refused => exact still (by simp)
  | acknowledged _ => exact still (by simp [Attempt.succeed])
  | unopened _ _ => exact still (by simp)
  | opened _ start => exact Transfer.grows_of_start start
  | takes taken => exact Transfer.grows_of_chunk taken
  | chokes refused =>
    rw [World.tree_release]
    exact Transfer.grows_of_chunk refused
  | broken => exact still (by simp)
  | unfinished _ => exact still (by simp)
  | finishes _ => exact still (by simp [Attempt.succeed])

/-- A step of a task shortens no file. -/
theorem Task.Goes.grows {x : Happening} {p : Progress Task UInt64}
    (h : Task.Goes work node w task x w' p) : Grows w.tree w'.tree := by
  cases h with
  | begins => rw [Task.tree_attempt]; exact .refl _
  | resumes => rw [Task.tree_attempt]; exact .refl _
  | continues step => exact step.grows
  | attempted step => rw [Task.tree_attempted]; exact step.grows
  | withdraws _ _ => rw [Task.tree_drop]; exact .refl _

/-- A task on its own shortens no file. -/
theorem Task.grows_of_runWith {events : List (Option Happening)} {result : Except Error UInt64}
    (h : Task.runWith work node events w task = some (result, w')) : Grows w.tree w'.tree := by
  induction events generalizing w task with
  | nil =>
    rw [runWith] at h
    split at h
    · cases h
      rw [Task.tree_drop]
      exact .refl _
    · cases h
  | cons event events ih =>
    cases event with
    | none => exact ih (w := w.cancel work.run) h
    | some x =>
      rw [runWith] at h
      split at h
      · cases h
      · next hstep => exact (Task.goes_of_step hstep).grows.trans (ih h)
      · next hstep =>
        split at h
        · cases h
          exact (Task.goes_of_step hstep).grows
        · cases h

/-- A fan-out shortens no file. -/
theorem Work.grows_of_run {spans : List Span} {names : List String}
    {events : List (Event Happening)} {f : FanOut World Task}
    (h : (FanOut.start (work.fanOut spans) names w).run (work.fanOut spans) events = some f) :
    Grows w.tree f.world.tree := by
  refine Work.world_of_run h (P := fun g => Grows w.tree g.tree) (.refl _) id ?_ fun _ ih => ih
  intro i node g task e g' s _ ih move
  cases move with
  | goes step => exact ih.trans step.grows
  | interrupted _ => rwa [Task.tree_drop]
  | breaks => rwa [Task.tree_drop]

end MonitorFleet
