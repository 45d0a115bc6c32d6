import MonitorFleet.Proofs.FanOut.Reports
import MonitorFleet.Proofs.Task.Frames

/-!
# Tasks with a single attempt

Without a policy a task has one attempt, in which it calls the monitor of its node once at most.
Whether it did can be told from where the task stands (`Task.calls`), and what the monitor answered
from how it ended. `Contact` puts this together for one member of a fan-out.

What the monitors answer is left open: `Answers` says that the answers of a fan-out are those that
the monitors may give.

## What is proved

* `Contact.kept`: the contact of a member is known all along a fan-out.
* `contact_of_run`: once the fan-out is over, every node has an outcome that tells of the contact.
* `nodup_of_run`: no monitor is called twice.
* `lookups_le_of_run`: no monitor is looked for twice.
-/

namespace MonitorFleet

open FanOut (Event Standing)

/-- The answers to the calls of a fan-out are those that the monitors may give: `answers` has,
for each node, the answers that its monitor may give. -/
def Answers (answers : String → Except Status Unit → Prop) (names : List String)
    (events : List (Event Happening)) : Prop :=
  ∀ i node result, names[i]? = some node → Event.advance i (.answer (.reply result)) ∈ events →
    answers node result

/-- How often a task called in its attempt. -/
def Task.calls : Task → Nat
  | attempting _ stage => if stage.hasCalled then 1 else 0
  | _ => 0

/-- What the contact with a monitor came to, after so many calls to it. -/
inductive Contact (answers : String → Except Status Unit → Prop) (work : Work) (node : String)
    (before : List (Event Happening)) (w : World) (calls : Nat) : Standing Task → Prop where
  /-- The task runs. A stream follows an answer. -/
  | running {task : Task} (counted : calls = task.calls)
      (streams : task.isReceiving = true →
        answers node (.ok ()) ∧ (work.job node).path?.isSome = true) :
      Contact answers work node before w calls (.running task)
  /-- The monitor was called and took the call. -/
  | taken (once : calls = 1) (answered : answers node (.ok ())) :
      Contact answers work node before w calls (.over (.ok ()))
  /-- The monitor was not called. -/
  | uncalled {error : Error} (never : calls = 0) :
      Contact answers work node before w calls (.over (.error error))
  /-- The monitor was called, and refused. -/
  | refused {error : Error} {status : Status} (once : calls = 1)
      (answered : answers node (.error status)) :
      Contact answers work node before w calls (.over (.error error))
  /-- The monitor was called, but what it streamed did not arrive. -/
  | lost {error : Error} (once : calls = 1) (streams : (work.job node).path?.isSome = true) :
      Contact answers work node before w calls (.over (.error error))
  /-- The monitor was called, but its answer was not awaited. -/
  | unheard {error : Error} (once : calls = 1)
      (disturbed : w.isCancelled work.run = true ∨ Crashed before) :
      Contact answers work node before w calls (.over (.error error))

variable {answers : String → Except Status Unit → Prop} {work : Work} {node : String}
  {before : List (Event Happening)} {w w' : World} {calls : Nat} {s : Standing Task}

theorem Crashed.mono {later : List (Event Happening)} (h : Crashed before) :
    Crashed (before ++ later) := by
  obtain ⟨i, reason, hmem⟩ := h
  exact ⟨i, reason, List.mem_append_left _ hmem⟩

/-- What goes on around a member does not change its contact. -/
theorem Contact.mono {later : List (Event Happening)}
    (h : Contact answers work node before w calls s)
    (lasts : w.isCancelled work.run = true → w'.isCancelled work.run = true) :
    Contact answers work node (before ++ later) w' calls s := by
  cases h with
  | running counted streams => exact .running counted streams
  | taken once answered => exact .taken once answered
  | uncalled never => exact .uncalled never
  | refused once answered => exact .refused once answered
  | lost once streams => exact .lost once streams
  | unheard once disturbed => exact .unheard once (disturbed.imp lasts Crashed.mono)

theorem Contact.of_running {task : Task}
    (h : Contact answers work node before w calls (.running task)) :
    calls = task.calls ∧ (task.isReceiving = true →
      answers node (.ok ()) ∧ (work.job node).path?.isSome = true) := by
  cases h with
  | running counted streams => exact ⟨counted, streams⟩

/-- A task that is given up was not called yet, or its answer is not awaited. -/
theorem Contact.givenUp {task : Task} {error : Error}
    (h : Contact answers work node before w calls (.running task))
    {later : List (Event Happening)}
    (disturbed : w'.isCancelled work.run = true ∨ Crashed later) :
    Contact answers work node later w' calls (.over (.error error)) := by
  cases h with
  | running counted _ =>
    rcases Nat.lt_or_ge 0 calls with h | h
    · refine .unheard ?_ disturbed
      unfold Task.calls at counted
      split at counted
      · split at counted <;> omega
      · omega
    · exact .uncalled (by omega)

theorem Contact.calls_le_one {outcome : Except Error Unit}
    (h : Contact answers work node before w calls (.over outcome)) : calls ≤ 1 := by
  cases h <;> omega

/-! ### Steps -/

/-- The contact after a step of an attempt that goes on. -/
theorem Contact.continues {n : UInt32} {stage stage' : Attempt} {a : Answer}
    (h : Contact answers work node before w calls (.running (.attempting n stage)))
    (step : Attempt.Goes work.monitors work.run (work.job node) node w stage a w'
      (.waiting stage'))
    (answered : ∀ result, a = .reply result → answers node result) :
    ∃ more, w'.called = w.called ++ more ∧
      Contact answers work node before w' (calls + more.count (node, (work.job node).call))
        (.running (.attempting n stage')) := by
  obtain ⟨counted, streamed⟩ := h.of_running
  cases step with
  | dials step => exact ⟨[], by simp [step.called], .running counted nofun⟩
  | calls step =>
    refine ⟨[(node, (work.job node).call)], by simp [step.called], .running ?_ nofun⟩
    simp [counted, Task.calls, Attempt.hasCalled]
  | opened streams _ =>
    exact ⟨[], by simp, .running counted fun _ =>
      ⟨answered _ rfl, Option.isSome_iff_exists.2 ⟨_, streams⟩⟩⟩
  | takes _ => exact ⟨[], by simp, .running counted streamed⟩

/-- The contact once the attempt is over. -/
theorem Contact.attempted {n : UInt32} {stage : Attempt} {a : Answer}
    {result : Except Error UInt64}
    (h : Contact answers work node before w calls (.running (.attempting n stage)))
    (step : Attempt.Goes work.monitors work.run (work.job node) node w stage a w'
      (.finished result))
    (answered : ∀ result, a = .reply result → answers node result) :
    Contact answers work node before w' calls (.over (result.map fun _ => ())) := by
  obtain ⟨counted, streamed⟩ := h.of_running
  cases step with
  | undialed _ => exact .uncalled counted
  | refused => exact .refused counted (answered _ rfl)
  | acknowledged _ => exact .taken counted (answered _ rfl)
  | unopened streams _ => exact .lost counted (Option.isSome_iff_exists.2 ⟨_, streams⟩)
  | chokes _ => exact .lost counted (streamed rfl).2
  | broken => exact .lost counted (streamed rfl).2
  | unfinished _ => exact .lost counted (streamed rfl).2
  | finishes _ => exact .taken counted (streamed rfl).1

/-- The contact after a step of the task. -/
theorem Contact.goes {task : Task} {x : Happening} {p : Progress Task UInt64}
    (single : work.policy = none) (h : Contact answers work node before w calls (.running task))
    (step : Task.Goes work node w task x w' p)
    (answered : ∀ result, x = .answer (.reply result) → answers node result) :
    ∃ more, w'.called = w.called ++ more ∧
      Contact answers work node before w' (calls + more.count (node, (work.job node).call))
        p.standing := by
  obtain ⟨counted, -⟩ := h.of_running
  cases step with
  | begins => exact ⟨[], by simp, .running counted nofun⟩
  | resumes => exact ⟨[], by simp, .running counted nofun⟩
  | continues step => exact h.continues step fun result ha => answered result (ha ▸ rfl)
  | attempted step =>
    rw [Task.attempted_of_none single]
    exact ⟨[], by simp [step.called_of_finished],
      h.attempted step fun result ha => answered result (ha ▸ rfl)⟩
  | withdraws heeds cancelled =>
    exact ⟨[], by simp, h.givenUp (.inl ((Task.isCancelled_drop ..).trans cancelled))⟩

/-! ### Along a fan-out -/

/-- The contact with the monitor of a member, over the calls made since a world. -/
def Contacted (answers : String → Except Status Unit → Prop) (work : Work) (base : World) :
    FanOut.Knowledge World Task Happening :=
  fun _ node before w s => ∃ made, w.called = base.called ++ made ∧
    Contact answers work node before w (made.count (node, (work.job node).call)) s

theorem count_of_ne {node' : String} (h : node' ≠ node)
    (called : w'.called = w.called ∨ w'.called = w.called ++ [(node', (work.job node').call)]) :
    ∃ others, w'.called = w.called ++ others ∧
      others.count (node, (work.job node).call) = 0 := by
  rcases called with called | called
  · exact ⟨[], by simp [called], rfl⟩
  · exact ⟨_, called, by simp [h]⟩

/-- The contact of a member is known all along a fan-out. -/
theorem Contact.kept {names : List String} {events : List (Event Happening)} {spans : List Span}
    (base : World) (single : work.policy = none) (answered : Answers answers names events) :
    FanOut.Kept (work.fanOut spans) names events (Contacted answers work base) where
  own {i node before e after w task w' s} split hi known move := by
    obtain ⟨made, hmade, contact⟩ := known
    cases Work.moves_of_moves move with
    | @goes x _ _ step =>
      have hear : ∀ result, x = .answer (.reply result) → answers node result := by
        rintro result rfl
        exact answered i node result hi (by rw [split]; simp)
      obtain ⟨more, hmore, contact⟩ := contact.goes single step hear
      refine ⟨made ++ more, by rw [hmore, hmade, List.append_assoc], ?_⟩
      rw [List.count_append]
      exact contact.mono id
    | interrupted cancelled =>
      exact ⟨made, by simp [hmade],
        contact.givenUp (.inl ((Task.isCancelled_drop ..).trans cancelled))⟩
    | breaks => exact ⟨made, by simp [hmade], contact.givenUp (.inr ⟨i, _, List.mem_concat_self⟩)⟩
  other {i node s j node' before e after w task w' s'} split hi hj hij hne _ move known := by
    obtain ⟨made, hmade, contact⟩ := known
    have move := Work.moves_of_moves move
    obtain ⟨others, hothers, none⟩ := count_of_ne hne move.called
    refine ⟨made ++ others, by rw [hothers, hmade, List.append_assoc], ?_⟩
    rw [List.count_append, none]
    exact contact.mono fun h => (move.isCancelled _).trans h
  join {i node s j before w records} hi known := by
    obtain ⟨made, hmade, contact⟩ := known
    obtain ⟨log, hlog⟩ := work.noteAll_eq spans w records
    rw [hlog]
    exact ⟨made, hmade, contact.mono id⟩
  cancel {i node s before after w} split hi known := by
    obtain ⟨made, hmade, contact⟩ := known
    exact ⟨made, hmade, contact.mono fun h => Tokens.isCancelled_cancel h _⟩

/-- **Every node of a fan-out that is over has an outcome**, which tells of the contact with its
monitor. -/
theorem contact_of_run {names : List String} {events : List (Event Happening)} {spans : List Span}
    {f : FanOut World Task} (single : work.policy = none) (distinct : names.Nodup)
    (answered : Answers answers names events)
    (h : (FanOut.start (work.fanOut spans) names w).run (work.fanOut spans) events = some f)
    (isOver : f.isOver = true) (hmem : node ∈ names) :
    ∃ outcome made, f.report.get? node = some outcome ∧ f.world.called = w.called ++ made ∧
      Contact answers work node events f.world (made.count (node, (work.job node).call))
        (.over outcome) := by
  obtain ⟨i, hi⟩ := List.getElem?_of_mem hmem
  obtain ⟨outcome, ho, made, hmade, contact⟩ :=
    FanOut.recorded_of_run (Contact.kept w single answered) distinct h isOver
      (fun i node hi => ⟨_, work.stands_start spans w hi, [], by simp, .running rfl nofun⟩) hi
  exact ⟨outcome, made, ho, hmade, contact⟩

/-- No monitor is called twice in a fan-out that is over. -/
theorem nodup_of_run {names : List String} {events : List (Event Happening)} {spans : List Span}
    {f : FanOut World Task} {made : List (String × Call)} (single : work.policy = none)
    (distinct : names.Nodup)
    (h : (FanOut.start (work.fanOut spans) names w).run (work.fanOut spans) events = some f)
    (isOver : f.isOver = true) (called : f.world.called = w.called ++ made) : made.Nodup := by
  obtain ⟨made', hmade', hall⟩ := Work.called_of_run h
  obtain rfl : made' = made := List.append_cancel_left (hmade'.symm.trans called)
  refine List.nodup_iff_count.2 fun x => ?_
  by_cases hx : x ∈ made'
  · obtain ⟨hnode, hcall⟩ := hall x hx
    have heard : Answers (fun _ _ => True) names events := fun _ _ _ _ _ => trivial
    obtain ⟨outcome, made, -, hmade, contact⟩ := contact_of_run single distinct heard h isOver hnode
    obtain rfl : made = made' := List.append_cancel_left (hmade.symm.trans called)
    rw [← hcall] at contact
    exact contact.calls_le_one
  · rw [List.count_eq_zero_of_not_mem hx]
    exact Nat.zero_le 1

/-! ### Lookups -/

/-- How often the monitor of a member was looked for since a world: when its task begins, and never
again. -/
def SoughtOnce (base : World) : FanOut.Knowledge World Task Happening
  | _, node, _, w, .running .idle => w.lookups node = base.lookups node
  | _, node, _, w, .running (.attempting _ _) => w.lookups node = base.lookups node + 1
  | _, _, _, _, .running (.pausing _) => False
  | _, node, _, w, .over _ => w.lookups node ≤ base.lookups node + 1

/-- What is known of the lookups depends on how many there are. -/
theorem SoughtOnce.congr {base : World} {i : Nat} {s : FanOut.Standing Task}
    (h : SoughtOnce base i node before w s) (later : List (Event Happening))
    (same : w'.lookups node = w.lookups node) : SoughtOnce base i node later w' s := by
  obtain task | _ := s
  · cases task with
    | idle => exact same.trans h
    | attempting _ _ => exact same.trans h
    | pausing _ => exact h
  · exact (Nat.le_of_eq same).trans h

/-- A task that is given up was looked for once at most. -/
theorem SoughtOnce.le {base : World} {i : Nat} {task : Task}
    (h : SoughtOnce base i node before w (.running task)) :
    w.lookups node ≤ base.lookups node + 1 := by
  cases task with
  | idle => exact Nat.le_succ_of_le (Nat.le_of_eq h)
  | attempting _ _ => exact Nat.le_of_eq h
  | pausing _ => cases h

theorem Task.attempt_eq (work : Work) (node : String) (n : UInt32) (w : World) :
    ∃ w' stage, Task.attempt work node n w = (w', .attempting n stage) := by
  unfold Task.attempt
  exact ⟨_, _, rfl⟩

theorem SoughtOnce.goes {base : World} {i : Nat} {task : Task} {x : Happening}
    {p : Progress Task UInt64} {later : List (Event Happening)} (single : work.policy = none)
    (h : SoughtOnce base i node before w (.running task))
    (step : Task.Goes work node w task x w' p) :
    SoughtOnce base i node later w' p.standing := by
  cases step with
  | begins =>
    obtain ⟨w', stage, heq⟩ := Task.attempt_eq work node 1 w
    have more := Task.lookups_attempt work node node 1 w
    have none : w.lookups node = base.lookups node := h
    rw [heq, if_pos rfl, none] at more
    rw [heq]
    exact more
  | resumes => cases h
  | continues step => exact h.congr later (step.lookups node)
  | attempted step =>
    rw [Task.attempted_of_none single]
    exact (Nat.le_of_eq (step.lookups node)).trans h.le
  | withdraws _ _ => exact (Nat.le_of_eq (by simp [World.lookups])).trans h.le

theorem SoughtOnce.kept {names : List String} {events : List (Event Happening)} {spans : List Span}
    (base : World) (single : work.policy = none) :
    FanOut.Kept (work.fanOut spans) names events (SoughtOnce base) where
  own _ _ known move := by
    cases Work.moves_of_moves move with
    | goes step => exact known.goes single step
    | interrupted _ => exact (Nat.le_of_eq (by simp [World.lookups])).trans known.le
    | breaks => exact (Nat.le_of_eq (by simp [World.lookups])).trans known.le
  other _ _ _ _ hne _ move known :=
    known.congr _ ((Work.moves_of_moves move).lookups (Ne.symm hne))
  join {i node s j before w records} _ known := by
    obtain ⟨log, hlog⟩ := work.noteAll_eq spans w records
    rw [hlog]
    exact known.congr _ rfl
  cancel _ _ known := known.congr _ rfl

/-- No monitor is looked for twice in a fan-out that is over. -/
theorem lookups_le_of_run {names : List String} {events : List (Event Happening)}
    {spans : List Span} {f : FanOut World Task} (single : work.policy = none)
    (distinct : names.Nodup)
    (h : (FanOut.start (work.fanOut spans) names w).run (work.fanOut spans) events = some f)
    (isOver : f.isOver = true) (node : String) : f.world.lookups node ≤ w.lookups node + 1 := by
  by_cases hmem : node ∈ names
  · obtain ⟨i, hi⟩ := List.getElem?_of_mem hmem
    obtain ⟨_, -, sought⟩ := FanOut.recorded_of_run (SoughtOnce.kept w single) distinct h isOver
      (fun i node hi => ⟨_, work.stands_start spans w hi, by rw [Work.world_start]; rfl⟩) hi
    exact sought
  · exact Nat.le_succ_of_le (Nat.le_of_eq (Work.lookups_of_run h hmem))

end MonitorFleet
