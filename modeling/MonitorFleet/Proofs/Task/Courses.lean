import MonitorFleet.Proofs.Task.Scripted

/-!
# Fan-outs of tasks that go by scripts

The tasks of a fan-out that each go by a script make the attempts and come to the outcomes that
their scripts say, in whatever order they go on. They share the files: where the path of a task
leads, all that arrives there is added in the order of arrival, whether it comes from this task or
from another one.

## What is proved

* `Course.kept`: the members of a fan-out are on their courses, all along.
* `Course.ended_of_run`: what a fan-out that is over comes to.
-/

namespace MonitorFleet.Course

open FanOut (Event Standing)

variable {work : Work} {node : String} {courses : ∀ node, Course work node} {names : List String}
  {base : World} {events : List (Event Happening)}

/-! ### Files -/

theorem TakesIn.eq_or_filled {tree later : Tree} {place : Location} {x : Happening}
    (h : TakesIn tree later place x) :
    later = tree ∨ ∃ content, Tree.Filled tree later place content := by
  cases x with
  | answer a => exact Tree.Takes.eq_or_filled h
  | begun => exact .inl h
  | withdrawn => exact .inl h

/-- What a step of any member does to the content of a file is what arrives with it. -/
theorem TakesIn.content? {tree later : Tree} {place place' : Location} {x : Happening}
    {isFor : String → Bool} {before : List (Event Happening)} {old : Option ByteArray} {j : Nat}
    {node' : String} (h : TakesIn tree later place' x) (hj : names[j]? = some node')
    (agree : isFor node' = true ↔ place' = place)
    (held : tree.content? place = (arrivals names isFor before).content? old) :
    later.content? place =
      (arrivals names isFor (before ++ [.advance j x])).content? old := by
  rw [arrivals_concat]
  cases x with
  | answer a =>
    simp only [Arrivals.next, hj]
    by_cases hfor : isFor node' = true
    · obtain rfl := agree.1 hfor
      rw [if_pos hfor]
      exact Tree.Takes.content? h held node'
    · have hne : place ≠ place' := fun heq => hfor (agree.2 heq.symm)
      rw [if_neg hfor, ← held]
      rcases Tree.Takes.eq_or_filled h with same | ⟨content, filled⟩
      · rw [same]
      · rw [filled.content?, if_neg hne]
  | begun => rw [show later = tree from h]; exact held
  | withdrawn => rw [show later = tree from h]; exact held

/-! ### Members -/

/-- The nodes that stream to a location. -/
def streamsTo (courses : ∀ node, Course work node) (place : Location) (node : String) : Bool :=
  (courses node).place == place

/-- That a fan-out over nodes can begin: the nodes are different, the files can be written, the
run is not cancelled, and no attempt fails as if it were. -/
structure Ready (courses : ∀ node, Course work node) (names : List String) (w : World) : Prop where
  distinct : names.Nodup
  writable : ∀ node ∈ names, w.tree.place? (courses node).path = some (courses node).place
  live : w.isCancelled work.run = false
  honest : ∀ node ∈ names, ∀ k < (courses node).policy.limit,
    (courses node).error? k ≠ some .cancelled

/-- The scripts of all nodes. -/
def scripts (courses : ∀ node, Course work node) (node : String) : Nat → Conduct :=
  (courses node).script

/-- What is known of a member that is on its course, after it began so many attempts. -/
structure OnCourse (courses : ∀ node, Course work node) (names : List String) (base : World)
    (i : Nat) (node : String) (before : List (Event Happening)) (w : World) (s : Standing Task)
    (begun : Nat) : Prop where
  stands : (courses node).Stands (heard i before) begun s
  leads : w.tree.place? (courses node).path = some (courses node).place
  present : ∀ task, s = .running task → task.isReceiving = true →
    (w.tree.content? (courses node).place).isSome = true
  content : w.tree.content? (courses node).place =
    (arrivals names (streamsTo courses (courses node).place) before).content?
      (base.tree.content? (courses node).place)
  lookups : w.lookups node = base.lookups node + begun
  uncancelled : w.isCancelled work.run = false

/-- That a member is on its course. -/
def Known (courses : ∀ node, Course work node) (names : List String) (base : World) :
    FanOut.Knowledge World Task Happening :=
  fun i node before w s => ∃ begun, OnCourse courses names base i node before w s begun

/-- What a member is told next is in its script. -/
theorem hear_of_follows
    (follows : Follows work.monitors (scripts courses) names events)
    {before after : List (Event Happening)} {i : Nat} {node : String} {x : Happening}
    (split : events = before ++ .advance i x :: after) (hi : names[i]? = some node) :
    ∀ a, x = .answer a →
      ∃ n, heard i before ++ [a] <+: told work.monitors (courses node).script n := by
  rintro a rfl
  obtain ⟨n, hn⟩ := follows i node hi
  refine ⟨n, List.IsPrefix.trans ⟨heard i after, ?_⟩ hn⟩
  rw [split, heard, heard, heard, List.filterMap_append, List.filterMap_cons,
    Event.answerTo?_self, List.append_assoc]
  rfl

/-- The path of a member leads where it led, whatever a step takes for a file. -/
theorem TakesIn.leads {tree later : Tree} {place place' : Location} {path path' : String}
    {x : Happening} (h : TakesIn tree later place' x) (leads' : tree.place? path' = some place')
    (leads : tree.place? path = some place) : later.place? path = some place := by
  rcases h.eq_or_filled with same | ⟨content, filled⟩
  · rw [same]
    exact leads
  · exact filled.place? (Tree.isFileOrFree_of_place? leads') leads

/-- A move of a member on its course. -/
theorem OnCourse.goes {i : Nat} {before : List (Event Happening)} {w w' : World} {task : Task}
    {x : Happening} {p : Progress Task UInt64} {begun : Nat} (hi : names[i]? = some node)
    (h : OnCourse courses names base i node before w (.running task) begun)
    (step : Task.Goes work node w task x w' p)
    (honest : ∀ k < (courses node).policy.limit, (courses node).error? k ≠ some .cancelled)
    (hear : ∀ a, x = .answer a →
      ∃ n, heard i before ++ [a] <+: told work.monitors (courses node).script n) :
    TakesIn w.tree w'.tree (courses node).place x ∧
      ∃ begun', OnCourse courses names base i node (before ++ [.advance i x]) w' p.standing
        begun' := by
  obtain ⟨⟨more, stands, hlookups⟩, takes, present⟩ := h.stands.goes step h.leads
    (h.present task rfl) h.uncancelled honest hear
  refine ⟨takes, begun + more, ?_, takes.leads h.leads h.leads, ?_, ?_, ?_, ?_⟩
  · rw [heard_concat, Event.answerTo?_self]
    exact stands
  · intro task' hs hreceiving
    cases p with
    | waiting _ => cases hs; exact present task' rfl hreceiving
    | finished _ => cases hs
  · exact takes.content? hi (by simp [streamsTo]) h.content
  · rw [hlookups, h.lookups, Nat.add_assoc]
  · exact (step.isCancelled _).trans h.uncancelled

/-- A move of another member leaves a member on its course. -/
theorem OnCourse.beside {i j : Nat} {node' : String} {before : List (Event Happening)}
    {w w' : World} {s : Standing Task} {begun : Nat} {x : Happening}
    (h : OnCourse courses names base i node before w s begun) (hij : j ≠ i)
    (hj : names[j]? = some node')
    (leads : w.tree.place? (courses node').path = some (courses node').place)
    (takes : TakesIn w.tree w'.tree (courses node').place x)
    (hlookups : w'.lookups node = w.lookups node)
    (uncancelled : w'.isCancelled work.run = w.isCancelled work.run) :
    OnCourse courses names base i node (before ++ [.advance j x]) w' s begun := by
  have told : heard i (before ++ [.advance j x]) = heard i before := by
    rw [heard_concat, Event.answerTo?_of_ne hij]
    exact List.append_nil _
  refine ⟨told ▸ h.stands, takes.leads leads h.leads, ?_, ?_, hlookups.trans h.lookups,
    uncancelled.trans h.uncancelled⟩
  · intro task hs hreceiving
    rcases takes.eq_or_filled with same | ⟨content, filled⟩
    · rw [same]
      exact h.present task hs hreceiving
    · rw [filled.content?]
      split
      · rfl
      · exact h.present task hs hreceiving
  · exact takes.content? hj (by simp [streamsTo]) h.content

/-- The members of a fan-out are on their courses all along. -/
theorem kept {spans : List Span} {w₀ : World} (ready : Ready courses names w₀)
    (scripted : ByScript work.monitors (scripts courses) names events) :
    FanOut.Kept (work.fanOut spans) names events (Known courses names base) where
  own {i node before e after w task w' s} split hi known move := by
    obtain ⟨begun, onCourse⟩ := known
    cases Work.moves_of_moves move with
    | goes step =>
      exact (onCourse.goes hi step (ready.honest node (List.mem_of_getElem? hi))
        (hear_of_follows scripted.follows split hi)).2
    | interrupted cancelled =>
      rw [onCourse.uncancelled] at cancelled
      cases cancelled
    | @breaks reason => exact absurd ⟨i, reason, by rw [split]; simp⟩ scripted.uncrashed
  other {i node s j node' before e after w task w' s'} split hi hj hij hne known move known' := by
    obtain ⟨_, onCourse⟩ := known
    obtain ⟨begun, onCourse'⟩ := known'
    cases Work.moves_of_moves move with
    | goes step =>
      have takes := (onCourse.goes hj step (ready.honest node' (List.mem_of_getElem? hj))
        (hear_of_follows scripted.follows split hj)).1
      exact ⟨begun, onCourse'.beside hij hj onCourse.leads takes (step.lookups (Ne.symm hne))
        (step.isCancelled _)⟩
    | interrupted cancelled =>
      rw [onCourse.uncancelled] at cancelled
      cases cancelled
    | @breaks reason => exact absurd ⟨j, reason, by rw [split]; simp⟩ scripted.uncrashed
  join {i node s j before w records} hi known := by
    obtain ⟨begun, onCourse⟩ := known
    obtain ⟨log, hlog⟩ := work.noteAll_eq spans w records
    have told : heard i (before ++ [.join j]) = heard i before := by
      rw [heard_concat]
      exact List.append_nil _
    refine ⟨begun, ?_⟩
    rw [hlog]
    refine ⟨told ▸ onCourse.stands, onCourse.leads, onCourse.present, ?_, onCourse.lookups,
      onCourse.uncancelled⟩
    rw [arrivals_concat]
    exact onCourse.content
  cancel {i node s before after w} split hi known :=
    absurd (by rw [split]; simp) scripted.uncancelled

/-! ### At the end -/

theorem chunksOf_answers (c : Course work node) (k : Nat) :
    chunksOf ((c.script k).answers work.monitors) = c.received k :=
  (Conduct.streams_answers ..).parts

theorem chunksOf_told (c : Course work node) (n : Nat) :
    chunksOf (told work.monitors c.script n) = (List.range n).flatMap c.received := by
  induction n with
  | zero => rfl
  | succ n ih =>
    rw [told_succ, chunksOf_append, chunksOf_append, ih, chunksOf_answers, List.range_succ,
      List.flatMap_append, List.flatMap_singleton]
    exact List.append_nil _

theorem chunksOf_toldUpTo (c : Course work node) (k : Nat) :
    chunksOf (c.toldUpTo k) = (List.range (k + 1)).flatMap c.received := by
  rw [toldUpTo, chunksOf_append, chunksOf_told, chunksOf_answers, List.range_succ,
    List.flatMap_append, List.flatMap_singleton]

theorem any_told (c : Course work node) (n : Nat) :
    (told work.monitors c.script n).any Answer.isTaken = true ↔ ∃ k < n, c.isTaken k = true := by
  have quiet : Answer.elapsed.isTaken = false := rfl
  simp [told, List.any_flatMap, quiet, (Conduct.streams_answers _ _).any, isTaken]

theorem any_toldUpTo (c : Course work node) (k : Nat) :
    (c.toldUpTo k).any Answer.isTaken = true ↔ ∃ j < k + 1, c.isTaken j = true := by
  have told : (c.toldUpTo k ++ [Answer.elapsed]).any Answer.isTaken = true ↔
      ∃ j < k + 1, c.isTaken j = true := by
    rw [toldUpTo, ← told_succ]
    exact c.any_told (k + 1)
  simpa [Answer.isTaken] using told

theorem attempts_pos (c : Course work node) : 0 < c.attempts := by
  have : 1 ≤ c.policy.limit := Nat.le_max_left ..
  unfold attempts attemptsUpTo
  omega

/-- What a fan-out that is over comes to at a node. -/
structure Ended (courses : ∀ node, Course work node) (names : List String)
    (events : List (Event Happening)) (w w' : World) (report : Report) (i : Nat) (node : String) :
    Prop where
  outcome : report.get? node = some (courses node).outcome
  attempts : w'.lookups node = w.lookups node + (courses node).attempts
  leads : w'.tree.place? (courses node).path = some (courses node).place
  content : w'.tree.content? (courses node).place =
    (arrivals names (streamsTo courses (courses node).place) events).content?
      (w.tree.content? (courses node).place)
  chunks : chunksOf (heard i events) =
    (List.range (courses node).attempts).flatMap (courses node).received
  taken : (heard i events).any Answer.isTaken = true ↔
    ∃ k < (courses node).attempts, (courses node).isTaken k = true

/-- All members are on their courses when a fan-out begins. -/
theorem known_start {spans : List Span} {w : World} (ready : Ready courses names w) :
    ∀ i node, names[i]? = some node →
      ∃ s, FanOut.Stands (FanOut.start (work.fanOut spans) names w) i node s ∧
        Known courses names w i node [] (FanOut.start (work.fanOut spans) names w).world s := by
  intro i node hi
  refine ⟨_, work.stands_start spans w hi, 0, .idle, ?_, ?_, ?_, ?_, ?_⟩ <;> rw [Work.world_start]
  · exact ready.writable node (List.mem_of_getElem? hi)
  · rintro _ ⟨⟩ hreceiving
    cases hreceiving
  · rfl
  · rfl
  · exact ready.live

/-- **Every node comes to the end of its course** in a fan-out that is over. -/
theorem ended_of_run {spans : List Span} {f : FanOut World Task} {w : World}
    (ready : Ready courses names w)
    (scripted : ByScript work.monitors (scripts courses) names events)
    (h : (FanOut.start (work.fanOut spans) names w).run (work.fanOut spans) events = some f)
    (isOver : f.isOver = true) {i : Nat} (hi : names[i]? = some node) :
    Ended courses names events w f.world f.report i node := by
  obtain ⟨outcome, ho, begun, onCourse⟩ := FanOut.recorded_of_run (kept ready scripted)
    ready.distinct h isOver (known_start ready) hi
  obtain ⟨hbegun, hgiven, houtcome⟩ := onCourse.stands.of_over
  have hattempts := Nat.sub_add_cancel (courses node).attempts_pos
  refine ⟨houtcome ▸ ho, hbegun ▸ onCourse.lookups, onCourse.leads, onCourse.content, ?_, ?_⟩
  · rw [hgiven, chunksOf_toldUpTo, hattempts]
  · rw [hgiven, any_toldUpTo, hattempts]

end MonitorFleet.Course
