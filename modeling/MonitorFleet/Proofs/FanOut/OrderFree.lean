import MonitorFleet.Proofs.FanOut.Outcomes
import MonitorFleet.Proofs.FanOut.Tracing
import MonitorFleet.Rehearsal.Timed

/-!
# Fan-outs do not depend on the order

The tasks of a fan-out end and are joined in any order, and the run may be cancelled at any moment.
What comes of it (`Accounted`) depends on the order only as far as a cancellation finds tasks that
still run: two fan-outs that are not cancelled and in which the operations end in the same way have
the same report, and write the same warnings up to their order.

## What is proved

* `perm_names_of_run`: the report of a fan-out that is over has each node exactly once.
* `report_eq_of_uncancelled`: the report of a fan-out that is not cancelled, by the ends alone.
* `accounted_of_run`: what comes of a fan-out, for every order and every cancellation.
* `endsAs_timed`, `uncancelled_timed`: for timed tasks, the events say how the tasks end.
-/

namespace MonitorFleet.FanOut

variable {ω τ ε : Type} {op : Operation ω τ ε} {names : List String} {events : List (Event ε)}
  {w : ω} {f : FanOut ω τ} {own : String → Ending}

/-- What a fan-out does itself, along a list of events; `none` if they cannot happen. -/
def trace (op : Operation ω τ ε) (names : List String) (w : ω) (events : List (Event ε)) :
    Option Trace :=
  ((start op.traced names (w, .empty)).run op.traced events).map fun g => g.world.2

/-- A task is made for each node once, and the failures are warned of, each once. -/
theorem trace_of_run (distinct : names.Nodup) (h : (start op names w).run op events = some f) :
    ∃ noted, trace op names w events = some ⟨names, noted⟩ ∧ noted.Perm (warnings op f.report) := by
  obtain ⟨g, hg, rfl⟩ := traced_of_run h
  refine ⟨g.world.2.noted, ?_, noted_of_run distinct hg⟩
  rw [trace, hg, Option.map_some, ← started_of_run hg]

/-- The report of a fan-out that is over has each node exactly once: as one that succeeded or as
one that failed. -/
theorem perm_names_of_run (distinct : names.Nodup)
    (h : (start op names w).run op events = some f) (isOver : f.isOver = true) :
    (f.report.succeeded.names ++ f.report.failures.names).Perm names := by
  have nodup : (f.report.succeeded.names ++ f.report.failures.names).Nodup :=
    (f.report.succeeded.nodup_names).append f.report.failures.nodup_names (apart_of_run h)
  refine (List.perm_ext_iff_of_nodup nodup distinct).2 fun node => ?_
  rw [List.mem_append, mem_report_iff distinct h isOver]

/-- The outcome of a node in the report of a fan-out that is over, and why it is that. -/
theorem outcome_of_run (distinct : names.Nodup) (h : (start op names w).run op events = some f)
    (isOver : f.isOver = true) (ends : EndsAs op own (start op names w) events) {node : String}
    (hmem : node ∈ names) :
    ∃ i, f.report.get? node = some (own node).outcome ∨
      f.report.get? node = some (.error .cancelled) ∧ .interrupt i ∈ events := by
  obtain ⟨i, hi⟩ := List.getElem?_of_mem hmem
  obtain ⟨s, hs, told⟩ := told_of_run distinct h ends hi
  obtain ⟨outcome, rfl, recorded⟩ := hs.recorded isOver
  refine ⟨i, ?_⟩
  rcases told with ⟨-, rfl⟩ | ⟨interrupted, rfl⟩
  · exact .inl recorded
  · exact .inr ⟨recorded, interrupted⟩

/-- Without a cancellation, every node is recorded with its own outcome. -/
theorem get?_of_uncancelled (distinct : names.Nodup)
    (h : (start op names w).run op events = some f) (isOver : f.isOver = true)
    (ends : EndsAs op own (start op names w) events)
    (uncancelled : Uncancelled op (start op names w) events) (node : String) :
    f.report.get? node = if node ∈ names then some (own node).outcome else none := by
  split
  · next hmem =>
    obtain ⟨i, recorded | ⟨-, interrupted⟩⟩ := outcome_of_run distinct h isOver ends hmem
    · exact recorded
    · exact absurd interrupted (uncancelled.not_interrupted h i)
  · next absent => exact get?_report_eq_none h absent

/-- **The report of a fan-out that is not cancelled depends on the ends alone.** -/
theorem report_eq_of_uncancelled {w' : ω} {events' : List (Event ε)} {f' : FanOut ω τ}
    (distinct : names.Nodup)
    (h : (start op names w).run op events = some f) (isOver : f.isOver = true)
    (ends : EndsAs op own (start op names w) events)
    (uncancelled : Uncancelled op (start op names w) events)
    (h' : (start op names w').run op events' = some f') (isOver' : f'.isOver = true)
    (ends' : EndsAs op own (start op names w') events')
    (uncancelled' : Uncancelled op (start op names w') events') : f'.report = f.report := by
  refine (apart_of_run h').eq_of_get? (apart_of_run h) ?_ fun node => ?_
  · rw [operation_of_run h, operation_of_run h']
  · rw [get?_of_uncancelled distinct h isOver ends uncancelled,
      get?_of_uncancelled distinct h' isOver' ends' uncancelled']

/-! ### What comes of a fan-out -/

/-- What comes of a fan-out that is over, if the operations end as it is laid down. -/
structure Accounted (op : Operation ω τ ε) (own : String → Ending) (names : List String) (w : ω)
    (events : List (Event ε)) (f : FanOut ω τ) : Prop where
  /-- The operation was started once for each node, and there is a warning for each failure. -/
  trace : ∃ noted, trace op names w events = some ⟨names, noted⟩ ∧
    noted.Perm (warnings op f.report)
  /-- Every task was joined, once. -/
  joined : ∀ i < names.length, events.countP (·.isJoin i) = 1
  /-- The report has each node exactly once. -/
  once : (f.report.succeeded.names ++ f.report.failures.names).Perm names
  /-- A node whose task ended before the cancellation has its own outcome. -/
  early : ∀ (before : List (Event ε)) (g : FanOut ω τ), before <+: events →
    (start op names w).run op before = some g → Uncancelled op (start op names w) before →
    ∀ (i : Nat) (node : String), names[i]? = some node →
      (∀ task, g.members[i]? ≠ some ⟨node, .running task⟩) →
        f.report.get? node = some (own node).outcome
  /-- Every node has its own outcome, or was cancelled. -/
  outcome : ∀ node ∈ names, f.report.get? node = some (own node).outcome ∨
    f.report.get? node = some (.error .cancelled)
  /-- Nodes are cancelled only by a cancellation, or because their operations say so. -/
  cancelled : ∀ node ∈ names, f.report.get? node = some (.error .cancelled) →
    own node = .returned (.error .cancelled) ∨ ∃ before g, before <+: events ∧
      (start op names w).run op before = some g ∧ op.isCancelled g.world = true

theorem Ending.eq_of_outcome {ending : Ending} (h : ending.outcome = .error .cancelled) :
    ending = .returned (.error .cancelled) := by
  cases ending with
  | returned result => rw [show result = .error .cancelled from h]
  | panicked reason => cases h

theorem accounted (distinct : names.Nodup) (h : (start op names w).run op events = some f)
    (isOver : f.isOver = true) (ends : EndsAs op own (start op names w) events) :
    Accounted op own names w events f where
  trace := trace_of_run distinct h
  joined i hi := countP_isJoin h isOver (List.getElem?_eq_getElem hi)
  once := perm_names_of_run distinct h isOver
  early before g hpre hrun uncancelled i node hi ended :=
    own_of_uncancelled distinct h isOver ends hpre hrun uncancelled hi ended
  outcome node hmem := by
    obtain ⟨i, recorded | ⟨recorded, -⟩⟩ := outcome_of_run distinct h isOver ends hmem
    · exact .inl recorded
    · exact .inr recorded
  cancelled node hmem recorded := by
    obtain ⟨i, own | ⟨-, interrupted⟩⟩ := outcome_of_run distinct h isOver ends hmem
    · exact .inl (Ending.eq_of_outcome (Option.some.inj (own.symm.trans recorded)))
    · exact .inr (interrupted_of_run h interrupted)

end FanOut

/-! ### Timed tasks -/

namespace Rehearsal

open FanOut

variable {name : String} {names : List String} {events : List (Event (Except Error Unit))}
  {w : TimedWorld}

/-- Timed tasks end as the events say. -/
theorem endsAs_timed {own : String → Ending}
    (returns : ∀ i result node, .advance i result ∈ events → names[i]? = some node →
      own node = .returned result)
    (panics : ∀ i reason node, .crash i reason ∈ events → names[i]? = some node →
      own node = .panicked reason) :
    EndsAs (timedOperation name) own (start (timedOperation name) names w) events where
  returns {before after i result g node task w' outcome} split hrun member step := by
    cases step
    refine returns i _ node (by simp [split]) ?_
    have hnode := getElem?_nodes member
    rwa [nodes_of_run hrun, nodes_start] at hnode
  panics {before after i reason g node task} split hrun member := by
    refine panics i reason node (by simp [split]) ?_
    have hnode := getElem?_nodes member
    rwa [nodes_of_run hrun, nodes_start] at hnode

theorem cancelled_spawnAll (w : TimedWorld) (names : List String) :
    (spawnAll (timedOperation name) w names).1.cancelled = w.cancelled := by
  induction names generalizing w with
  | nil => rfl
  | cons node names ih => exact ih _

theorem cancelled_noteAll (w : TimedWorld) (records : List Record) :
    (noteAll (timedOperation name) w records).cancelled = w.cancelled := by
  induction records generalizing w with
  | nil => rfl
  | cons record records ih => exact ih _

/-- Timed tasks are cancelled by nothing but a cancellation. -/
theorem uncancelled_timed (begins : w.cancelled = false) (never : .cancel ∉ events) :
    Uncancelled (timedOperation name) (start (timedOperation name) names w) events := by
  intro before g hpre hrun
  refine world_of_run hrun (P := fun w => w.cancelled = false) ?_ ?_ ?_ ?_
  · exact (cancelled_spawnAll w names).trans begins
  · intro i node w task e w' s _ hw move
    cases move with
    | waits step => cases step
    | finishes step => cases step; exact hw
    | interrupted _ => exact hw
    | breaks => exact hw
  · intro w records hw
    exact (cancelled_noteAll w records).trans hw
  · intro w hmem _
    exact absurd (hpre.mem hmem) never

/-- A node that succeeds, one that breaks down, and one that fails. -/
def mixedEnds : String → Ending
  | "a" => .returned (.ok ())
  | "b" => .panicked "out of memory"
  | _ => .returned (.error (.session "gone"))

/-- The three nodes end in turn, and each is joined at once. -/
def inTurn : List (Event (Except Error Unit)) :=
  [.advance 0 (.ok ()), .join 0, .crash 1 "out of memory", .join 1,
    .advance 2 (.error (.session "gone")), .join 2]

/-- The three nodes end backwards, and are joined only then, in yet another order. -/
def backwards : List (Event (Except Error Unit)) :=
  [.advance 2 (.error (.session "gone")), .crash 1 "out of memory", .advance 0 (.ok ()),
    .join 1, .join 0, .join 2]

theorem endsAs_mixed (sub : events ⊆ inTurn) :
    EndsAs (timedOperation name) mixedEnds (start (timedOperation name) ["a", "b", "c"] w)
      events := by
  refine endsAs_timed ?_ ?_
  · intro i result node hmem hi
    obtain ⟨rfl, rfl⟩ | ⟨rfl, rfl⟩ : i = 0 ∧ result = .ok () ∨
        i = 2 ∧ result = .error (.session "gone") := by simpa [inTurn] using sub hmem
    · cases hi; rfl
    · cases hi; rfl
  · intro i reason node hmem hi
    obtain ⟨rfl, rfl⟩ : i = 1 ∧ reason = "out of memory" := by simpa [inTurn] using sub hmem
    cases hi; rfl

/-- The three nodes under way. -/
def mixed : FanOut TimedWorld Unit := start (timedOperation "collection") ["a", "b", "c"] {}

end Rehearsal

end MonitorFleet
