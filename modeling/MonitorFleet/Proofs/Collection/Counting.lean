import MonitorFleet.Proofs.Collection.Archives
import MonitorFleet.Proofs.Task.Tallies

/-!
# The counters account for what happened

After a retrieval of system information, or after a collection was started and ended, the counters
have grown by what happened, whatever the cluster and the monitors answer, whatever the policy is and
in whatever order the tasks go on. What happened can be seen in three ways that agree: by the events,
by the questions that the cluster was asked, and by the calls that were made.

## What is proved

* `Work.tallied_of_run`: a fan-out that is over is tallied, by the counters, by the questions and by
  the calls.
* `SystemInfo.tallied_of_run`, `Collector.tallied_of_start`: so are a retrieval and the start of a
  collection.
* `counted_of_operations`: so are the retrieval and the two phases of a collection, and the starts
  that were counted as taken are those of the participants.
-/

namespace MonitorFleet

open FanOut (Event happened observed)

/-- **That a fan-out of some work is tallied** between two worlds. All its calls have one name. -/
structure Work.Tallied (work : Work) (call : String) (spans : List Span) (f₀ : FanOut World Task)
    (events : List (Event Happening)) (w w' : World) : Prop where
  /-- Each counter grew by what happened of its kind, and no other did. -/
  counters : ∀ c, w'.counters.value c = w.counters.value c + work.tally call spans f₀ events c
  /-- Each attempt looked for a monitor, once. -/
  attempts : w'.searches = w.searches + happened Happening.begins events
  /-- Each monitor that was reached was called, once. -/
  calls : ∃ made, w'.called = w.called ++ made ∧ made.length = happened Happening.reaches events ∧
    ∀ x ∈ made, x.2.name = call
  /-- Each call was taken or refused, or its task was given up before. -/
  answered : happened Happening.reaches events =
    happened (Happening.replies true) events + happened (Happening.replies false) events +
      (observed (work.fanOut spans) FanOut.unanswered f₀ events).length
  /-- Unless the run was cancelled, it was given up because it broke down. -/
  lost : w.isCancelled work.run = false → .cancel ∉ events →
    ∀ i ∈ observed (work.fanOut spans) FanOut.unanswered f₀ events,
      ∃ reason, .crash i reason ∈ events
  /-- If neither was the run cancelled nor did a task break down, each call was taken or refused. -/
  heard : w.isCancelled work.run = false → .cancel ∉ events → ¬Crashed events →
    happened Happening.reaches events =
      happened (Happening.replies true) events + happened (Happening.replies false) events

section

variable {work : Work} {call : String} {spans : List Span} {names : List String}
  {events : List (Event Happening)} {w w' : World} {f : FanOut World Task}

/-- A fan-out that is over is tallied from the world it was started in. -/
theorem Work.tallied_of_run (named : ∀ node, (work.job node).call.name = call)
    (h : (FanOut.start (work.fanOut spans) names w).run (work.fanOut spans) events = some f)
    (isOver : f.isOver = true) :
    work.Tallied call spans (FanOut.start (work.fanOut spans) names w) events w f.world := by
  have answered := Work.answered_of_run h (Work.running_start rfl)
  rw [FanOut.running_of_isOver Task.isCalling isOver, Nat.add_zero] at answered
  have lost := fun live undisturbed i => Work.crashed_of_unanswered (i := i) h live undisturbed
  refine ⟨fun c => ?_, ?_, ?_, answered, lost, fun live undisturbed steady => ?_⟩
  · rw [Work.counted_of_run named h, Work.world_start]
  · rw [Work.searches_of_run h, Work.world_start]
  · obtain ⟨made, hmade, all⟩ := Work.called_of_run h
    have dialed := Work.dialed_of_run h
    rw [Work.world_start, hmade, List.length_append] at dialed
    refine ⟨made, hmade, Nat.add_left_cancel dialed, fun x hx => ?_⟩
    rw [(all x hx).2, named]
  · have none : observed (work.fanOut spans) FanOut.unanswered
        (FanOut.start (work.fanOut spans) names w) events = [] := by
      refine List.eq_nil_iff_forall_not_mem.2 fun i hi => ?_
      obtain ⟨reason, crash⟩ := lost live undisturbed i hi
      exact steady ⟨i, reason, crash⟩
    rw [answered, none, List.length_nil, Nat.add_zero]

/-- What is tallied from a world on is so from one that differs in nothing that counts. -/
theorem Work.Tallied.from {f₀ : FanOut World Task}
    (h : work.Tallied call spans f₀ events w w') (u : World) (counters : w.counters = u.counters)
    (searches : w.searches = u.searches) (called : w.called = u.called)
    (tokens : w.tokens = u.tokens) : work.Tallied call spans f₀ events u w' where
  counters := counters ▸ h.counters
  attempts := searches ▸ h.attempts
  calls := called ▸ h.calls
  answered := h.answered
  lost live := h.lost ((congrArg (·.isCancelled work.run) tokens).trans live)
  heard live := h.heard ((congrArg (·.isCancelled work.run) tokens).trans live)

theorem Work.Tallied.note {f₀ : FanOut World Task}
    (h : work.Tallied call spans f₀ events w w') (r : Record) :
    work.Tallied call spans f₀ events w (w'.note r) :=
  ⟨h.counters, h.attempts, h.calls, h.answered, h.lost, h.heard⟩

/-! ### Whole operations -/

/-- A retrieval of system information is tallied. -/
theorem SystemInfo.tallied_of_run {i : SystemInfo} {token : RunToken} {nodes : List NodeAddress}
    (h : (i.launch token nodes (SystemInfo.prepare w)).run (i.operation token) events = some f)
    (isOver : f.isOver = true) :
    (i.work token).Tallied "GetSysInfo" [SystemInfo.span]
      (i.launch token nodes (SystemInfo.prepare w)) events w (SystemInfo.finished f).2 := by
  obtain ⟨log, hlog⟩ := World.foldl_note (SystemInfo.listing nodes) (SystemInfo.prepare w)
  have launched : i.launch token nodes (SystemInfo.prepare w) =
      FanOut.start (i.operation token) (nodes.map (·.name))
        { SystemInfo.prepare w with log } := by rw [SystemInfo.launch, hlog]
  rw [launched] at h ⊢
  have tallied := Work.tallied_of_run (fun _ => rfl) h isOver
  refine (tallied.from w rfl ?_ rfl rfl).note _
  simp [World.searches, SystemInfo.prepare, Query.isSearch]

namespace Collector

variable {c : Collector} {run dir : String} {token : RunToken} {nodes : NameSet} {w₀ : World}

theorem counters_prepare (c : Collector) (run : String) (w : World) :
    (c.prepare run w).2.counters = w.counters := by
  unfold prepare
  split <;> rfl

/-- The start of a collection is tallied. -/
theorem tallied_of_start (prepared : c.prepare run w = (.ok dir, w₀))
    (h : (c.launch run token nodes w₀).run (c.startOperation run token) events = some f)
    (isOver : f.isOver = true) :
    (c.startWork run token).Tallied "StartCollection" [startSpan run] (c.launch run token nodes w₀)
      events w (started run dir f).2 := by
  obtain ⟨tokens, called, asked⟩ := prepare_ok prepared
  have counters : w₀.counters = w.counters := by
    rw [← c.counters_prepare run w, prepared]
  have tallied := Work.tallied_of_run (fun _ => rfl) h isOver
  refine (tallied.from w counters ?_ called tokens).note _
  simp [World.searches, asked, Query.isSearch]

/-- Each start that was taken has its participant. -/
theorem taken_of_start (h : (c.launch run token nodes w₀).run (c.startOperation run token) events =
    some f) (isOver : f.isOver = true) :
    happened (Happening.replies true) events = f.report.succeeded.size := by
  have taken := Work.taken_of_run rfl (fun _ => rfl) nodes.nodup_names h
  rwa [FanOut.successes_of_isOver isOver] at taken

end Collector

end

/-- **The counters account for what happened** in a retrieval of system information, and in a
collection that is started and ended. -/
theorem counted_of_operations :
    (∀ {i : SystemInfo} {token : RunToken} {nodes : List NodeAddress}
        {events : List (Event Happening)} {w : World} {f : FanOut World Task},
      (i.launch token nodes (SystemInfo.prepare w)).run (i.operation token) events = some f →
      f.isOver = true →
        (i.work token).Tallied "GetSysInfo" [SystemInfo.span]
          (i.launch token nodes (SystemInfo.prepare w)) events w (SystemInfo.finished f).2) ∧
    ∀ {c : Collector} {run : String} {token : RunToken} {answer : Except Error NameSet}
        {events : List (Event Happening)} {w w₁ : World} {r : CollectionRun},
      c.startWith run token answer events w = some (.ok r, w₁) →
        (∃ dir nodes w₀, c.prepare run w = (.ok dir, w₀) ∧ answer = .ok nodes ∧
          (c.startWork run token).Tallied "StartCollection" [Collector.startSpan run]
            (c.launch run token nodes w₀) events w w₁) ∧
        w₁.counters.value (.monitorCalls "StartCollection" true) =
          w.counters.value (.monitorCalls "StartCollection" true) + .ofNat r.participants.size ∧
        ∀ {token' : RunToken} {events' : List (Event Happening)} {w₂ w₃ : World} {report : Report},
          c.endWith r token' events' w₂ = some (report, w₃) →
            (c.endWork r token').Tallied "GetCollectionResults" [Collector.endSpan r.id]
              (c.collect r token' w₂) events' w₂ w₃ := by
  refine ⟨SystemInfo.tallied_of_run, ?_⟩
  intro c run token answer events w w₁ r started
  obtain ⟨dir, nodes, w₀, f, prepared, rfl, hf, isOver, heq⟩ := Collector.startWith_ok started
  cases heq
  have tallied := Collector.tallied_of_start prepared hf isOver
  refine ⟨⟨dir, nodes, w₀, prepared, rfl, tallied⟩, ?_, ?_⟩
  · have grown := tallied.counters (.monitorCalls "StartCollection" true)
    rw [Work.tally, if_pos rfl, Collector.taken_of_start hf isOver] at grown
    exact grown
  · intro token' events' w₂ w₃ report ended
    obtain ⟨f', hf', isOver', heq⟩ := Collector.endWith_some ended
    cases heq
    exact (Work.tallied_of_run (fun _ => rfl) hf' isOver').note _

/-! ### A retrieval and a collection -/

/-- Both attempts fail at each of two nodes: the monitor of the first one refuses the call and has no
address then, that of the second one is not reached at first and refuses the call. -/
def refusals : List (Event Happening) :=
  [.advance 0 .begun, .advance 1 .begun, .advance 0 (.answer (.address (.ok "h"))),
    .advance 0 (.answer (.connected true)), .advance 1 (.answer (.address (.ok "h"))),
    .advance 1 (.answer (.connected false)),
    .advance 0 (.answer (.reply (.error ⟨.unavailable, "busy"⟩))), .advance 1 (.answer .elapsed),
    .advance 0 (.answer .elapsed), .advance 0 (.answer (.address (.error (.cluster "gone")))),
    .join 0, .advance 1 (.answer (.address (.ok "h"))), .advance 1 (.answer (.connected true)),
    .advance 1 (.answer (.reply (.error ⟨.unavailable, "busy"⟩))), .join 1]

open Collector in
/-- Four attempts of a retrieval came to two calls, which were refused; of a collection, one node was
started, and streamed its results. -/
theorem counted_of_refusals :
    (∃ f, (SystemInfo.sample.launch 0 SystemInfo.sampleNodes (SystemInfo.prepare sampleWorld)).run
        (SystemInfo.sample.operation 0) refusals = some f ∧ f.isOver = true ∧
      (SystemInfo.finished f).2.counters.value (.retryAttempts "GetSysInfo") = 4 ∧
      (SystemInfo.finished f).2.counters.value (.monitorCalls "GetSysInfo" false) = 2 ∧
      (SystemInfo.sample.work 0).Tallied "GetSysInfo" [SystemInfo.span]
        (SystemInfo.sample.launch 0 SystemInfo.sampleNodes (SystemInfo.prepare sampleWorld)) refusals
        sampleWorld (SystemInfo.finished f).2) ∧
    ∃ r w₁ w₂ report, sample.startWith "r" 0 (.ok (.ofNames ["a"])) (callEvents ++ [.join 0])
        sampleWorld = some (.ok r, w₁) ∧
      sample.endWith r 0 (wholeEvents "xy".toUTF8 "z".toUTF8) w₁ = some (report, w₂) ∧
      w₁.counters.value (.monitorCalls "StartCollection" true) = 1 ∧
      w₂.counters.value (.monitorCalls "GetCollectionResults" true) =
        w₁.counters.value (.monitorCalls "GetCollectionResults" true) + 1 := by
  refine ⟨?_, ?_⟩
  · have evaluated : ((SystemInfo.sample.launch 0 SystemInfo.sampleNodes
        (SystemInfo.prepare sampleWorld)).run (SystemInfo.sample.operation 0) refusals).map
          FanOut.isOver = some true := by decide +kernel
    obtain ⟨f, hf, isOver⟩ := Option.map_eq_some_iff.1 evaluated
    have tallied := counted_of_operations.1 hf isOver
    exact ⟨f, hf, isOver, tallied.counters _, tallied.counters _, tallied⟩
  · obtain ⟨r, w₁, started, id, names⟩ := start_sample
    obtain ⟨-, participants, ends⟩ := counted_of_operations.2 started
    have alone : r.participants.size = 1 := by
      rw [NameMap.size, ← List.length_map (·.1)]
      exact congrArg List.length names
    obtain ⟨report, w₂, ended⟩ :=
      endWith_whole 0 "xy".toUTF8 "z".toUTF8 names (Session.place?_sample started id names)
    rw [alone] at participants
    exact ⟨r, w₁, w₂, report, started, ended, participants, (ends ended).counters _⟩

end MonitorFleet
