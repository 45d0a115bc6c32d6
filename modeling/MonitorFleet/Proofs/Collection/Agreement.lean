import MonitorFleet.Proofs.Collection.Operations
import MonitorFleet.Proofs.Task.OnlyAttempt
import MonitorFleet.Proofs.Tree.Straight

/-!
# The two phases of a collection agree

The nodes whose monitors took the call to start are those that take part in a run, and the results
of these are fetched, and of no others. This is so for every answer of the cluster, whatever the
monitors do, in whatever order the tasks go on and come to their ends, and whenever one of the two
phases is cancelled.

## What is proved

* `StartAgrees`, `EndAgrees`: what the two phases do, and what they make of it.
* `agreement_of_startWith`: every run that was started has both.
-/

namespace MonitorFleet.Collector

open FanOut (Event)

/-- What the start of a run did and what is made of it, where `monitor` has the answer of each
node's monitor to the call, if it answers at all. -/
structure StartAgrees (c : Collector) (run : String) (token : RunToken) (nodes : NameSet)
    (monitor : String → Option (Except Status Unit)) (events : List (Event Happening))
    (w : World) (r : CollectionRun) (w' : World) : Prop where
  /-- The cluster was asked for the nodes of the session, first of all. -/
  asked : w.asked ++ [.sessionNodes c.session.workloadSelector] <+: w'.asked
  /-- No node both succeeded and failed. -/
  apart : ∀ node ∈ r.startReport.succeeded.names, node ∉ r.startReport.failures.names
  /-- The nodes that succeeded or failed are those that the cluster listed. -/
  covers : ∀ node, node ∈ r.startReport.succeeded.names ∨ node ∈ r.startReport.failures.names ↔
    node ∈ nodes.names
  /-- The nodes that succeeded take part. -/
  participants : r.participants = r.startReport.succeeded
  /-- Calls were made to the nodes, one to each at most; those that take part took it, and unless
  the run was cancelled or a task broke down, all that took it take part. -/
  calls : ∃ made, w'.called = w.called ++ made ∧ made.Nodup ∧
    (∀ x ∈ made, x.1 ∈ nodes.names ∧ x.2 = .startCollection run (toString c.durationSecs)) ∧
    (∀ node ∈ r.participants.names,
      (node, .startCollection run (toString c.durationSecs)) ∈ made ∧
        monitor node = some (.ok ())) ∧
    (w'.isCancelled token = false → ¬Crashed events →
      ∀ x ∈ made, monitor x.1 = some (.ok ()) → x.1 ∈ r.participants.names)

/-- What the end of a run did and what is made of it. -/
structure EndAgrees (r : CollectionRun) (w : World) (report : Report) (w' : World) : Prop where
  /-- No node both succeeded and failed. -/
  apart : ∀ node ∈ report.succeeded.names, node ∉ report.failures.names
  /-- The nodes that succeeded or failed are those that took part. -/
  covers : ∀ node, node ∈ report.succeeded.names ∨ node ∈ report.failures.names ↔
    node ∈ r.participants.names
  /-- Calls were made to nodes that took part, one to each at most. -/
  calls : ∃ made, w'.called = w.called ++ made ∧ made.Nodup ∧
    ∀ x ∈ made, x.1 ∈ r.participants.names ∧ x.2 = .getCollectionResults r.id

variable {c : Collector} {run : String} {token : RunToken} {answer : Except Error NameSet}
  {monitor : String → Option (Except Status Unit)} {events : List (Event Happening)}
  {w w' : World} {r : CollectionRun}

theorem endAgrees_of_endWith {report : Report}
    (h : c.endWith r token events w = some (report, w')) : EndAgrees r w report w' := by
  obtain ⟨f, hf, isOver, hended⟩ := endWith_some h
  cases hended
  have distinct : r.participants.names.Nodup := r.participants.nodup_names
  obtain ⟨made, hmade, hall⟩ := Work.called_of_run hf
  exact ⟨FanOut.apart_of_run hf, FanOut.mem_report_iff distinct hf isOver, made, hmade,
    nodup_of_run rfl distinct hf isOver hmade, hall⟩

/-- The contact with a monitor in the start of a run. -/
theorem startContact_of_run {nodes : NameSet} {f : FanOut World Task}
    (h : (c.launch run token nodes w).run (c.startOperation run token) events = some f)
    (isOver : f.isOver = true)
    (answered : Answers (fun node result => monitor node = some result) nodes.names events)
    {made : List (String × Call)} (called : f.world.called = w.called ++ made) {node : String}
    (hnode : node ∈ nodes.names) :
    ∃ outcome, f.report.get? node = some outcome ∧
      Contact (fun node result => monitor node = some result) (c.startWork run token) node events
        f.world (made.count (node, .startCollection run (toString c.durationSecs)))
        (.over outcome) := by
  obtain ⟨outcome, made', ho, hmade', contact⟩ :=
    contact_of_run rfl nodes.nodup_names answered h isOver hnode
  obtain rfl : made' = made := List.append_cancel_left (hmade'.symm.trans called)
  exact ⟨outcome, ho, contact⟩

theorem startAgrees_of_run {nodes : NameSet} {dir : String} {w₁ : World} {f : FanOut World Task}
    (prepared : c.prepare run w = (.ok dir, w₁))
    (h : (c.launch run token nodes w₁).run (c.startOperation run token) events = some f)
    (isOver : f.isOver = true)
    (answered : Answers (fun node result => monitor node = some result) nodes.names events) :
    StartAgrees c run token nodes monitor events w (started run dir f).1 (started run dir f).2 := by
  obtain ⟨-, hcalled, hasked⟩ := prepare_ok prepared
  have distinct : nodes.names.Nodup := nodes.nodup_names
  have apart := FanOut.apart_of_run h
  obtain ⟨made, hmade, hall⟩ := Work.called_of_run h
  refine ⟨?_, apart, FanOut.mem_report_iff distinct h isOver, rfl, made, ?_,
    nodup_of_run rfl distinct h isOver hmade, hall, ?_, ?_⟩
  · rw [← hasked]
    exact Work.asked_of_run (w := w₁.note _) h
  · rw [← hcalled]
    exact hmade
  · intro node hnode
    have hok := (apart.mem_succeeded node).1 hnode
    have hmem := (FanOut.mem_report_iff distinct h isOver node).1 (.inl hnode)
    obtain ⟨outcome, ho, contact⟩ := startContact_of_run h isOver answered hmade hmem
    obtain rfl : outcome = .ok () := Option.some.inj (ho.symm.trans hok)
    cases contact with
    | taken once answered => exact ⟨List.count_pos_iff.1 (by omega), answered⟩
  · intro uncancelled uncrashed x hx hanswer
    obtain ⟨hmem, hcall⟩ := hall x hx
    obtain ⟨outcome, ho, contact⟩ := startContact_of_run h isOver answered hmade hmem
    have hcount := List.count_pos_iff.2 hx
    rw [show x = (x.1, .startCollection run (toString c.durationSecs)) from
      Prod.ext rfl hcall] at hcount
    refine (apart.mem_succeeded x.1).2 (ho.trans (congrArg some ?_))
    cases contact with
    | taken _ _ => rfl
    | uncalled never => omega
    | refused _ refusal => rw [hanswer] at refusal; cases refusal
    | lost _ streams => cases streams
    | unheard _ disturbed =>
      rcases disturbed with cancelled | crashed
      · exact absurd (uncancelled.symm.trans cancelled) Bool.false_ne_true
      · exact absurd crashed uncrashed

/-- **The two phases of a collection agree.** A run that was started agrees with the answers of the
monitors, and each time that it is ended, this agrees with the run. -/
theorem agreement_of_startWith (started : c.startWith run token answer events w = some (.ok r, w'))
    (answered : ∀ nodes, answer = .ok nodes →
      Answers (fun node result => monitor node = some result) nodes.names events) :
    (∃ nodes, answer = .ok nodes ∧ r.id = run ∧ StartAgrees c run token nodes monitor events w r w') ∧
      ∀ {token' : RunToken} {events' : List (Event Happening)} {w₁ w₂ : World} {report : Report},
        c.endWith r token' events' w₁ = some (report, w₂) → EndAgrees r w₁ report w₂ := by
  obtain ⟨dir, nodes, w₁, f, prepared, rfl, hf, isOver, heq⟩ := startWith_ok started
  cases heq
  exact ⟨⟨nodes, rfl, rfl, startAgrees_of_run prepared hf isOver (answered nodes rfl)⟩,
    endAgrees_of_endWith⟩

/-! ### A start that one of two monitors refuses -/

/-- A collector for a session at `/s`. -/
def sample : Collector := ⟨⟨"s", "/s", .direct, .default⟩, 5⟩

/-- A world with that session in it, and one run. -/
def sampleWorld : World where
  tree := ⟨[(["s"], .directory)], []⟩
  tokens := { runs := [false] }

/-- The monitor of the first node takes the call, that of the second one is busy. -/
def sampleMonitor (node : String) : Option (Except Status Unit) :=
  if node = "a" then some (.ok ()) else some (.error ⟨.failedPrecondition, "busy"⟩)

/-- Both tasks go on in turns, and the one that failed is joined first. -/
def sampleEvents : List (Event Happening) :=
  [.advance 0 .begun, .advance 1 .begun, .advance 1 (.answer (.address (.ok "h"))),
    .advance 1 (.answer (.connected true)), .advance 0 (.answer (.address (.ok "h"))),
    .advance 0 (.answer (.connected true)),
    .advance 1 (.answer (.reply (.error ⟨.failedPrecondition, "busy"⟩))), .join 1,
    .advance 0 (.answer (.reply (.ok ()))), .join 0]

theorem answers_sample :
    Answers (fun node result => sampleMonitor node = some result) ["a", "b"] sampleEvents := by
  intro i node result hi hmem
  simp only [sampleEvents, List.mem_cons, Event.advance.injEq, Happening.answer.injEq,
    Answer.reply.injEq, reduceCtorEq, and_false, false_or, List.not_mem_nil, or_false] at hmem
  rcases hmem with ⟨rfl, rfl⟩ | ⟨rfl, rfl⟩ <;> cases hi <;> rfl

theorem prepare_sample : sample.prepare "r" sampleWorld =
    (.ok "/s/r", { tree := ⟨[(["s", "r"], .directory), (["s"], .directory)], []⟩
                   tokens := { runs := [false] }
                   asked := [.sessionNodes sample.session.workloadSelector] }) := by
  have valid : Session.isValidRun "r" = true := by decide +kernel
  have joined : Path.join "/s" "r" = "/s/r" := by decide +kernel
  have free : Tree.straight? ⟨[(["s"], .directory)], []⟩ "/s/r" =
      some (.ok (.absent ["s"] "r" false)) := rfl
  simp [prepare, Session.runDir, sample, valid, joined, Tree.makeDirectories_of_absent free, sampleWorld,
    Tree.put, World.ask]

/-- The node whose monitor took the call takes part in the run, the other one does not. -/
theorem agreement_of_refusal :
    ∃ r w', sample.startWith "r" 0 (.ok (.ofNames ["a", "b"])) sampleEvents sampleWorld =
        some (.ok r, w') ∧ r.participants.names = ["a"] ∧
      ∃ nodes, .ok (.ofNames ["a", "b"]) = (.ok nodes : Except Error NameSet) ∧ r.id = "r" ∧
        StartAgrees sample "r" 0 nodes sampleMonitor sampleEvents sampleWorld r w' := by
  have evaluated : (sample.startWith "r" 0 (.ok (.ofNames ["a", "b"])) sampleEvents
      sampleWorld).map (fun x => x.1.toOption.map (·.participants.names)) = some (some ["a"]) := by
    simp only [startWith, prepare_sample]
    decide +kernel
  rw [Option.map_eq_some_iff] at evaluated
  obtain ⟨⟨result, w'⟩, started, hresult⟩ := evaluated
  cases result with
  | error _ => cases hresult
  | ok r =>
    refine ⟨r, w', started, Option.some.inj hresult, (agreement_of_startWith started ?_).1⟩
    intro nodes h
    cases h
    exact answers_sample

end MonitorFleet.Collector
