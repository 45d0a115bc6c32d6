import MonitorFleet.Proofs.Collection.Operations
import MonitorFleet.Proofs.FanOut.LastOutcomes
import MonitorFleet.Proofs.Task.Ending
import MonitorFleet.SystemInfo

/-!
# Who takes part, and who was served

The nodes whose monitors take the call to start a run are its participants, and the system information
of all nodes is there if each of them was served. Both can be told from what the cluster lists and from
what happens to the tasks.

## What is proved

* `Collector.startWith_cases`: how the start of a run comes to its result.
* `Collector.mem_participants_iff`: who takes part in a run.
* `Collector.called_of_startWith`: the start of a run makes no other calls.
* `SystemInfo.isOk_fetchWith`: when the system information of all nodes is there.
* `Collector.exists_startWith`, `Collector.exists_endWith`, `SystemInfo.exists_fetchWith`: all of these
  operations can come to their ends.
-/

namespace MonitorFleet

open FanOut (Event)

/-! ### Starts -/

namespace Collector

variable {c : Collector} {run : String} {token : RunToken} {answer : Except Error NameSet}
  {events : List (Event Happening)} {w w' : World}

/-- The directory of a run is at hand: its id is one of a run, and the directory can be made. -/
theorem prepare_isOk : (c.prepare run w).1.isOk = true ↔ Session.isValidRun run = true ∧
    (w.tree.makeDirectories (Path.join c.session.dir run)).1 = .ok () := by
  unfold prepare Session.runDir
  cases valid : Session.isValidRun run with
  | false => simp [Except.isOk, Except.toBool]
  | true =>
    cases made : w.tree.makeDirectories (Path.join c.session.dir run) with
    | mk result tree => cases result <;> simp [Except.isOk, Except.toBool, made]

/-- **How the start of a run comes to its result**: without a directory, without nodes, or by a
fan-out. -/
theorem startWith_cases {result : Except Error CollectionRun}
    (h : c.startWith run token answer events w = some (result, w')) :
    (∃ error, c.prepare run w = (.error error, w') ∧ result = .error error) ∨
    (∃ dir error, c.prepare run w = (.ok dir, w') ∧ answer = .error error ∧ result = .error error) ∨
    (∃ r, result = .ok r) := by
  unfold startWith at h
  split at h
  · next error _ prepared =>
    cases h
    exact .inl ⟨error, prepared, rfl⟩
  · next dir _ prepared =>
    split at h
    · next error =>
      cases h
      exact .inr (.inl ⟨dir, error, prepared, rfl, rfl⟩)
    · split at h
      · cases h
      · split at h
        · cases h
          exact .inr (.inr ⟨_, rfl⟩)
        · cases h

/-- The participants of a run are the nodes whose monitors took the call. -/
theorem mem_participants_iff {nodes : NameSet} {r : CollectionRun}
    (h : c.startWith run token (.ok nodes) events w = some (.ok r, w')) (node : String) :
    node ∈ r.participants.names ↔ ∃ i, nodes.names[i]? = some node ∧ Acknowledged i events := by
  obtain ⟨dir, nodes', w₁, f, -, same, hf, isOver, heq⟩ := startWith_ok h
  cases same
  cases heq
  have acknowledged : ∀ {i}, nodes.names[i]? = some node →
      (f.report.get? node = some (.ok ()) ↔ Acknowledged i events) := fun hi =>
    succeeds_iff_acknowledged nodes.nodup_names hi rfl rfl hf isOver
  have succeeded := (FanOut.apart_of_run hf).mem_succeeded node
  constructor
  · intro hmem
    have listed := (FanOut.mem_report_iff nodes.nodup_names hf isOver node).1 (.inl hmem)
    obtain ⟨i, hi⟩ := List.getElem?_of_mem listed
    exact ⟨i, hi, (acknowledged hi).1 (succeeded.1 hmem)⟩
  · rintro ⟨i, hi, took⟩
    exact succeeded.2 ((acknowledged hi).2 took)

/-- A monitor that took the call is that of a node. -/
theorem exists_participant_iff {nodes : NameSet} {r : CollectionRun}
    (h : c.startWith run token (.ok nodes) events w = some (.ok r, w')) :
    (∃ node, node ∈ r.participants.names) ↔ ∃ i, Acknowledged i events := by
  constructor
  · rintro ⟨node, hmem⟩
    obtain ⟨i, -, took⟩ := (mem_participants_iff h node).1 hmem
    exact ⟨i, took⟩
  · rintro ⟨i, took⟩
    obtain ⟨dir, nodes', w₁, f, -, same, hf, -, -⟩ := startWith_ok h
    cases same
    obtain ⟨node, hi⟩ := FanOut.node_of_advance hf took
    exact ⟨node, (mem_participants_iff h node).2 ⟨i, hi, took⟩⟩

/-- The start of a run makes no calls but those to start. -/
theorem called_of_startWith {result : Except Error CollectionRun}
    (h : c.startWith run token answer events w = some (result, w')) :
    ∃ made, w'.called = w.called ++ made ∧
      ∀ x ∈ made, x.2 = .startCollection run (toString c.durationSecs) := by
  have unmade : ∀ {result}, c.prepare run w = (result, w') → w'.called = w.called ++ [] := by
    intro result prepared
    rw [List.append_nil]
    unfold prepare at prepared
    split at prepared <;> cases prepared <;> rfl
  rcases startWith_cases h with ⟨_, prepared, -⟩ | ⟨_, _, prepared, -⟩ | ⟨r, rfl⟩
  · exact ⟨[], unmade prepared, nofun⟩
  · exact ⟨[], unmade prepared, nofun⟩
  · obtain ⟨dir, nodes, w₁, f, prepared, -, hf, -, heq⟩ := startWith_ok h
    cases heq
    obtain ⟨made, hmade, all⟩ := Work.called_of_run hf
    refine ⟨made, ?_, fun x hx => (all x hx).2⟩
    rw [← (prepare_ok prepared).2.1]
    exact hmade

/-- The start of a run can come to its result. -/
theorem exists_startWith (c : Collector) (run : String) (token : RunToken)
    (answer : Except Error NameSet) (w : World) :
    ∃ events, .cancel ∉ events ∧ (c.startWith run token answer events w).isSome = true := by
  unfold startWith
  cases c.prepare run w with
  | mk prepared w₁ =>
    cases prepared with
    | error error => exact ⟨[], List.not_mem_nil, rfl⟩
    | ok dir =>
      cases answer with
      | error error => exact ⟨[], List.not_mem_nil, rfl⟩
      | ok nodes =>
        obtain ⟨events, f, hf, isOver, awaited⟩ := Work.completes (c.startWork run token)
          [startSpan run] (c.launch run token nodes w₁)
        refine ⟨events, fun hmem => Bool.false_ne_true (awaited _ hmem), ?_⟩
        have ran : (c.launch run token nodes w₁).run (c.startOperation run token) events = some f := hf
        simp only [ran, isOver]
        rfl

/-- The end of a run can come to its report. -/
theorem exists_endWith (c : Collector) (r : CollectionRun) (token : RunToken) (w : World) :
    ∃ events, .cancel ∉ events ∧ (c.endWith r token events w).isSome = true := by
  obtain ⟨events, f, hf, isOver, awaited⟩ := Work.completes (c.endWork r token) [endSpan r.id]
    (c.collect r token w)
  refine ⟨events, fun hmem => Bool.false_ne_true (awaited _ hmem), ?_⟩
  have ran : (c.collect r token w).run (c.endOperation r token) events = some f := hf
  simp only [endWith, ran, isOver]
  rfl

end Collector

/-! ### System information -/

namespace SystemInfo

/-- Fetches the system information of all nodes. The cluster gives this answer when it is asked for
the nodes, and these events happen to the fan-out; `none` if they cannot happen, or do not bring it to
its end. -/
def fetchWith (i : SystemInfo) (token : RunToken) (answer : Except Error (List NodeAddress))
    (events : List (Event Happening)) (w : World) : Option (Except Error Unit × World) :=
  match answer with
  | .error error => some (.error error, prepare w)
  | .ok nodes =>
    match (i.launch token nodes (prepare w)).run (i.operation token) events with
    | none => none
    | some f => if f.isOver then some (finished f) else none

variable {i : SystemInfo} {token : RunToken} {nodes : List NodeAddress}
  {events : List (Event Happening)} {w w' : World} {result : Except Error Unit}

theorem fetchWith_ok (h : i.fetchWith token (.ok nodes) events w = some (result, w')) :
    ∃ f, (i.launch token nodes (prepare w)).run (i.operation token) events = some f ∧
      f.isOver = true ∧ (result, w') = finished f := by
  unfold fetchWith at h
  dsimp only at h
  split at h
  · cases h
  · next f hf =>
    split at h
    · next isOver => exact ⟨f, hf, isOver, (Option.some.inj h).symm⟩
    · cases h

/-- A retrieval is a success if and only if every node was served, in one of the attempts that it
has. -/
theorem isOk_fetchWith (distinct : (nodes.map (·.name)).Nodup)
    (h : i.fetchWith token (.ok nodes) events w = some (result, w')) :
    result.isOk = true ↔ ∀ j node, (nodes.map (·.name))[j]? = some node →
      attemptsOf j events ≤ i.policy.limit ∧
      WritesWhole (i.session.sysinfoPath node)
        (found (i.operation token) j (i.launch token nodes (prepare w)) events) := by
  obtain ⟨f, hf, isOver, heq⟩ := fetchWith_ok h
  have served : ∀ {j node}, (nodes.map (·.name))[j]? = some node →
      (f.report.get? node = some (.ok ()) ↔ WritesWhole (i.session.sysinfoPath node)
        (found (i.operation token) j (i.launch token nodes (prepare w)) events)) := fun hj =>
    succeeds_iff_writesWhole distinct hj rfl hf isOver
  obtain rfl : result = f.report.result.map fun _ => () := congrArg Prod.fst heq
  constructor
  · intro ok j node hj
    refine ⟨attemptsOf_le distinct hj rfl hf, (served hj).1 ?_⟩
    have listed := (FanOut.mem_report_iff distinct hf isOver node).2 (List.mem_of_getElem? hj)
    rw [(FanOut.apart_of_run hf).mem_succeeded, Report.mem_failures] at listed
    refine listed.resolve_right ?_
    rintro ⟨error, failed⟩
    rw [Report.result_of_failure failed] at ok
    cases ok
  · intro all
    have none : ∀ node error, f.report.get? node ≠ some (.error error) := by
      intro node error failed
      have listed := (FanOut.mem_report_iff distinct hf isOver node).1
        (.inr ((f.report.mem_failures node).2 ⟨error, failed⟩))
      obtain ⟨j, hj⟩ := List.getElem?_of_mem listed
      cases failed.symm.trans ((served hj).2 (all j node hj).2)
    rw [Report.result_of_no_failure none]
    rfl

/-- A retrieval can come to its result. -/
theorem exists_fetchWith (i : SystemInfo) (token : RunToken)
    (answer : Except Error (List NodeAddress)) (w : World) :
    ∃ events, .cancel ∉ events ∧ (i.fetchWith token answer events w).isSome = true := by
  cases answer with
  | error error => exact ⟨[], List.not_mem_nil, rfl⟩
  | ok nodes =>
    obtain ⟨events, f, hf, isOver, awaited⟩ := Work.completes (i.work token) [span]
      (i.launch token nodes (prepare w))
    refine ⟨events, fun hmem => Bool.false_ne_true (awaited _ hmem), ?_⟩
    have ran : (i.launch token nodes (prepare w)).run (i.operation token) events = some f := hf
    simp only [fetchWith, ran, isOver]
    rfl

end SystemInfo

end MonitorFleet
