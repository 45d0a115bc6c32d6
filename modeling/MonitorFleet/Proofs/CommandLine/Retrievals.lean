import MonitorFleet.CommandLine.Reach
import MonitorFleet.Proofs.Collection.Agreement
import MonitorFleet.Proofs.Collection.Participants
import MonitorFleet.Proofs.FanOut.Outcomes

/-!
# What the commands make of failures

The two commands that retrieve something from monitors treat failures in opposite ways. A collection
succeeds as soon as one monitor took the call to start, whatever fails when the results are fetched;
what is missing is told in warnings. A retrieval of system information succeeds only if every node was
served in the end.

What the cluster lists and what happens to the tasks comes from outside (`Outer`), in any order, and
without a signal. A monitor that never answers leaves its command waiting, so what is said here is said
of operations that came to their ends. They can do so from wherever they got (`Work.completes`).

## What is proved

* `Collect.told_of_endWith`: what is told of results that were fetched.
* `Collect.exists_begun_iff`: when a collection goes on to its end.
* `Collect.collected_of_collect`, `fetched_of_sysinfo`: what comes of the two commands.
* `exists_allOver`: every command line can come to its end, whatever the cluster lists.
* `exit_of_retrievals`: what the command lines come to, and what they tell.
-/

namespace MonitorFleet

open FanOut (Event)

namespace CommandLine

/-- What comes from outside while a command is carried out. -/
structure Outer where
  /-- The nodes that the cluster lists for a session. -/
  sessionNodes : Except Error NameSet
  /-- All nodes that the cluster lists. -/
  nodes : Except Error (List NodeAddress)
  /-- What happens to the tasks that start a collection. -/
  starting : List (Event Happening)
  /-- What happens to the tasks that fetch its results. -/
  ending : List (Event Happening)
  /-- What happens to the tasks that fetch system information. -/
  fetching : List (Event Happening)

/-- What is seen of the operations of a command. -/
structure Trace where
  /-- Whether all that was to happen could happen, and brought the operations to their ends. -/
  allOver : Bool := true
  /-- The calls that were made. -/
  called : List (String × Call) := []

/-- What is seen after an operation, if it came to its end. -/
def Trace.after {α : Type} (s : Trace) (otherwise : α) (w : World) :
    Option (α × World) → α × World × Trace
  | some (result, w) => (result, w, { s with called := w.called })
  | none => (otherwise, w, { s with allOver := false })

theorem Trace.after_eq {α : Type} {s s' : Trace} {otherwise result : α} {w w' : World}
    {outcome : Option (α × World)} (h : s.after otherwise w outcome = (result, w', s'))
    (allOver : s'.allOver = true) : outcome = some (result, w') ∧ s' = { s with called := w'.called } := by
  cases outcome with
  | none =>
    cases h
    cases allOver
  | some found =>
    cases h
    exact ⟨rfl, rfl⟩

theorem Trace.allOver_after {α : Type} {s : Trace} {otherwise : α} {w : World}
    {outcome : Option (α × World)} (allOver : s.allOver = true) (ended : outcome.isSome = true) :
    (s.after otherwise w outcome).2.2.allOver = true := by
  obtain ⟨found, rfl⟩ := Option.isSome_iff_exists.1 ended
  exact allOver

namespace Outer

/-- That no signal comes. -/
structure Unsignalled (o : Outer) : Prop where
  starting : .cancel ∉ o.starting
  ending : .cancel ∉ o.ending
  fetching : .cancel ∉ o.fetching

/-- How operations are carried through by what comes from outside. -/
def reach (o : Outer) : Reach Trace where
  listNodes w s := (o.nodes, w, s)
  fetchAll i token w s := s.after (.error .cancelled) w (i.fetchWith token o.nodes o.fetching w)
  start c run token w s :=
    s.after (.error .cancelled) w (c.startWith run token o.sessionNodes o.starting w)
  await _ _ _ w s := (w, s)
  finish c run token _ w s := s.after run.startReport w (c.endWith run token o.ending w)

end Outer

/-- What an outcome comes to. -/
def Outcome.Performed (outcome : Outcome) (performance : Performance) : Prop :=
  performance.exitCode = outcome.exitCode ∧ performance.printed = outcome.printed ∧
    performance.errors = outcome.errorLines

namespace Collect

/-- What is told of the results of a run, which are fetched for a run of its own from a world on. -/
structure Told (o : Outer) (c : Collector) (r : CollectionRun) (token : RunToken) (w : World)
    (retrieved : NameSet) (failures : List (String × Error)) (performance : Performance) : Prop where
  /-- How many nodes take part is printed, and then how many results were retrieved. -/
  printed : performance.printed =
    [s!"Collecting on {r.participants.size} node(s), results in {r.dir}",
      s!"Retrieved results from {retrieved.size} node(s)"]
  /-- There is one warning for each failure, with the node and its error. -/
  warned : performance.errors = failures.map fun f => s!"warning: {f.1}: {f.2.message}"
  /-- They come in the order of their nodes. -/
  ascending : (failures.map (·.1)).Pairwise (· < ·)
  /-- The results of those participants were retrieved whose streams were written in full. -/
  whole : ∀ node, node ∈ retrieved.names ↔ ∃ i, r.participants.names[i]? = some node ∧
    WritesWhole (Session.archivePath r.dir node)
      (found (c.endOperation r token) i (c.collect r token w) o.ending)
  /-- The other participants failed, each with the error that its task ended with. -/
  failed : ∀ node error, (node, error) ∈ failures ↔ ∃ i e g, r.participants.names[i]? = some node ∧
    FanOut.EndedBy (c.endOperation r token) (c.collect r token w) o.ending i node e g (.error error)
  /-- Together they are as many as take part. -/
  total : retrieved.size + failures.length = r.participants.size

section

variable {o : Outer} {c : Collector} {r : CollectionRun} {token : RunToken} {w w' : World}
  {report : Report}

/-- What is told of results that were fetched without an interruption. -/
theorem told_of_endWith {performance : Performance}
    (h : c.endWith r token o.ending w = some (report, w'))
    (printed : performance.printed = ((tellEnd r false report).after [announcement r]).printed)
    (warned : performance.errors = (tellEnd r false report).errorLines) :
    Told o c r token w report.succeeded report.failures.entries performance := by
  obtain ⟨f, hf, isOver, heq⟩ := Collector.endWith_some h
  obtain rfl : report = f.report := congrArg Prod.fst heq
  have distinct := r.participants.nodup_names
  have apart := FanOut.apart_of_run hf
  have covers := FanOut.mem_report_iff distinct hf isOver
  have listed : ∀ {node}, node ∈ f.report.succeeded.names ∨ node ∈ f.report.failures.names →
      ∃ i, r.participants.names[i]? = some node := fun h =>
    List.getElem?_of_mem ((covers _).1 h)
  have whole : ∀ {i node}, r.participants.names[i]? = some node →
      (f.report.get? node = some (.ok ()) ↔ WritesWhole (Session.archivePath r.dir node)
        (found (c.endOperation r token) i (c.collect r token w) o.ending)) := fun hi =>
    succeeds_iff_writesWhole distinct hi rfl hf isOver
  refine ⟨printed, ?_, f.report.sorted_failures, fun node => ?_, fun node error => ?_, ?_⟩
  · rw [warned]
    exact List.append_nil _
  · rw [apart.mem_succeeded]
    constructor
    · intro succeeded
      obtain ⟨i, hi⟩ := listed (.inl ((apart.mem_succeeded node).2 succeeded))
      exact ⟨i, hi, (whole hi).1 succeeded⟩
    · rintro ⟨i, hi, written⟩
      exact (whole hi).2 written
  · rw [f.report.mem_entries_failures]
    constructor
    · intro failed
      obtain ⟨i, e, g, ended⟩ := (FanOut.originated_of_run hf).reported node _ failed
      obtain ⟨before, -, hrun⟩ := ended.reached
      obtain ⟨task, _, member, -⟩ := ended.moved
      refine ⟨i, e, g, ?_, ended⟩
      have nodes : g.nodes = r.participants.names :=
        (FanOut.nodes_of_run hrun).trans (FanOut.nodes_start ..)
      exact nodes ▸ FanOut.getElem?_nodes member
    · rintro ⟨i, e, g, -, ended⟩
      exact ended.recorded distinct hf isOver
  · have counted := apart.attempted_eq covers
    rw [List.dedup_eq_self.2 distinct, NameMap.names, List.length_map] at counted
    exact counted

theorem wait_eq (o : Outer) (r : CollectionRun) (wait : Duration) (token : RunToken) (w : World) (s : Trace) :
    ∃ log, o.reach.wait r wait token w s = ({ w with log }, s) := by
  unfold Reach.wait
  dsimp only [Outer.reach]
  split <;> exact ⟨_, rfl⟩

/-- How the results of a run are fetched, without a signal: for a run of its own, which is not
cancelled, and all is told. -/
theorem retrieve_of_allOver {isCut : Bool} {s s' : Trace} {outcome : Outcome}
    (unsignalled : o.Unsignalled) (h : o.reach.retrieve c r isCut w s = (outcome, w', s'))
    (allOver : s'.allOver = true) :
    s.allOver = true ∧ ∃ token w₁ report w₂, w₁.tree = w.tree ∧ w₁.called = w.called ∧
      c.endWith r token o.ending w₁ = some (report, w₂) ∧ outcome = tellEnd r false report ∧
      s'.called = w₂.called := by
  have live := w.tokens.isCancelled_newRun
  unfold Reach.retrieve at h
  generalize w.tokens.newRun = new at h live
  obtain ⟨token, tokens⟩ := new
  obtain ⟨report, w₂, s₂, finished⟩ : ∃ report w₂ s₂,
      o.reach.finish c r token isCut { w with tokens } s = (report, w₂, s₂) := ⟨_, _, _, rfl⟩
  simp only [finished] at h
  cases h
  obtain ⟨ended, rfl⟩ := Trace.after_eq finished allOver
  obtain ⟨f, hf, -, heq⟩ := Collector.endWith_some ended
  cases heq
  have uncut : (Collector.ended r f).2.isCancelled token = false :=
    Work.live_of_run hf live unsignalled.ending
  exact ⟨allOver, token, { w with tokens }, _, _, rfl, rfl, ended,
    congrArg (tellEnd r · f.report) uncut, rfl⟩

end

/-- What comes of a collection, whose start begins in a world. -/
structure Collected (o : Outer) (c : Collector) (run : String) (token : RunToken) (w : World)
    (performance : Performance) (seen : Trace) : Prop where
  /-- It succeeds if and only if it can be started, and some monitor took the call. -/
  succeeds : performance.exitCode = 0 ↔ Session.isValidRun run = true ∧
    (w.tree.makeDirectories (Path.join c.session.dir run)).1 = .ok () ∧
    (∃ nodes, o.sessionNodes = .ok nodes) ∧ ∃ i, Acknowledged i o.starting
  /-- If no monitor did, no results are asked for. -/
  unasked : (∀ i, ¬ Acknowledged i o.starting) → ∀ node id, (node, .getCollectionResults id) ∉ seen.called
  /-- Else the monitors that took the call are those of the participants, whose results are fetched, and
  all is told. -/
  told : performance.exitCode = 0 → ∃ nodes r w₁ token' w₂ retrieved failures,
    o.sessionNodes = .ok nodes ∧ c.startWith run token (.ok nodes) o.starting w = some (.ok r, w₁) ∧
    (∀ node, node ∈ r.participants.names ↔
      ∃ i, nodes.names[i]? = some node ∧ Acknowledged i o.starting) ∧
    w₂.tree = w₁.tree ∧ w₂.called = w₁.called ∧
    Told o c r token' w₂ retrieved failures performance

section

variable {o : Outer} {c : Collector} {run : String} {token : RunToken} {w w' : World}

theorem begun_eq_ok_iff {started : Except Error CollectionRun} {r : CollectionRun} :
    begun started = .ok r ↔ started = .ok r ∧ ∃ node, node ∈ r.participants.names := by
  cases started with
  | error error => exact ⟨nofun, nofun⟩
  | ok r' =>
    rw [begun]
    cases empty : r'.participants.isEmpty with
    | true =>
      rw [if_pos rfl]
      refine ⟨nofun, ?_⟩
      rintro ⟨heq, node, hmem⟩
      cases heq
      rw [NameMap.names, List.isEmpty_iff.1 empty] at hmem
      cases hmem
    | false =>
      rw [if_neg Bool.false_ne_true]
      obtain ⟨e, hmem⟩ := List.exists_mem_of_ne_nil _ (List.isEmpty_eq_false_iff.1 empty)
      constructor
      · intro heq
        cases heq
        exact ⟨rfl, e.1, List.mem_map_of_mem hmem⟩
      · rintro ⟨heq, -⟩
        cases heq
        rfl

/-- A collection goes on to its end if and only if it can be started, and some monitor took the
call. -/
theorem exists_begun_iff {started : Except Error CollectionRun}
    (h : c.startWith run token o.sessionNodes o.starting w = some (started, w')) :
    (∃ r, begun started = .ok r) ↔ Session.isValidRun run = true ∧
      (w.tree.makeDirectories (Path.join c.session.dir run)).1 = .ok () ∧
      (∃ nodes, o.sessionNodes = .ok nodes) ∧ ∃ i, Acknowledged i o.starting := by
  rw [← and_assoc, ← Collector.prepare_isOk]
  rcases Collector.startWith_cases h with
    ⟨error, prepared, rfl⟩ | ⟨dir, error, -, unlisted, rfl⟩ | ⟨r, rfl⟩
  · rw [prepared]
    exact ⟨nofun, nofun⟩
  · rw [unlisted]
    exact ⟨nofun, nofun⟩
  · obtain ⟨dir, nodes, w₁, f, prepared, listed, -, -, -⟩ := Collector.startWith_ok h
    rw [listed] at h ⊢
    rw [← Collector.exists_participant_iff h, prepared]
    constructor
    · rintro ⟨r', hbegun⟩
      obtain ⟨heq, some⟩ := begun_eq_ok_iff.1 hbegun
      cases heq
      exact ⟨rfl, ⟨nodes, rfl⟩, some⟩
    · rintro ⟨-, -, some⟩
      exact ⟨r, begun_eq_ok_iff.2 ⟨rfl, some⟩⟩

/-- What comes of a collection whose operations came to their ends, without a signal. -/
theorem collected_of_collect {session : Session} {durationSecs : Option UInt32}
    {waitSecs : Option UInt64} {outcome : Outcome} {performance : Performance} {seen : Trace}
    (unsignalled : o.Unsignalled) (uncalled : w.called = [])
    (h : o.reach.collect session run durationSecs waitSecs w {} = (outcome, w', seen))
    (allOver : seen.allOver = true) (performed : outcome.Performed performance) :
    Collected o (collector session durationSecs) run w.tokens.newRun.1
      { w with tokens := w.tokens.newRun.2 } performance seen := by
  unfold Reach.collect at h
  generalize collector session durationSecs = c at h ⊢
  generalize w.tokens.newRun = new at h ⊢
  obtain ⟨token, tokens⟩ := new
  obtain ⟨started, w₁, s₁, starts⟩ : ∃ started w₁ s₁,
      o.reach.start c run token { w with tokens } {} = (started, w₁, s₁) := ⟨_, _, _, rfl⟩
  obtain ⟨code, printed, warned⟩ := performed
  simp only [starts] at h
  cases hbegun : begun started with
  | error failure =>
    simp only [hbegun] at h
    cases h
    obtain ⟨ran, heq⟩ := Trace.after_eq starts allOver
    have none : performance.exitCode ≠ 0 := by
      rw [code]
      exact Nat.one_ne_zero
    refine ⟨⟨fun zero => absurd zero none, fun begins => ?_⟩, fun _ node id => ?_,
      fun zero => absurd zero none⟩
    · obtain ⟨r, ok⟩ := (exists_begun_iff ran).2 begins
      cases hbegun.symm.trans ok
    · obtain ⟨made, hmade, all⟩ := Collector.called_of_startWith ran
      rw [heq, hmade, uncalled]
      intro hmem
      cases all _ hmem
  | ok r =>
    simp only [hbegun] at h
    obtain ⟨log, waited⟩ := wait_eq o r (wait c waitSecs) token w₁ s₁
    obtain ⟨outcome', w₂, s₂, retrieves⟩ : ∃ outcome' w₂ s₂, o.reach.retrieve c r
        (({ w₁ with log } : World).isCancelled token) { w₁ with log } s₁ = (outcome', w₂, s₂) :=
      ⟨_, _, _, rfl⟩
    simp only [waited, retrieves] at h
    cases h
    obtain ⟨allOver₁, token', w₃, report, w₄, tree, called, ended, rfl, hseen⟩ :=
      retrieve_of_allOver unsignalled retrieves allOver
    obtain ⟨ran, heq⟩ := Trace.after_eq starts allOver₁
    have begins := (exists_begun_iff ran).1 ⟨r, hbegun⟩
    obtain ⟨-, -, ⟨nodes, listed⟩, some⟩ := begins
    obtain ⟨rfl, -⟩ := begun_eq_ok_iff.1 hbegun
    refine ⟨⟨fun _ => (exists_begun_iff ran).1 ⟨r, hbegun⟩, fun _ => code⟩, ?_, fun _ => ?_⟩
    · intro unacknowledged
      obtain ⟨i, took⟩ := some
      exact absurd took (unacknowledged i)
    · rw [listed] at ran
      exact ⟨nodes, r, w₁, token', w₃, _, _, listed, ran, Collector.mem_participants_iff ran, tree,
        called, told_of_endWith ended printed warned⟩

end

end Collect

section

variable {o : Outer} {line : Setting} {inv : Invocation} {session : Session} {log : Location}
  {tree opened later : Tree} {performance : Performance} {seen : Trace}

/-- What comes of a command whose session is open. -/
theorem performed_of_act {σ : Type} {act : Act σ} {s s' : σ} (parsed : parse line.words = .ok inv)
    (opens : inv.session line.random tree = (.ok ⟨session, log⟩, opened))
    (performed : line.perform act tree s = (performance, later, s')) :
    ∃ outcome w, act inv session { tree := opened, log := [opening line.words] } s = (outcome, w, s') ∧
      outcome.Performed performance := by
  unfold Setting.perform at performed
  rw [parsed] at performed
  dsimp only at performed
  rw [opens] at performed
  obtain ⟨outcome, w, s₁, acted⟩ : ∃ outcome w s₁,
      act inv session { tree := opened, log := [opening line.words] } s = (outcome, w, s₁) :=
    ⟨_, _, _, rfl⟩
  simp only [acted] at performed
  cases performed
  exact ⟨outcome, w, acted, rfl, rfl, rfl⟩

/-- What comes of a retrieval of system information, which begins in a world. -/
structure Fetched (o : Outer) (i : SystemInfo) (token : RunToken) (w : World)
    (performance : Performance) : Prop where
  /-- It succeeds if and only if the nodes can be listed, and each of them was served in one of the
  attempts that it has: the call was taken, and the stream was written in full. -/
  succeeds : performance.exitCode = 0 ↔ ∃ nodes, o.nodes = .ok nodes ∧
    ∀ j node, (nodes.map (·.name))[j]? = some node → attemptsOf j o.fetching ≤ i.policy.limit ∧
      WritesWhole (i.session.sysinfoPath node)
        (found (i.operation token) j (i.launch token nodes (SystemInfo.prepare w)) o.fetching)

theorem exitCode_tellSysinfo (session : Session) (result : Except Error Unit) :
    (tellSysinfo session result).exitCode = 0 ↔ result.isOk = true := by
  cases result with
  | ok _ => exact ⟨fun _ => rfl, fun _ => rfl⟩
  | error _ => exact ⟨nofun, nofun⟩

/-- What comes of a retrieval whose tasks came to their ends. -/
theorem fetched_of_sysinfo {w w' : World} {outcome : Outcome}
    (distinct : ∀ nodes, o.nodes = .ok nodes → (nodes.map (·.name)).Nodup)
    (h : o.reach.sysinfo session w {} = (outcome, w', seen)) (allOver : seen.allOver = true)
    (performed : outcome.Performed performance) :
    Fetched o (.ofSession session) w.tokens.newRun.1 { w with tokens := w.tokens.newRun.2 }
      performance := by
  unfold Reach.sysinfo at h
  generalize w.tokens.newRun = new at h ⊢
  obtain ⟨token, tokens⟩ := new
  obtain ⟨result, w₁, s₁, fetches⟩ : ∃ result w₁ s₁,
      o.reach.fetchAll (.ofSession session) token { w with tokens } {} = (result, w₁, s₁) :=
    ⟨_, _, _, rfl⟩
  simp only [fetches] at h
  cases h
  obtain ⟨ran, -⟩ := Trace.after_eq fetches allOver
  refine ⟨?_⟩
  rw [performed.1, exitCode_tellSysinfo]
  cases listed : o.nodes with
  | error error =>
    rw [listed] at ran
    cases ran
    exact ⟨nofun, nofun⟩
  | ok nodes =>
    rw [listed] at ran
    rw [SystemInfo.isOk_fetchWith (distinct nodes listed) ran]
    constructor
    · intro served
      exact ⟨nodes, rfl, served⟩
    · rintro ⟨nodes', heq, served⟩
      cases heq
      exact served

/-! ### The end of a command -/

/-- What a command does can come to its end. -/
theorem exists_allOver_act (sessionNodes : Except Error NameSet)
    (nodes : Except Error (List NodeAddress)) (inv : Invocation) (session : Session) (w : World) :
    ∃ o : Outer, o.sessionNodes = sessionNodes ∧ o.nodes = nodes ∧ o.Unsignalled ∧
      (o.reach.act inv session w {}).2.2.allOver = true := by
  have unsignalled : Outer.Unsignalled ⟨sessionNodes, nodes, [], [], []⟩ :=
    ⟨List.not_mem_nil, List.not_mem_nil, List.not_mem_nil⟩
  unfold Reach.act
  split
  · exact ⟨_, rfl, rfl, unsignalled, rfl⟩
  · obtain ⟨fetching, uncancelled, ended⟩ := SystemInfo.exists_fetchWith (.ofSession session)
      w.tokens.newRun.1 nodes { w with tokens := w.tokens.newRun.2 }
    exact ⟨⟨sessionNodes, nodes, [], [], fetching⟩, rfl, rfl,
      ⟨List.not_mem_nil, List.not_mem_nil, uncancelled⟩, Trace.allOver_after rfl ended⟩
  · next run durationSecs waitSecs _ =>
    obtain ⟨starting, uncancelled, started⟩ := Collector.exists_startWith
      (Collect.collector session durationSecs) run w.tokens.newRun.1 sessionNodes
      { w with tokens := w.tokens.newRun.2 }
    obtain ⟨⟨result, w₁⟩, hresult⟩ := Option.isSome_iff_exists.1 started
    have starts : ∀ ending, (Outer.mk sessionNodes nodes starting ending []).reach.start
        (Collect.collector session durationSecs) run w.tokens.newRun.1
        { w with tokens := w.tokens.newRun.2 } {} = (result, w₁, { called := w₁.called }) := by
      intro ending
      simp only [Outer.reach, hresult, Trace.after]
    unfold Reach.collect
    cases hbegun : Collect.begun result with
    | error failure =>
      refine ⟨⟨sessionNodes, nodes, starting, [], []⟩, rfl, rfl,
        ⟨uncancelled, List.not_mem_nil, List.not_mem_nil⟩, ?_⟩
      simp only [starts, hbegun]
    | ok r =>
      -- What the wait leaves behind does not depend on what happens later.
      obtain ⟨log, waits⟩ := Collect.wait_eq ⟨sessionNodes, nodes, starting, [], []⟩ r
        (Collect.wait (Collect.collector session durationSecs) waitSecs) w.tokens.newRun.1 w₁
        { called := w₁.called }
      have waited : ∀ ending, (Outer.mk sessionNodes nodes starting ending []).reach.wait r
          (Collect.wait (Collect.collector session durationSecs) waitSecs) w.tokens.newRun.1 w₁
          { called := w₁.called } = ({ w₁ with log }, { called := w₁.called }) := fun _ => waits
      obtain ⟨ending, uncancelled', ended⟩ := Collector.exists_endWith
        (Collect.collector session durationSecs) r w₁.tokens.newRun.1
        { w₁ with log, tokens := w₁.tokens.newRun.2 }
      refine ⟨⟨sessionNodes, nodes, starting, ending, []⟩, rfl, rfl,
        ⟨uncancelled, uncancelled', List.not_mem_nil⟩, ?_⟩
      simp only [starts, hbegun, waited]
      exact Trace.allOver_after rfl ended
  · refine ⟨_, rfl, rfl, unsignalled, ?_⟩
    unfold alone
    split <;> rfl

/-- **A command can come to its end without a signal**, whatever the cluster lists. -/
theorem exists_allOver (line : Setting) (tree : Tree) (sessionNodes : Except Error NameSet)
    (nodes : Except Error (List NodeAddress)) :
    ∃ o : Outer, o.sessionNodes = sessionNodes ∧ o.nodes = nodes ∧ o.Unsignalled ∧
      (line.perform o.reach.act tree {}).2.2.allOver = true := by
  have unsignalled : Outer.Unsignalled ⟨sessionNodes, nodes, [], [], []⟩ :=
    ⟨List.not_mem_nil, List.not_mem_nil, List.not_mem_nil⟩
  unfold Setting.perform
  split
  · exact ⟨_, rfl, rfl, unsignalled, rfl⟩
  · exact ⟨_, rfl, rfl, unsignalled, rfl⟩
  · next inv _ =>
    split
    · exact ⟨_, rfl, rfl, unsignalled, rfl⟩
    · next session log tree _ =>
      exact exists_allOver_act sessionNodes nodes inv session { tree, log := [opening line.words] }

/-- The world in which the operations of a command line begin, with a run for the first of them. -/
def Setting.underway (line : Setting) (tree : Tree) : World where
  tree := tree
  tokens := { runs := [false] }
  log := [opening line.words]

/-- **What the two commands come to**, if the session can be opened, its log can be written, the
cluster can be reached and no signal comes. They can come to their ends, whatever the cluster lists;
and whatever happens to the tasks then, a collection succeeds if some monitor took the call to start,
and tells of what failed then, and a retrieval of system information succeeds if every node was
served. -/
theorem exit_of_retrievals (parsed : parse line.words = .ok inv)
    (opens : inv.session line.random tree = (.ok ⟨session, log⟩, opened))
    (unsignalled : o.Unsignalled)
    (distinct : ∀ nodes, o.nodes = .ok nodes → (nodes.map (·.name)).Nodup) :
    (∃ o' : Outer, o'.sessionNodes = o.sessionNodes ∧ o'.nodes = o.nodes ∧ o'.Unsignalled ∧
      (line.perform o'.reach.act tree {}).2.2.allOver = true) ∧
    ∀ performance later seen, line.perform o.reach.act tree {} = (performance, later, seen) →
      seen.allOver = true →
      (∀ run durationSecs waitSecs, inv.command = .collect run durationSecs waitSecs →
        Collect.Collected o (Collect.collector session durationSecs) run 0 (line.underway opened)
          performance seen) ∧
      (inv.command = .sysinfo →
        Fetched o (.ofSession session) 0 (line.underway opened) performance) := by
  refine ⟨exists_allOver line tree o.sessionNodes o.nodes, ?_⟩
  intro performance later seen performed allOver
  obtain ⟨outcome, w, acted, told⟩ := performed_of_act parsed opens performed
  unfold Reach.act at acted
  constructor
  · intro run durationSecs waitSecs command
    rw [command] at acted
    exact Collect.collected_of_collect unsignalled rfl acted allOver told
  · intro command
    rw [command] at acted
    exact fetched_of_sysinfo distinct acted allOver told

end

/-! ### A node that is lost -/

open Collector (sample)

/-- A session at `/s`, with its log. -/
def logged : Tree := ⟨[(["s"], .directory), (["s", "session.log"], .file .empty)], []⟩

/-- Collects for five seconds. -/
def collecting : Setting :=
  ⟨["-s", "s", "-d", "/", "collect", "--run-id", "r", "--duration", "5"], none, 0⟩

/-- Fetches the system information. -/
def fetching : Setting := ⟨["-s", "s", "-d", "/", "sysinfo"], none, 0⟩

/-- A node whose monitor takes the call to start, and that the cluster does not know then. -/
def lostNode : Outer where
  sessionNodes := .ok (.ofNames ["a"])
  nodes := .ok [⟨"a", none⟩]
  starting := [.advance 0 .begun, .advance 0 (.answer (.address (.ok "h"))),
    .advance 0 (.answer (.connected true)), .advance 0 (.answer (.reply (.ok ()))), .join 0]
  ending := [.advance 0 .begun, .advance 0 (.answer (.address (.error .cancelled))), .join 0]
  fetching := [.advance 0 .begun, .advance 0 (.answer (.address (.error .cancelled))), .join 0]

theorem opens_logged : openSession { sessionId := some "s", baseDir := "/" } logged =
    (.ok ⟨sample.session, ["s", "session.log"]⟩, logged) := by
  have spelled : Path.join "/" "s" = "/s" ∧ Config.path "/s" = "/s/config.json" ∧
      Path.join "/s" "session.log" = "/s/session.log" := by decide +kernel
  have valid : Session.isValidId "s" = true := by decide +kernel
  have there : logged.find true "/s" = .ok (.found ["s"] .directory) :=
    Tree.find_of_straight? rfl true
  have unset : logged.find true "/s/config.json" = .ok (.absent ["s"] "config.json" false) :=
    Tree.find_of_straight? rfl true
  have log : logged.find true "/s/session.log" = .ok (.found ["s", "session.log"] (.file .empty)) :=
    Tree.find_of_straight? rfl true
  simp [openSession, Session.open, spelled, valid, Tree.isDirectory, Tree.entryAt?, there, Config.load,
    Tree.isPresent, unset, Session.withConnectivity, startLog, Session.openLog, Session.logPath,
    Tree.openFile, log, sample]

theorem prepare_logged (tokens : Tokens) (log : List Record) :
    (Collect.collector sample.session (some 5)).prepare "r" { tree := logged, tokens, log } =
      (.ok "/s/r", { tree := logged.put ["s", "r"] .directory, tokens, log,
                     asked := [.sessionNodes sample.session.workloadSelector] }) := by
  have valid : Session.isValidRun "r" = true := by decide +kernel
  have joined : Path.join "/s" "r" = "/s/r" := by decide +kernel
  have free : logged.straight? "/s/r" = some (.ok (.absent ["s"] "r" false)) := rfl
  simp [Collector.prepare, Session.runDir, sample, valid, joined, Tree.makeDirectories_of_absent free,
    Collect.collector, Collector.ofSession, Collector.withDuration, World.ask]

theorem parse_collecting : parse collecting.words =
    .ok ⟨{ sessionId := some "s", baseDir := "/" }, .collect "r" (some 5) none⟩ := by decide +kernel

theorem parse_fetching : parse fetching.words =
    .ok ⟨{ sessionId := some "s", baseDir := "/" }, .sysinfo⟩ := by decide +kernel

theorem allOver_collecting : (collecting.perform lostNode.reach.act logged {}).2.2.allOver = true := by
  simp only [Setting.perform, parse_collecting, Invocation.session, opens_logged, Reach.act, Reach.collect,
    Outer.reach, Collector.startWith, Tokens.newRun, prepare_logged]
  decide +kernel

theorem allOver_fetching : (fetching.perform lostNode.reach.act logged {}).2.2.allOver = true := by
  simp only [Setting.perform, parse_fetching, Invocation.session, opens_logged]
  decide +kernel

/-- **The two commands treat one failure in opposite ways.** -/
theorem exit_of_lost_node :
    (collecting.perform lostNode.reach.act logged {}).1.exitCode = 0 ∧
    (fetching.perform lostNode.reach.act logged {}).1.exitCode ≠ 0 := by
  have unsignalled : lostNode.Unsignalled := ⟨by simp [lostNode], by simp [lostNode], by simp [lostNode]⟩
  have distinct : ∀ nodes, lostNode.nodes = .ok nodes → (nodes.map (·.name)).Nodup := by
    intro nodes listed
    cases listed
    exact List.nodup_singleton _
  constructor
  · have collected := ((exit_of_retrievals parse_collecting opens_logged unsignalled distinct).2
      _ _ _ rfl allOver_collecting).1 "r" (some 5) none rfl
    have begins := Collector.prepare_isOk.1
      (congrArg (·.1.isOk) (prepare_logged { runs := [false] } [opening collecting.words]))
    exact collected.succeeds.2 ⟨begins.1, begins.2, ⟨_, rfl⟩, 0, by simp [Acknowledged, lostNode]⟩
  · have served := ((exit_of_retrievals parse_fetching opens_logged unsignalled distinct).2
      _ _ _ rfl allOver_fetching).2 rfl
    intro zero
    obtain ⟨nodes, listed, all⟩ := served.succeeds.1 zero
    cases listed
    obtain ⟨-, before, tree, after, place, split, -⟩ := all 0 "a" rfl
    have heard : (found ((SystemInfo.ofSession sample.session).operation 0) 0
        ((SystemInfo.ofSession sample.session).launch 0 [⟨"a", none⟩]
          (SystemInfo.prepare (fetching.underway logged))) lostNode.fetching).map (·.1) =
        [.address (.error .cancelled)] := rfl
    rw [split] at heard
    cases before with
    | nil => cases heard
    | cons x before => simp at heard

end CommandLine

end MonitorFleet
