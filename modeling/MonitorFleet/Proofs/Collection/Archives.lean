import MonitorFleet.Proofs.Collection.Agreement
import MonitorFleet.Proofs.Session.History
import MonitorFleet.Proofs.Task.Streaming

/-!
# The archives of a session

Each run has a directory and each node an archive in it, and what is received of a node at the end of
a run is added to this archive and to no other. Runs may be started and ended any number of times,
several times under one id, with other operations on the session in between; the streams of one end
go side by side, and may be cut off at any moment. An archive then holds what it held at first, and
what was received at the ends of its run, in order.

## What is proved

* `Left.fetched`: what the end of a run does to the archives, and what it reports.
* `Archived.concat`: what one more operation does to them.
* `archives_of_history`: what the archives hold after any history, and while it goes on.
-/

namespace MonitorFleet

open FanOut (Event)
open SystemInfo (withChunks)
open Session (archiveAt archiveName)

/-! ### What was received at an end -/

namespace Ending

/-- The answers that were heard of a node. -/
def heard (e : Ending) (node : String) : List Answer :=
  match e.run.participants.names.idxOf? node with
  | some i => MonitorFleet.heard i e.events
  | none => []

/-- Whether a call for the results of a run was taken by a node. -/
def took (e : Ending) (run node : String) : Bool :=
  e.run.id == run && (e.heard node).any Answer.isTaken

/-- The chunks of a run that were received of a node. -/
def received (e : Ending) (run node : String) : List ByteArray :=
  if e.run.id = run then chunksOf (e.heard node) else []

variable {e : Ending} {run node : String}

theorem heard_of_not_mem (h : node ∉ e.run.participants.names) : e.heard node = [] := by
  rw [heard, List.idxOf?_eq_none_iff.2 h]

theorem heard_of_getElem? {i : Nat} (h : e.run.participants.names[i]? = some node) :
    e.heard node = MonitorFleet.heard i e.events := by
  obtain ⟨bound, self⟩ := List.getElem?_eq_some_iff.1 h
  have first : e.run.participants.names.idxOf? node = some i := by
    refine List.idxOf?_eq_some_iff.2 ⟨bound, self, fun j before same => ?_⟩
    have other := List.getElem?_eq_some_iff.2 ⟨Nat.lt_trans before bound, same⟩
    exact absurd (FanOut.number_unique e.run.participants.nodup_names other h) (Nat.ne_of_lt before)
  rw [heard, first]

theorem received_of_not_took (h : e.took run node = false) : e.received run node = [] := by
  unfold took at h
  unfold received
  split
  · next same =>
    rw [same, beq_self_eq_true, Bool.true_and] at h
    exact chunksOf_of_quiet h
  · rfl

theorem took_of_stranger (h : ¬ (run = e.run.id ∧ node ∈ e.run.participants.names)) :
    e.took run node = false := by
  rw [took, Bool.and_eq_false_iff, beq_eq_false_iff_ne]
  rcases not_and_or.1 h with other | stranger
  · exact .inl (Ne.symm other)
  · rw [heard_of_not_mem stranger]
    exact .inr rfl

theorem received_of_none_took {es : List Ending} (h : (es.any fun e => e.took run node) = false) :
    (es.flatMap fun e => e.received run node) = [] := by
  rw [List.any_eq_false] at h
  refine List.flatMap_eq_nil_iff.2 fun e hmem => ?_
  exact received_of_not_took (Bool.eq_false_iff.2 (h e hmem))

end Ending

/-- The ends on record, in order. -/
def endings (deeds : List Deed) : List Ending :=
  deeds.filterMap fun
    | .ended e => some e
    | _ => none

@[simp] theorem endings_append (deeds more : List Deed) :
    endings (deeds ++ more) = endings deeds ++ endings more := List.filterMap_append ..

theorem mem_endings_append {e : Ending} {deeds more : List Deed} :
    e ∈ endings (deeds ++ more) ↔ e ∈ endings deeds ∨ e ∈ endings more := by
  rw [endings_append, List.mem_append]

/-- Chunks that are added to a file to which chunks were added. -/
theorem withChunks_withChunks {old : Option ByteArray} {opened opened' : Bool}
    {chunks chunks' : List ByteArray} (none : opened = false → chunks = [])
    (none' : opened' = false → chunks' = []) :
    withChunks (withChunks old opened chunks) opened' chunks' =
      withChunks old (opened || opened') (chunks ++ chunks') := by
  unfold withChunks
  cases opened with
  | true =>
    cases opened' with
    | true => simp [ByteArray.append_assoc]
    | false => simp [none' rfl]
  | false =>
    cases opened' with
    | true => simp [none rfl]
    | false => simp

namespace Session

variable {s : Session} {home : Location} {tree mid later : Tree} {deeds more : List Deed}
  {conduct : Ending → String → Conduct}

/-- That the archives of a run can be written: their names keep to the limits, and no directory
stands where one of them would. -/
def Archivable (s : Session) (home : Location) (tree : Tree) (r : CollectionRun) : Prop :=
  ∀ node ∈ r.participants.names, Tree.Fits (Path.join s.dir r.id) (archiveName node) ∧
    tree.get? (archiveAt home r.id node) ≠ some .directory

theorem archiveAt_injective {run run' node node' : String}
    (h : archiveAt home run node = archiveAt home run' node') : run = run' ∧ node = node' := by
  unfold archiveAt at h
  obtain ⟨dirs, names⟩ := List.append_inj h (by simp)
  exact ⟨by simpa using dirs, archiveName_injective (by simpa using names)⟩

theorem not_ownFile_archiveAt (home : Location) (run node : String) :
    ¬ OwnFile home (archiveAt home run node) := by
  rintro (heq | heq | ⟨_, heq⟩) <;> simp [archiveAt] at heq

/-- What the end of a run leaves in the archives, and what it reports. -/
structure Fetched (home : Location) (conduct : String → Conduct) (e : Ending) (tree later : Tree) :
    Prop where
  /-- All archives hold what they held before, and what was received of their nodes for their runs. -/
  content : ∀ run node, later.content? (archiveAt home run node) =
    withChunks (tree.content? (archiveAt home run node)) (e.took run node) (e.received run node)
  /-- What was received is the first part of what the monitor streams. -/
  begins : ∀ node ∈ e.run.participants.names, chunksOf (e.heard node) <+: (conduct node).chunks
  /-- Of a node that succeeded, the call was taken, and the whole stream was received. -/
  whole : ∀ node ∈ e.report.succeeded.names, node ∈ e.run.participants.names ∧
    e.took e.run.id node = true ∧ e.received e.run.id node = (conduct node).chunks

/-- Where the archive of a node is, in the directory of a run that was started. -/
theorem Left.place?_archive (left : Left s home tree deeds mid) {r : CollectionRun}
    (started : Deed.started r ∈ deeds) (writable : s.Archivable home tree r) {node : String}
    (hmem : node ∈ r.participants.names) (slashless : '/' ∉ node.toList) :
    mid.place? (archivePath r.dir node) = some (archiveAt home r.id node) := by
  obtain ⟨valid, fits, stands, dir⟩ := left.known r started
  have leads := left.settled.directory?_run valid fits stands
  obtain ⟨fits', free⟩ := writable node hmem
  rw [dir]
  refine Tree.place?_join leads (isName_archiveName slashless) fits' ?_
  refine (left.settled.isRegular_in r.id (archiveName node)).resolve_left fun taken => ?_
  -- A directory that came to be is one of a run, and not in the directory of another one.
  rcases left.directory _ taken with before | ⟨other, -, heq⟩
  · exact free before
  · simp at heq

/-- What the end of a run does to the archives. -/
theorem Left.fetched {c : Collector} {r : CollectionRun} {token : RunToken}
    {events : List (Event Happening)} {w w' : World} {report : Report}
    {conduct : String → Conduct} (left : Left s home tree deeds w.tree)
    (started : Deed.started r ∈ deeds) (writable : s.Archivable home tree r)
    (slashless : ∀ node ∈ r.participants.names, '/' ∉ node.toList)
    (meets : Meets c.session.monitors conduct r.participants.names events)
    (ended : c.endWith r token events w = some (report, w')) :
    Fetched home conduct ⟨c.session.monitors, r, events, report⟩ w.tree w'.tree := by
  obtain ⟨valid, fits, stands, dir⟩ := left.known r started
  have written := left.settled.effect_endWith valid fits stands dir slashless ended
  have apart : StreamsApart (c.endWork r token) r.participants.names (archiveAt home r.id) w.tree :=
    ⟨rfl, r.participants.nodup_names,
      fun node hmem => ⟨_, rfl, left.place?_archive started writable hmem (slashless node hmem)⟩,
      fun _ _ _ _ heq => (archiveAt_injective heq).2⟩
  obtain ⟨f, hf, isOver, heq⟩ := Collector.endWith_some ended
  cases heq
  set e : Ending := ⟨c.session.monitors, r, events, f.report⟩
  have received : ∀ node ∈ r.participants.names, ∃ outcome, f.report.get? node = some outcome ∧
      Received (conduct node) c.session.monitors (e.heard node) (archiveAt home r.id node) w.tree
        f.world.tree outcome := by
    intro node hmem
    obtain ⟨i, hi⟩ := List.getElem?_of_mem hmem
    rw [Ending.heard_of_getElem? (e := e) hi]
    exact received_of_run apart meets hf isOver hi
  refine ⟨fun run node => ?_, fun node hmem => ?_, fun node hmem => ?_⟩
  · by_cases own : run = r.id ∧ node ∈ r.participants.names
    · obtain ⟨rfl, hmem⟩ := own
      obtain ⟨_, -, got⟩ := received node hmem
      rw [Ending.took, Ending.received, if_pos rfl, beq_self_eq_true, Bool.true_and]
      exact got.content
    · -- The archive of another run or of a node that does not take part is left alone.
      have alone : f.world.tree.content? (archiveAt home run node) =
          w.tree.content? (archiveAt home run node) := by
        refine written.content?_of_not ?_
        rintro ⟨other, hother, heq⟩
        obtain ⟨rfl, rfl⟩ := archiveAt_injective heq
        exact own ⟨rfl, hother⟩
      rw [Ending.took_of_stranger own, withChunks, if_neg Bool.false_ne_true]
      exact alone
  · obtain ⟨_, -, got⟩ := received node hmem
    exact got.begins
  · have succeeded := ((FanOut.apart_of_run hf).mem_succeeded node).1 hmem
    have listed : node ∈ r.participants.names := by
      by_contra absent
      rw [FanOut.get?_report_eq_none hf absent] at succeeded
      cases succeeded
    obtain ⟨outcome, reported, got⟩ := received node listed
    cases succeeded.symm.trans reported
    obtain ⟨taken, whole, -⟩ := got.whole rfl
    rw [Ending.took, Ending.received, if_pos rfl, beq_self_eq_true, Bool.true_and]
    exact ⟨listed, taken, whole⟩

/-! ### Along a history -/

/-- An operation that ends no run leaves all archives alone. -/
theorem Effect.archives (h : Effect s home tree later more) (silent : endings more = []) (run node : String) :
    later.content? (archiveAt home run node) = tree.content? (archiveAt home run node) := by
  cases h with
  | made _ _ made kept _ => rw [kept.content?_of_not (fun h => h), made.content?]
  | wrote written => exact written.content?_of_not (not_ownFile_archiveAt home run node)
  | ended _ => cases silent

/-- An operation ends no run, or ends one that was started. -/
theorem Acts.ends_or_not {before : List Deed} (act : Acts s before tree more later) :
    endings more = [] ∨ ∃ (c : Collector) (r : CollectionRun) (token : RunToken)
      (events : List (Event Happening)) (w w' : World) (report : Report),
      Deed.started r ∈ before ∧ (∀ node ∈ r.participants.names, '/' ∉ node.toList) ∧
      c.endWith r token events w = some (report, w') ∧ tree = w.tree ∧ later = w'.tree ∧
      more = [.ended ⟨c.session.monitors, r, events, report⟩] := by
  have ofDir : ∀ run result, endings (Deed.ofDir run result) = [] := by
    intro run result
    cases result <;> rfl
  cases act with
  | makes _ _ => exact .inl (ofDir ..)
  | @starts c run token answer events w w' result _ _ =>
    refine .inl ?_
    rw [endings_append, ofDir]
    cases result <;> rfl
  | ends _ known slashless ended =>
    exact .inr ⟨_, _, _, _, _, _, _, known, slashless, ended, rfl, rfl, rfl⟩
  | _ => exact .inl rfl

/-- A run that was ended was started, and its nodes have no slash in their names. -/
theorem History.started (h : s.History [] tree deeds later) {e : Ending} (hmem : e ∈ endings deeds) :
    Deed.started e.run ∈ deeds ∧ ∀ node ∈ e.run.participants.names, '/' ∉ node.toList := by
  induction h with
  | nil => cases hmem
  | concat _ act ih =>
    rcases mem_endings_append.1 hmem with hmem | hmem
    · obtain ⟨started, slashless⟩ := ih hmem
      exact ⟨List.mem_append_left _ started, slashless⟩
    · rcases act.ends_or_not with silent | ⟨c, r, _, _, _, _, _, started, slashless, -, -, -, rfl⟩
      · rw [silent] at hmem
        cases hmem
      · obtain rfl := List.mem_singleton.1 hmem
        exact ⟨List.mem_append_left _ started, slashless⟩

/-- An operation adds to an archive what was received at the end that it is, if it is one. -/
theorem Acts.fetched {before : List Deed} (act : Acts s before mid more later)
    (left : Left s home tree before mid)
    (writable : ∀ e ∈ endings more, s.Archivable home tree e.run)
    (meets : ∀ e ∈ endings more, Meets e.monitors (conduct e) e.run.participants.names e.events) :
    endings more = [] ∧ (∀ run node, later.content? (archiveAt home run node) =
      mid.content? (archiveAt home run node)) ∨
    ∃ e, endings more = [e] ∧ Fetched home (conduct e) e mid later := by
  have effect := act.effect left.settled left.known
  rcases act.ends_or_not with silent | ⟨c, r, token, events, w, w', report, started, slashless, ended, rfl, rfl, rfl⟩
  · exact .inl ⟨silent, effect.archives silent⟩
  · refine .inr ⟨_, rfl, ?_⟩
    exact left.fetched started (writable _ (List.mem_singleton_self _)) slashless
      (meets _ (List.mem_singleton_self _)) ended

/-- What the archives hold after a history, and of what their content is made. -/
structure Archived (home : Location) (conduct : Ending → String → Conduct)
    (tree : Tree) (deeds : List Deed) (later : Tree) : Prop where
  /-- An archive holds what it held at first and, behind it, what was received of its node at the
  ends of its run, in order. -/
  content : ∀ run node, later.content? (archiveAt home run node) =
    withChunks (tree.content? (archiveAt home run node))
      ((endings deeds).any fun e => e.took run node)
      ((endings deeds).flatMap fun e => e.received run node)
  /-- What was received at an end is the first part of what the monitor streams. -/
  begins : ∀ e ∈ endings deeds, ∀ node ∈ e.run.participants.names,
    chunksOf (e.heard node) <+: (conduct e node).chunks
  /-- Of a node that is reported to have succeeded, the call was taken, and the whole stream was
  received. -/
  whole : ∀ e ∈ endings deeds, ∀ node ∈ e.report.succeeded.names,
    node ∈ e.run.participants.names ∧ e.took e.run.id node = true ∧
      e.received e.run.id node = (conduct e node).chunks

theorem archived_self : Archived home conduct tree [] tree where
  content _ _ := rfl
  begins _ hmem := by cases hmem
  whole _ hmem := by cases hmem

/-- An operation at which nothing is received. -/
theorem Archived.concat_silent (h : Archived home conduct tree deeds mid) (silent : endings more = [])
    (same : ∀ run node, later.content? (archiveAt home run node) =
      mid.content? (archiveAt home run node)) :
    Archived home conduct tree (deeds ++ more) later := by
  have ends : endings (deeds ++ more) = endings deeds := by
    rw [endings_append, silent, List.append_nil]
  refine ⟨fun run node => ?_, ?_, ?_⟩
  · rw [ends, same]
    exact h.content run node
  · rw [ends]
    exact h.begins
  · rw [ends]
    exact h.whole

/-- One more end of a run: what is received is added behind what was received. -/
theorem Archived.concat (h : Archived home conduct tree deeds mid) {e : Ending}
    (last : endings more = [e]) (fetched : Fetched home (conduct e) e mid later) :
    Archived home conduct tree (deeds ++ more) later := by
  have ends : endings (deeds ++ more) = endings deeds ++ [e] := by rw [endings_append, last]
  refine ⟨fun run node => ?_, ?_, ?_⟩
  · rw [fetched.content, h.content, withChunks_withChunks Ending.received_of_none_took
      Ending.received_of_not_took, ends]
    simp only [List.any_append, List.flatMap_append, List.any_cons, List.any_nil, Bool.or_false,
      List.flatMap_cons, List.flatMap_nil, List.append_nil]
  · intro e' hmem
    rw [ends, List.mem_append, List.mem_singleton] at hmem
    rcases hmem with hmem | rfl
    · exact h.begins e' hmem
    · exact fetched.begins
  · intro e' hmem
    rw [ends, List.mem_append, List.mem_singleton] at hmem
    rcases hmem with hmem | rfl
    · exact h.whole e' hmem
    · exact fetched.whole

/-- What the archives hold after a history. -/
theorem History.archived (settled : s.Settled home tree) (h : s.History [] tree deeds later)
    (writable : ∀ e ∈ endings deeds, s.Archivable home tree e.run)
    (meets : ∀ e ∈ endings deeds, Meets e.monitors (conduct e) e.run.participants.names e.events) :
    Archived home conduct tree deeds later := by
  induction h with
  | nil => exact archived_self
  | @concat deeds more mid later h act ih =>
    have held := ih (fun e hmem => writable e (mem_endings_append.2 (.inl hmem)))
      fun e hmem => meets e (mem_endings_append.2 (.inl hmem))
    rcases act.fetched (h.left settled) (fun e hmem => writable e (mem_endings_append.2 (.inr hmem)))
      (fun e hmem => meets e (mem_endings_append.2 (.inr hmem))) with ⟨silent, same⟩ | ⟨e, last, fetched⟩
    · exact held.concat_silent silent same
    · exact held.concat last fetched

/-- What an archive holds stays, and more may be added behind it. -/
theorem Archived.grows (h : Archived home conduct tree deeds mid)
    (h' : Archived home conduct tree (deeds ++ more) later) {run node : String} {content : ByteArray}
    (held : mid.content? (archiveAt home run node) = some content) :
    ∃ added, later.content? (archiveAt home run node) = some (content ++ added) := by
  rw [h.content] at held
  rw [h'.content, endings_append, List.any_append, List.flatMap_append, ← withChunks_withChunks
    Ending.received_of_none_took Ending.received_of_none_took, held, withChunks]
  split
  · exact ⟨_, rfl⟩
  · exact ⟨.empty, by rw [ByteArray.append_empty]⟩

/-- **What the archives hold after any history, and while it goes on.** An archive holds what it held
at first and, behind it, what was received of its node at the ends of its run, in order; what it held
at any moment stays at its beginning. -/
theorem archives_of_history (settled : s.Settled home tree) (first : s.History [] tree deeds mid)
    (second : s.History deeds mid all later)
    (writable : ∀ e ∈ endings all, s.Archivable home tree e.run)
    (meets : ∀ e ∈ endings all, Meets e.monitors (conduct e) e.run.participants.names e.events) :
    Archived home conduct tree all later ∧
    (∀ e ∈ endings all, ∀ run node, ¬ (run = e.run.id ∧ node ∈ e.run.participants.names) →
      e.took run node = false ∧ e.received run node = []) ∧
    (∀ e ∈ endings all, ∀ node ∈ e.run.participants.names,
      later.place? (archivePath (Path.join s.dir e.run.id) node) =
        some (archiveAt home e.run.id node)) ∧
    ∀ run node content, mid.content? (archiveAt home run node) = some content →
      ∃ added, later.content? (archiveAt home run node) = some (content ++ added) := by
  have history := first.trans second
  have archived := history.archived settled writable meets
  obtain ⟨more, rfl⟩ := second.extends_record
  have archived' := first.archived settled
    (fun e hmem => writable e (mem_endings_append.2 (.inl hmem)))
    fun e hmem => meets e (mem_endings_append.2 (.inl hmem))
  refine ⟨archived, fun e hmem run node other => ?_, fun e hmem node listed => ?_,
    fun run node content held => archived'.grows archived held⟩
  · have silent := Ending.took_of_stranger other
    exact ⟨silent, Ending.received_of_not_took silent⟩
  · obtain ⟨started, slashless⟩ := history.started hmem
    have left := history.left settled
    rw [← (left.started _ started).2]
    exact left.place?_archive started (writable e hmem) listed (slashless node listed)


end Session

/-! ### A run that is ended twice -/

namespace Collector

/-- The monitor of the node takes the call. -/
def callEvents : List (Event Happening) :=
  [.advance 0 .begun, .advance 0 (.answer (.address (.ok "h"))),
    .advance 0 (.answer (.connected true)), .advance 0 (.answer (.reply (.ok ())))]

/-- It streams a chunk, and the task breaks down. -/
def cutEvents (x : ByteArray) : List (Event Happening) :=
  callEvents ++ [.advance 0 (.answer (.chunk x)), .crash 0 "lost", .join 0]

/-- It streams two chunks to the end. -/
def wholeEvents (x y : ByteArray) : List (Event Happening) :=
  callEvents ++ [.advance 0 (.answer (.chunk x)),
    .advance 0 (.answer (.chunk y)), .advance 0 (.answer .ended), .join 0]

/-- The call is taken, and the archive is open. -/
theorem collect_sample {r : CollectionRun} {w : World} {place : Location} (token : RunToken)
    (alone : r.participants.names = ["a"])
    (leads : w.tree.place? (Session.archivePath r.dir "a") = some place) :
    ∃ f, (sample.collect r token w).run (sample.endOperation r token) callEvents = some f ∧
      f.members = [⟨"a", .running (.attempting 1 (.receiving ⟨"a", ⟨"h", 8451⟩, none⟩
        ⟨Session.archivePath r.dir "a", place, 0, none⟩))⟩] ∧
      f.world.tree.place? (Session.archivePath r.dir "a") = some place ∧
      (f.world.tree.content? place).isSome = true := by
  obtain ⟨later, opened, filled⟩ := Transfer.start_of_place? leads
  have valid : Net.isServiceAddress (Endpoint.text ⟨"h", 8451⟩) = true := by decide +kernel
  have evaluated : ((sample.collect r token w).run (sample.endOperation r token) callEvents).map
      (fun f => (f.members, f.world.tree)) =
      some ([⟨"a", .running (.attempting 1 (.receiving ⟨"a", ⟨"h", 8451⟩, none⟩
        ⟨Session.archivePath r.dir "a", place, 0, none⟩))⟩], later) := by
    simp [callEvents, collect, endOperation, endWork, Work.fanOut, alone, FanOut.start,
      FanOut.spawnAll, FanOut.run, FanOut.apply, FanOut.setPhase, Task.step, Task.attempt,
      Attempt.start, Attempt.step, Attempt.replied, Job.path?, Dialing.start, Dialing.step,
      Dialing.resolved, Resolving.start, Resolving.step, sample, Session.monitors, Config.default,
      valid, opened]
  rw [Option.map_eq_some_iff] at evaluated
  obtain ⟨f, hf, heq⟩ := evaluated
  obtain ⟨members, rfl⟩ := Prod.mk.inj heq
  exact ⟨f, hf, members, filled.place? (Tree.isFileOrFree_of_place? leads) leads,
    by simp [filled.content?]⟩

/-- A run may be ended by a task that breaks down. -/
theorem endWith_cut {r : CollectionRun} {w : World} {place : Location} (token : RunToken)
    (x : ByteArray) (alone : r.participants.names = ["a"])
    (leads : w.tree.place? (Session.archivePath r.dir "a") = some place) :
    ∃ report w', sample.endWith r token (cutEvents x) w = some (report, w') := by
  obtain ⟨f, hf, members, leads', present⟩ := collect_sample token alone leads
  obtain ⟨content, next, -, chunk, -⟩ := Transfer.chunk_of_place?
    (t := ⟨Session.archivePath r.dir "a", place, 0, none⟩) rfl leads' present x
  have evaluated : ((sample.endWith r token (cutEvents x) w).isSome) = true := by
    unfold endWith cutEvents FanOut.run
    rw [FanOut.run] at hf
    rw [List.foldlM_append, hf]
    simp [FanOut.apply, members, FanOut.setPhase, endOperation, endWork, Work.fanOut, Task.step,
      Attempt.step, Attempt.received, chunk, FanOut.isOver, FanOut.Phase.isJoined]
  obtain ⟨⟨report, w'⟩, ended⟩ := Option.isSome_iff_exists.1 evaluated
  exact ⟨report, w', ended⟩

/-- A run may be ended by a whole stream. -/
theorem endWith_whole {r : CollectionRun} {w : World} {place : Location} (token : RunToken)
    (x y : ByteArray) (alone : r.participants.names = ["a"])
    (leads : w.tree.place? (Session.archivePath r.dir "a") = some place) :
    ∃ report w', sample.endWith r token (wholeEvents x y) w = some (report, w') := by
  obtain ⟨f, hf, members, leads', present⟩ := collect_sample token alone leads
  obtain ⟨content, next, -, chunk, filled⟩ := Transfer.chunk_of_place?
    (t := ⟨Session.archivePath r.dir "a", place, 0, none⟩) rfl leads' present x
  obtain ⟨content', last, -, chunk', -⟩ := Transfer.chunk_of_place?
    (t := ⟨Session.archivePath r.dir "a", place, UInt64.ofNat x.size, none⟩) rfl
    (filled.place? (Tree.isFileOrFree_of_place? leads') leads')
    (by simp [filled.content?]) y
  have evaluated : ((sample.endWith r token (wholeEvents x y) w).isSome) = true := by
    unfold endWith wholeEvents FanOut.run
    rw [FanOut.run] at hf
    rw [List.foldlM_append, hf]
    simp [FanOut.apply, members, FanOut.setPhase, endOperation, endWork, Work.fanOut, Task.step,
      Task.attempted, Attempt.step, Attempt.received, Attempt.succeed, chunk, chunk', Transfer.finish,
      FanOut.isOver, FanOut.Phase.isJoined]
  obtain ⟨⟨report, w'⟩, ended⟩ := Option.isSome_iff_exists.1 evaluated
  exact ⟨report, w', ended⟩

/-- What the monitor of the node does. -/
def streamingTwice : Conduct where
  address := .ok "h"
  pod := .error (.cluster "no pods")
  localPort := .error (.cluster "no pods")
  reached := true
  reply := .ok ()
  chunks := ["xy".toUTF8, "z".toUTF8]
  break? := none

theorem answers_streamingTwice : streamingTwice.answers sample.session.monitors =
    [.address (.ok "h"), .connected true, .reply (.ok ()), .chunk "xy".toUTF8, .chunk "z".toUTF8,
      .ended] := by
  have valid : Net.isServiceAddress (Endpoint.text ⟨"h", 8451⟩) = true := by decide +kernel
  simp [Conduct.answers, streamingTwice, sample, Session.monitors, Config.default,
    Conduct.answersAt, valid, Conduct.answersFrom, Conduct.answersToCall, Conduct.last]

theorem settled_sample : sample.session.Settled ["s"] sampleWorld.tree := by
  have there : sampleWorld.tree.find true "/s" = .ok (.found ["s"] .directory) :=
    Tree.find_of_straight? rfl true
  refine ⟨by rw [sample, Tree.directory?, there], fun q hq => .inr ⟨by simp, .inl ?_⟩⟩
  simpa [Tree.get?, sampleWorld] using hq

/-- A run on a single node is started. -/
theorem start_sample : ∃ r w', sample.startWith "r" 0 (.ok (.ofNames ["a"]))
      (callEvents ++ [.join 0]) sampleWorld = some (.ok r, w') ∧
    r.id = "r" ∧ r.participants.names = ["a"] := by
  have evaluated : (sample.startWith "r" 0 (.ok (.ofNames ["a"])) (callEvents ++ [.join 0])
      sampleWorld).map (fun x => x.1.toOption.map fun r => (r.id, r.participants.names)) =
        some (some ("r", ["a"])) := by
    simp only [startWith, prepare_sample]
    decide +kernel
  rw [Option.map_eq_some_iff] at evaluated
  obtain ⟨⟨result, w'⟩, started, hresult⟩ := evaluated
  cases result with
  | error _ => cases hresult
  | ok r =>
    obtain ⟨id, names⟩ := Prod.mk.inj (Option.some.inj hresult)
    exact ⟨r, w', started, id, names⟩

end Collector

namespace Session

open Collector

theorem archivable_sample {r : CollectionRun} (id : r.id = "r") (names : r.participants.names = ["a"]) :
    sample.session.Archivable ["s"] sampleWorld.tree r := by
  intro node hmem
  rw [names, List.mem_singleton] at hmem
  subst hmem
  rw [id]
  refine ⟨by decide +kernel, ?_⟩
  simp [archiveAt, Tree.get?, sampleWorld]

/-- Once a run on a single node is started, the path of its archive leads there. -/
theorem place?_sample {r : CollectionRun} {w : World}
    (started : sample.startWith "r" 0 (.ok (.ofNames ["a"])) (callEvents ++ [.join 0]) sampleWorld =
      some (.ok r, w)) (id : r.id = "r") (names : r.participants.names = ["a"]) :
    w.tree.place? (archivePath r.dir "a") = some (archiveAt ["s"] r.id "a") := by
  have left := (History.nil.concat (.starts rfl started)).left settled_sample
  refine left.place?_archive (r := r) ?_ (archivable_sample id names)
    (names ▸ List.mem_singleton_self _) (by decide +kernel)
  simp [Deed.ofStart]

/-- A run of one node is started, and ended twice; the first time, the task breaks down. -/
theorem history_of_two_ends : ∃ r report report' later, r.id = "r" ∧ r.participants.names = ["a"] ∧
    sample.session.History [] sampleWorld.tree
      [.made "r", .started r, .ended ⟨sample.session.monitors, r, cutEvents "xy".toUTF8, report⟩,
        .ended ⟨sample.session.monitors, r, wholeEvents "xy".toUTF8 "z".toUTF8, report'⟩] later := by
  obtain ⟨r, w₁, started, id, names⟩ := start_sample
  have made : (sample.session.runDir "r" sampleWorld.tree).1 = .ok "/s/r" := by
    have prepared := prepare_sample
    unfold prepare at prepared
    split at prepared
    · cases prepared
    · next heq =>
      cases prepared
      rw [heq]
  have slashless : ∀ node ∈ r.participants.names, '/' ∉ node.toList := by
    rw [names]
    decide +kernel
  have history : sample.session.History [] sampleWorld.tree [.made "r", .started r] w₁.tree := by
    have act : Acts sample.session [] _ _ _ := Acts.starts rfl started
    rw [made] at act
    exact History.nil.concat act
  have leads : ∀ {deeds : List Deed} {tree : Tree},
      sample.session.History [] sampleWorld.tree deeds tree → Deed.started r ∈ deeds →
      tree.place? (archivePath r.dir "a") = some (archiveAt ["s"] r.id "a") := by
    intro deeds tree history hmem
    refine (history.left settled_sample).place?_archive hmem
      (archivable_sample id names) ?_ ?_
    · rw [names]
      exact List.mem_singleton_self _
    · decide +kernel
  obtain ⟨report, w₂, ended⟩ := endWith_cut 0 "xy".toUTF8 names (leads history (by simp))
  have history := history.concat (.ends rfl (by simp) slashless ended)
  obtain ⟨report', w₃, ended'⟩ :=
    endWith_whole 0 "xy".toUTF8 "z".toUTF8 names (leads history (by simp))
  exact ⟨r, report, report', w₃.tree, id, names,
    history.concat (.ends rfl (by simp) slashless ended')⟩

/-- What was received at both ends is in the archive, in order. -/
theorem archive_of_two_ends : ∃ r deeds later, sample.session.History [] sampleWorld.tree deeds later ∧
    (endings deeds).map (·.run) = [r, r] ∧
    later.content? (archiveAt ["s"] "r" "a") = some "xyxyz".toUTF8 := by
  obtain ⟨r, report, report', later, id, names, history⟩ := history_of_two_ends
  have meets : ∀ events, heard 0 events <+: streamingTwice.answers sample.session.monitors →
      Meets sample.session.monitors (fun _ => streamingTwice) r.participants.names events := by
    intro events first i node hi
    rw [names] at hi
    obtain ⟨rfl, rfl⟩ : i = 0 ∧ node = "a" := by simpa [List.getElem?_singleton, eq_comm] using hi
    exact first
  have took : ∀ events report, (⟨sample.session.monitors, r, events, report⟩ : Ending).took "r" "a" =
      (heard 0 events).any Answer.isTaken := by
    simp [Ending.took, Ending.heard, id, names]
  have received : ∀ events report, (⟨sample.session.monitors, r, events, report⟩ : Ending).received
      "r" "a" = chunksOf (heard 0 events) := by
    simp [Ending.received, Ending.heard, id, names]
  have archived : Archived ["s"] (fun _ _ => streamingTwice) _ _ _ :=
    (archives_of_history settled_sample .nil history ?_ ?_).1
  · refine ⟨r, _, later, history, rfl, ?_⟩
    rw [archived.content]
    simp only [endings, List.filterMap, List.any_cons, List.any_nil, List.flatMap_cons,
      List.flatMap_nil, took, received]
    decide +kernel
  · intro e hmem
    have ends : e.run = r := by
      rcases (by simpa [endings] using hmem : e = _ ∨ e = _) with rfl | rfl <;> rfl
    exact ends ▸ archivable_sample id names
  · intro e hmem
    rcases (by simpa [endings] using hmem : e = _ ∨ e = _) with rfl | rfl
    · exact meets _ ⟨[.chunk "z".toUTF8, .ended], answers_streamingTwice.symm⟩
    · exact meets _ ⟨[], answers_streamingTwice.symm⟩

end Session

end MonitorFleet
