import MonitorFleet.Proofs.Collection.Operations
import MonitorFleet.Proofs.Session.Directory
import MonitorFleet.Proofs.SystemInfo.Retrieval
import MonitorFleet.Proofs.Task.Writing

/-!
# Histories of a session

All that is done on a session is done one operation after the other, each of which may succeed or
fail, with whatever the cluster and the monitors answer. `Session.Acts` lists the operations that can
change files (to open a session only reads), and `Session.History` puts them in a row. On record are
the deeds by which later ones can be told: the directories of runs, the runs that were started, and
the ends of runs.

What an operation does to the tree is one of three things (`Effect`), and from these follows what a
whole history leaves (`Left`).

## What is proved

* `Acts.effect`: what one operation does.
* `History.left`: what a history leaves where it was.
-/

namespace MonitorFleet

open FanOut (Event)
open MonitorFleet.Tree (Made Written)

/-- What happened while the results of a run were fetched. -/
structure Ending where
  /-- How the monitors were reached. -/
  monitors : Monitors
  run : CollectionRun
  events : List (Event Happening)
  report : Report

/-- What is put on record of the operations on a session. -/
inductive Deed where
  /-- The directory of a run was made, or was there. -/
  | made (run : String)
  /-- A run was started. -/
  | started (run : CollectionRun)
  /-- The results of a run were fetched. -/
  | ended (ending : Ending)

/-- The record of making the directory of a run. -/
def Deed.ofDir (run : String) : Except Error String → List Deed
  | .ok _ => [made run]
  | .error _ => []

/-- The record of starting a run. -/
def Deed.ofStart : Except Error CollectionRun → List Deed
  | .ok r => [started r]
  | .error _ => []

namespace Session

/-! ### Operations -/

/-- The operations on the files of a session, given what is on record before. A session is known
by its directory; how its monitors are reached and its settings may differ from one operation to the
next. The names of nodes have no slash. -/
inductive Acts (s : Session) (before : List Deed) : Tree → List Deed → Tree → Prop where
  /-- The log is opened, and bytes are added to it. -/
  | logs {s' : Session} {tree opened later : Tree} {place : Location} {bytes : ByteArray}
      (same : s'.dir = s.dir) (opens : s'.openLog tree = (.ok place, opened))
      (appends : opened.append place bytes = .ok later) : Acts s before tree [] later
  /-- The log cannot be opened. -/
  | unlogged {s' : Session} {tree later : Tree} {error : Error} (same : s'.dir = s.dir)
      (refused : s'.openLog tree = (.error error, later)) : Acts s before tree [] later
  /-- The directory of a run is made. -/
  | makes {s' : Session} {tree later : Tree} {run : String} {result : Except Error String}
      (same : s'.dir = s.dir) (made : s'.runDir run tree = (result, later)) :
      Acts s before tree (Deed.ofDir run result) later
  /-- A run is started. -/
  | starts {c : Collector} {run : String} {token : RunToken} {answer : Except Error NameSet}
      {events : List (Event Happening)} {w w' : World} {result : Except Error CollectionRun}
      (same : c.session.dir = s.dir)
      (started : c.startWith run token answer events w = some (result, w')) :
      Acts s before w.tree
        (Deed.ofDir run (c.session.runDir run w.tree).1 ++ Deed.ofStart result) w'.tree
  /-- A run that was started is ended. -/
  | ends {c : Collector} {r : CollectionRun} {token : RunToken} {events : List (Event Happening)}
      {w w' : World} {report : Report} (same : c.session.dir = s.dir)
      (known : Deed.started r ∈ before) (slashless : ∀ node ∈ r.participants.names, '/' ∉ node.toList)
      (ended : c.endWith r token events w = some (report, w')) :
      Acts s before w.tree [.ended ⟨c.session.monitors, r, events, report⟩] w'.tree
  /-- The system information of all nodes is fetched. -/
  | fetchesAll {i : SystemInfo} {token : RunToken} {nodes : List NodeAddress}
      {events : List (Event Happening)} {w : World} {f : FanOut World Task}
      (same : i.session.dir = s.dir) (slashless : ∀ node ∈ nodes, '/' ∉ node.name.toList)
      (ran : (i.launch token nodes (SystemInfo.prepare w)).run (i.operation token) events = some f) :
      Acts s before w.tree [] (SystemInfo.finished f).2.tree
  /-- The system information of one node is fetched. -/
  | fetchesOne {s' : Session} {node : String} {token : RunToken} {events : List (Option Happening)}
      {w w' : World} {result : Except Error UInt64} (same : s'.dir = s.dir)
      (slashless : '/' ∉ node.toList)
      (ran : Task.runWith (SystemInfo.singleWork s' token) node events
        (Task.attempt (SystemInfo.singleWork s' token) node 1 w).1
        (Task.attempt (SystemInfo.singleWork s' token) node 1 w).2 = some (result, w')) :
      Acts s before w.tree [] w'.tree
  /-- The manifest is written. -/
  | writes {s' : Session} {tree later : Tree} {result : Except Error String} (same : s'.dir = s.dir)
      (wrote : s'.writeManifest tree = (result, later)) : Acts s before tree [] later

/-- What was done on a session, one operation after the other, from a tree on, with the record from
then. -/
inductive History (s : Session) (before : List Deed) (tree : Tree) : List Deed → Tree → Prop where
  /-- Nothing was done. -/
  | nil : History s before tree before tree
  /-- One more operation was carried out. -/
  | concat {deeds more : List Deed} {mid later : Tree} (h : History s before tree deeds mid)
      (act : Acts s deeds mid more later) : History s before tree (deeds ++ more) later

theorem History.trans {s : Session} {before deeds all : List Deed} {tree mid later : Tree}
    (h : s.History before tree deeds mid) (h' : s.History deeds mid all later) :
    s.History before tree all later := by
  induction h' with
  | nil => exact h
  | concat _ act ih => exact ih.concat act

theorem History.extends_record {s : Session} {before deeds : List Deed} {tree later : Tree}
    (h : s.History before tree deeds later) : before <+: deeds := by
  induction h with
  | nil => exact List.prefix_refl _
  | concat _ _ ih => exact ih.trans (List.prefix_append ..)

/-! ### Effects -/

/-- The locations of the files that the session writes in its own directory. -/
def OwnFile (home : Location) (q : Location) : Prop :=
  q = home ++ ["session.log"] ∨ q = home ++ ["monitor.yaml"] ∨
    ∃ node, q = home ++ [sysinfoName node]

/-- The location of the archive of a node, in the directory of a run. -/
def archiveAt (home : Location) (run node : String) : Location := home ++ [run] ++ [archiveName node]

/-- What an operation does to the tree, with its record. -/
inductive Effect (s : Session) (home : Location) (tree later : Tree) : List Deed → Prop where
  /-- The directory of a run is made. -/
  | made {run : String} {mid : Tree} {more : List Deed} (valid : isValidRun run = true)
      (fits : Tree.Fits s.dir run) (made : Made (home ++ [run]) tree mid)
      (kept : Written (fun _ => False) mid later)
      (record : more = [] ∨ ∃ r : CollectionRun,
        more = [.started r] ∧ r.id = run ∧ r.dir = Path.join s.dir run) :
      Effect s home tree later (.made run :: more)
  /-- Files of the session are written. -/
  | wrote (written : Written (OwnFile home) tree later) : Effect s home tree later []
  /-- Archives of a run are written. -/
  | ended {e : Ending}
      (written : Written (fun q => ∃ node ∈ e.run.participants.names,
        q = archiveAt home e.run.id node) tree later) : Effect s home tree later [.ended e]

variable {s s' : Session} {home : Location} {tree later mid : Tree} {before deeds more : List Deed}

theorem runDir_congr (same : s'.dir = s.dir) (run : String) (tree : Tree) :
    s'.runDir run tree = s.runDir run tree := by
  rw [runDir, runDir, same]

theorem Settled.congr (h : s.Settled home tree) (same : s'.dir = s.dir) : s'.Settled home tree :=
  ⟨same ▸ h.leads, h.regular⟩

theorem effect_same : Effect s home tree tree [] := .wrote (.refl _ _)

/-- Making the directory of a run, and nothing else. -/
theorem Settled.effect_runDir (h : s.Settled home tree) {run : String}
    {result : Except Error String} (hrun : s.runDir run tree = (result, later)) :
    Effect s home tree later (Deed.ofDir run result) := by
  rcases h.unlinked.runDir run with ⟨error, heq⟩ | ⟨valid, fits, mid, heq, made⟩
  · rw [hrun] at heq
    cases heq
    exact effect_same
  · rw [hrun] at heq
    cases heq
    exact .made valid fits made (.refl _ _) (.inl rfl)

/-- Starting a run makes its directory, and writes no file. -/
theorem Settled.effect_startWith {c : Collector} {run : String} {token : RunToken}
    {answer : Except Error NameSet} {events : List (Event Happening)} {w w' : World}
    {result : Except Error CollectionRun} (h : s.Settled home w.tree)
    (same : c.session.dir = s.dir)
    (started : c.startWith run token answer events w = some (result, w')) :
    Effect s home w.tree w'.tree
      (Deed.ofDir run (c.session.runDir run w.tree).1 ++ Deed.ofStart result) := by
  unfold Collector.startWith Collector.prepare at started
  rcases (h.congr same).unlinked.runDir run with ⟨error, heq⟩ | ⟨valid, fits, mid, heq, made⟩
  · rw [heq] at started ⊢
    cases started
    exact effect_same
  · rw [heq] at started ⊢
    rw [same] at fits started
    dsimp only at started
    split at started
    · cases started
      exact .made valid fits made (.refl _ _) (.inl rfl)
    · next nodes =>
      split at started
      · cases started
      · next f hf =>
        split at started
        · cases started
          -- To tell the monitors to start opens no file.
          have kept : Written (fun _ => False) mid f.world.tree :=
            Work.written_of_run hf fun _ _ _ _ _ _ _ path => by cases path
          exact .made valid fits made kept (.inr ⟨_, rfl, rfl, rfl⟩)
        · cases started

/-- Ending a run that was started writes archives of the run. -/
theorem Settled.effect_endWith {c : Collector} {r : CollectionRun} {token : RunToken}
    {events : List (Event Happening)} {w w' : World} {report : Report}
    (h : s.Settled home w.tree) (valid : isValidRun r.id = true) (fits : Tree.Fits s.dir r.id)
    (stands : w.tree.get? (home ++ [r.id]) = some .directory) (dir : r.dir = Path.join s.dir r.id)
    (slashless : ∀ node ∈ r.participants.names, '/' ∉ node.toList)
    (ended : c.endWith r token events w = some (report, w')) :
    Written (fun q => ∃ node ∈ r.participants.names, q = archiveAt home r.id node)
      w.tree w'.tree := by
  obtain ⟨f, hf, -, heq⟩ := Collector.endWith_some ended
  cases heq
  refine Work.written_of_run hf fun node hmem tree written path place opened hpath hopen => ?_
  cases hpath
  have settled := h.written written
  have leads := settled.directory?_run valid fits (written.keeps.directory _ stands)
  rw [dir] at hopen
  exact ⟨node, hmem, Tree.eq_of_openFile_join leads (isName_archiveName (slashless node hmem))
    (settled.isRegular_in r.id (archiveName node)).unlinked hopen⟩

theorem Settled.opensIn_sysinfo (h : s.Settled home tree) (same : s'.dir = s.dir) {node : String}
    (slashless : '/' ∉ node.toList) :
    (SystemInfo.job s' node).OpensIn (OwnFile home) tree := by
  intro path place opened hpath hopen
  cases hpath
  exact .inr (.inr ⟨node, (h.congr same).unlinked.opens (isName_sysinfoName slashless) hopen⟩)

/-- What an operation does to the tree, if the directory of the session is as it should be. -/
theorem Acts.effect (h : s.Settled home tree)
    (known : ∀ r, Deed.started r ∈ before → isValidRun r.id = true ∧ Tree.Fits s.dir r.id ∧
      tree.get? (home ++ [r.id]) = some .directory ∧ r.dir = Path.join s.dir r.id)
    (act : Acts s before tree more later) : Effect s home tree later more := by
  have own : ∀ {place : Location} {tree later : Tree}, OwnFile home place →
      Written (· = place) tree later → Effect s home tree later [] := by
    intro place tree later own written
    exact .wrote (written.mono fun q hq => hq ▸ own)
  cases act with
  | logs same opens appends =>
    unfold openLog at opens
    split at opens
    · cases opens
    · next hopen =>
      cases opens
      have place := (h.congr same).unlinked.opens isName_log hopen
      exact own (.inl place) ((Tree.written_of_openFile hopen).trans (Tree.written_of_append appends))
  | unlogged same refused =>
    unfold openLog at refused
    split at refused <;> cases refused
    exact effect_same
  | makes same made => exact h.effect_runDir (runDir_congr same .. ▸ made)
  | starts same started => exact h.effect_startWith same started
  | ends same known' slashless ended =>
    obtain ⟨valid, fits, stands, dir⟩ := known _ known'
    exact .ended (h.effect_endWith valid fits stands dir slashless ended)
  | @fetchesAll i token nodes events w f same slashless ran =>
    obtain ⟨w₀, hlaunch, begins⟩ := SystemInfo.begins_of_launch i token nodes w
    rw [hlaunch] at ran
    have written : Written (OwnFile home) w₀.tree f.world.tree := by
      refine Work.written_of_run ran fun node hmem tree written => ?_
      obtain ⟨n, hn, rfl⟩ := List.mem_map.1 hmem
      rw [begins.tree] at written
      exact (h.written written).opensIn_sysinfo same (slashless n hn)
    rw [begins.tree] at written
    exact .wrote written
  | @fetchesOne s' node token events w w' result same slashless ran =>
    have opens : ∀ tree, Written (OwnFile home) (Task.attempt (SystemInfo.singleWork s' token) node 1
        w).1.tree tree → ((SystemInfo.singleWork s' token).job node).OpensIn (OwnFile home) tree := by
      intro tree written
      rw [Task.tree_attempt] at written
      exact (h.written written).opensIn_sysinfo same slashless
    have written := Task.written_of_runWith ran (Task.streamsTo_attempt ..) opens
    rw [Task.tree_attempt] at written
    exact .wrote written
  | @writes s' tree later result same wrote =>
    unfold writeManifest at wrote
    split at wrote
    · cases wrote
      exact effect_same
    · next set _ =>
      have effect : ∀ {result : Except Fault Unit},
          tree.write s'.manifestPath set.document.write.toUTF8 = (result, later) →
          Effect s home tree later [] := by
        intro result hwrite
        rcases Tree.written_of_write hwrite with rfl | ⟨place, opened, hopen, written⟩
        · exact effect_same
        · exact own (.inr (.inl ((h.congr same).unlinked.opens isName_manifest hopen))) written
      split at wrote
      · next hwrite =>
        cases wrote
        exact effect hwrite
      · next hwrite =>
        cases wrote
        exact effect hwrite

/-! ### Along a history -/

/-- What a history leaves behind. -/
structure Left (s : Session) (home : Location) (tree : Tree) (deeds : List Deed) (later : Tree) :
    Prop where
  settled : s.Settled home later
  keeps : Tree.Keeps tree later
  /-- The directories of the runs on record are there. -/
  made : ∀ run, Deed.made run ∈ deeds → isValidRun run = true ∧ Tree.Fits s.dir run ∧
    later.get? (home ++ [run]) = some .directory
  /-- No other directories came to be. -/
  directory : ∀ q, later.get? q = some .directory → tree.get? q = some .directory ∨
    ∃ run, Deed.made run ∈ deeds ∧ q = home ++ [run]
  /-- The runs that were started have their directories. -/
  started : ∀ r, Deed.started r ∈ deeds → Deed.made r.id ∈ deeds ∧ r.dir = Path.join s.dir r.id
  /-- Other files than those of the session were not touched. -/
  files : ∀ q, ¬ OwnFile home q → (∀ run node, q ≠ archiveAt home run node) →
    later.content? q = tree.content? q

theorem left_self (h : s.Settled home tree) : Left s home tree [] tree where
  settled := h
  keeps := .refl tree
  made _ hmem := by cases hmem
  directory _ hget := .inl hget
  started _ hmem := by cases hmem
  files _ _ _ := rfl

/-- What is left when files were written. -/
theorem Left.written (h : Left s home tree deeds mid) {places : Location → Prop}
    (written : Written places mid later) (silent : ∀ d ∈ more, ∃ e, d = .ended e)
    (own : ∀ q, places q → OwnFile home q ∨ ∃ run node, q = archiveAt home run node) :
    Left s home tree (deeds ++ more) later where
  settled := h.settled.written written
  keeps := h.keeps.trans written.keeps
  made run hmem := by
    rcases List.mem_append.1 hmem with hmem | hmem
    · obtain ⟨valid, fits, stands⟩ := h.made run hmem
      exact ⟨valid, fits, written.keeps.directory _ stands⟩
    · obtain ⟨_, ⟨⟩⟩ := silent _ hmem
  directory q hget := by
    rcases h.directory q ((written.get?_eq_directory_iff q).1 hget) with before | ⟨run, hmem, hq⟩
    · exact .inl before
    · exact .inr ⟨run, List.mem_append_left _ hmem, hq⟩
  started r hmem := by
    rcases List.mem_append.1 hmem with hmem | hmem
    · obtain ⟨made, dir⟩ := h.started r hmem
      exact ⟨List.mem_append_left _ made, dir⟩
    · obtain ⟨_, ⟨⟩⟩ := silent _ hmem
  files q other apart := by
    rw [written.content?_of_not, h.files q other apart]
    intro hq
    rcases own q hq with hq | ⟨run, node, hq⟩
    · exact other hq
    · exact apart run node hq

/-- What is left when the directory of a run was made. -/
theorem Left.made_run (h : Left s home tree deeds mid) {run : String}
    (valid : isValidRun run = true) (fits : Tree.Fits s.dir run)
    (made : Made (home ++ [run]) mid later)
    (record : more = [] ∨ ∃ r : CollectionRun,
      more = [.started r] ∧ r.id = run ∧ r.dir = Path.join s.dir run) :
    Left s home tree (deeds ++ .made run :: more) later where
  settled := h.settled.made made
  keeps := h.keeps.trans made.keeps
  made run' hmem := by
    rcases List.mem_append.1 hmem with hmem | hmem
    · obtain ⟨valid, fits, stands⟩ := h.made run' hmem
      exact ⟨valid, fits, made.keeps.directory _ stands⟩
    · obtain rfl : run' = run := by
        rcases record with rfl | ⟨r, rfl, -⟩ <;> simpa using hmem
      exact ⟨valid, fits, made.self⟩
  directory q hget := by
    by_cases hq : q = home ++ [run]
    · exact .inr ⟨run, by simp, hq⟩
    · rw [made.others q hq] at hget
      rcases h.directory q hget with before | ⟨run', hmem, hq⟩
      · exact .inl before
      · exact .inr ⟨run', List.mem_append_left _ hmem, hq⟩
  started r hmem := by
    rcases List.mem_append.1 hmem with hmem | hmem
    · obtain ⟨made, dir⟩ := h.started r hmem
      exact ⟨List.mem_append_left _ made, dir⟩
    · rcases record with rfl | ⟨r', rfl, hid, hdir⟩
      · simp at hmem
      · obtain rfl : r = r' := by simpa using hmem
        rw [hid]
        exact ⟨by simp, hdir⟩
  files q other apart := by rw [made.content?, h.files q other apart]

/-- What is left after one more operation. -/
theorem Left.effect (h : Left s home tree deeds mid) (effect : Effect s home mid later more) :
    Left s home tree (deeds ++ more) later := by
  cases effect with
  | made valid fits made kept record =>
    have silent : ∀ d ∈ ([] : List Deed), ∃ e, d = .ended e := nofun
    have left := (h.made_run valid fits made record).written kept silent nofun
    rwa [List.append_nil] at left
  | wrote written => exact h.written written (by simp) fun q hq => .inl hq
  | @ended e written =>
    refine h.written written (by simp) fun q hq => ?_
    obtain ⟨node, -, hq⟩ := hq
    exact .inr ⟨e.run.id, node, hq⟩

theorem Left.known (h : Left s home tree deeds mid) (r : CollectionRun)
    (started : Deed.started r ∈ deeds) : isValidRun r.id = true ∧ Tree.Fits s.dir r.id ∧
      mid.get? (home ++ [r.id]) = some .directory ∧ r.dir = Path.join s.dir r.id := by
  obtain ⟨made, dir⟩ := h.started r started
  obtain ⟨valid, fits, stands⟩ := h.made r.id made
  exact ⟨valid, fits, stands, dir⟩

/-- **What every history leaves behind**, from a tree on in which the directory of the session is as
it should be. -/
theorem History.left (settled : s.Settled home tree) (h : s.History [] tree deeds later) :
    Left s home tree deeds later := by
  induction h with
  | nil => exact left_self settled
  | concat _ act ih => exact ih.effect (act.effect ih.settled ih.known)

end Session

end MonitorFleet
