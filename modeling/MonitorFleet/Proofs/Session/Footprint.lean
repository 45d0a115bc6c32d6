import MonitorFleet.Proofs.Collection.Archives

/-!
# What an operation on a session may touch

Each operation has files of its own in the directory of the session, and leaves everything else in the
tree as it was, inside the directory and outside of it. It does not matter whether it succeeds, fails
or is cancelled, at which moment that happens, nor what the ids of runs and the names of nodes are, as
long as they go nowhere else. Files that are appended to keep what was in them.

No link may be in the directory; where its own path leads through links makes no difference.

## What is proved

* `Footprint.Leaves`: what it means that nothing but a footprint is left behind.
* `Operates.leaves`: it is so of every operation.
-/

namespace MonitorFleet

open FanOut (Event)
open MonitorFleet.Tree (Filled Grows Made Written)

namespace Session

/-- What an operation may touch, by names from the directory of the session on. -/
inductive Footprint where
  | nothing
  /-- A directory may be made. -/
  | directory (name : String)
  /-- An empty file may be made where nothing stands. -/
  | creates (file : String)
  /-- Files may be made, and be added to. -/
  | appends (files : List Location)
  /-- The content of a file may be replaced. -/
  | replaces (file : String)

/-- Whether nothing but a footprint is left in a tree that was another one before. What is written
nowhere has the same entries. -/
def Footprint.Leaves (home : Location) (tree later : Tree) : Footprint → Prop
  | nothing => later = tree
  | directory name => Written (fun _ => False) tree later ∨ Made (home ++ [name]) tree later
  | creates file => later = tree ∨ tree.get? (home ++ [file]) = none ∧
      Filled tree later (home ++ [file]) .empty
  | appends files => Written (fun q => ∃ file ∈ files, q = home ++ file) tree later ∧ Grows tree later
  | replaces file => Written (· = home ++ [file]) tree later

/-- The operations on a session, with what they may touch. The cluster and the monitors may answer
anything, and the tree is looked at whenever a fan-out may be: it need not be over. -/
inductive Operates (s : Session) : Tree → Footprint → Tree → Prop where
  /-- A session is opened, which gives no other tree. -/
  | opens {id base : String} {tree : Tree} {result : Except Error Session}
      (opened : Session.open id base tree = result) : Operates s tree .nothing tree
  /-- The directory of a run is made, or is refused. -/
  | makes {run : String} {tree later : Tree} {result : Except Error String}
      (made : s.runDir run tree = (result, later)) : Operates s tree (.directory run) later
  /-- A run is about to be started, but its id or the cluster is against it. -/
  | prepares {secs : UInt32} {run : String} {w w' : World} {result : Except Error String}
      (prepared : Collector.prepare ⟨s, secs⟩ run w = (result, w')) :
      Operates s w.tree (.directory run) w'.tree
  /-- A run is started on nodes. -/
  | starts {secs : UInt32} {run dir : String} {token : RunToken} {nodes : NameSet}
      {events : List (Event Happening)} {w w' : World} {f : FanOut World Task}
      (prepared : Collector.prepare ⟨s, secs⟩ run w = (.ok dir, w'))
      (ran : (Collector.launch ⟨s, secs⟩ run token nodes w').run
        (Collector.startOperation ⟨s, secs⟩ run token) events = some f) :
      Operates s w.tree (.directory run) f.world.tree
  /-- A run is ended whose directory was made at some time before. -/
  | ends {secs : UInt32} {r : CollectionRun} {token : RunToken} {events : List (Event Happening)}
      {w : World} {f : FanOut World Task} {before made : Tree}
      (accepted : s.runDir r.id before = (.ok r.dir, made))
      (slashless : ∀ node ∈ r.participants.names, '/' ∉ node.toList)
      (ran : (Collector.collect ⟨s, secs⟩ r token w).run
        (Collector.endOperation ⟨s, secs⟩ r token) events = some f) :
      Operates s w.tree (.appends (r.participants.names.map fun node => [r.id, archiveName node]))
        f.world.tree
  /-- The system information of all nodes is asked for, but the cluster does not list them. -/
  | unlisted {w : World} : Operates s w.tree (.appends []) (SystemInfo.prepare w).tree
  /-- The system information of all nodes is fetched. -/
  | fetchesAll {policy : RetryPolicy} {token : RunToken} {nodes : List NodeAddress}
      {events : List (Event Happening)} {w : World} {f : FanOut World Task}
      (slashless : ∀ node ∈ nodes, '/' ∉ node.name.toList)
      (ran : (SystemInfo.launch ⟨s, policy⟩ token nodes (SystemInfo.prepare w)).run
        (SystemInfo.operation ⟨s, policy⟩ token) events = some f) :
      Operates s w.tree (.appends (nodes.map fun node => [sysinfoName node.name])) f.world.tree
  /-- The system information of one node is fetched. -/
  | fetchesOne {node : String} {token : RunToken} {events : List (Option Happening)} {w w' : World}
      {result : Except Error UInt64} (slashless : '/' ∉ node.toList)
      (ran : Task.runWith (SystemInfo.singleWork s token) node events
        (Task.attempt (SystemInfo.singleWork s token) node 1 w).1
        (Task.attempt (SystemInfo.singleWork s token) node 1 w).2 = some (result, w')) :
      Operates s w.tree (.appends [[sysinfoName node]]) w'.tree
  /-- The log is opened. -/
  | logs {tree later : Tree} {result : Except Error Location}
      (opened : s.openLog tree = (result, later)) : Operates s tree (.creates "session.log") later
  /-- The manifest is written. -/
  | writes {tree later : Tree} {result : Except Error String}
      (wrote : s.writeManifest tree = (result, later)) :
      Operates s tree (.replaces "monitor.yaml") later
  /-- Settings are saved. -/
  | saves {config : Config} {tree later : Tree} {result : Except Error Unit}
      (saved : config.save s.dir tree = (result, later)) :
      Operates s tree (.replaces "config.json") later

variable {s : Session} {home : Location} {tree later mid : Tree} {run : String}

/-! ### Directories -/

/-- Writing makes no link. -/
theorem Unlinked.written (h : s.Unlinked home tree) {places : Location → Prop}
    (written : Written places tree later) : s.Unlinked home later where
  leads := written.keeps.directory? h.leads
  links q target hq hlink := by
    rcases written.get? (home ++ q) with same | ⟨-, -, content, file⟩
    · exact h.links q target hq (same ▸ hlink)
    · rw [hlink] at file
      cases file

theorem made_written {place : Location} (made : Made place tree mid)
    (kept : Written (fun _ => False) mid later) : Made place tree later where
  current := kept.current.trans made.current
  self := (kept.get?_of_not not_false).trans made.self
  before := made.before
  others q hq := (kept.get?_of_not not_false).trans (made.others q hq)

/-- Making the directory of a run touches nothing else. -/
theorem leaves_runDir (leads : tree.directory? s.dir = some home) {result : Except Error String}
    (made : s.runDir run tree = (result, later)) :
    (Footprint.directory run).Leaves home tree later := by
  unfold runDir at made
  cases valid : isValidRun run with
  | false =>
    rw [valid] at made
    cases made
    exact .inl (.refl _ _)
  | true =>
    simp only [valid, Bool.not_true, Bool.false_eq_true, if_false] at made
    rcases Tree.makeDirectories_join leads (isName_of_isValidRun valid) with
      ⟨-, free, hmake⟩ | ⟨-, fault, hmake⟩
    · rw [hmake] at made
      cases made
      exact .inr (Tree.made_put (by simp) free)
    · rw [hmake] at made
      cases there : tree.isDirectory (Path.join s.dir run) <;> rw [there] at made <;> cases made <;>
        exact .inl (.refl _ _)

/-- What a run is made with. -/
theorem accepted_of_runDir {dir : String} (h : s.runDir run tree = (.ok dir, later)) :
    isValidRun run = true ∧ dir = Path.join s.dir run := by
  unfold runDir at h
  cases valid : isValidRun run with
  | false => simp [valid] at h
  | true =>
    simp only [valid, Bool.not_true, Bool.false_eq_true, if_false] at h
    split at h
    · cases h
    · cases h
      exact ⟨rfl, rfl⟩

theorem runDir_of_prepare {c : Collector} {w w' : World} {result : Except Error String}
    (prepared : c.prepare run w = (result, w')) :
    c.session.runDir run w.tree = (result, w'.tree) := by
  unfold Collector.prepare at prepared
  split at prepared <;> cases prepared <;> assumption

theorem leaves_prepare {c : Collector} {w w' : World} {result : Except Error String}
    (leads : w.tree.directory? c.session.dir = some home)
    (prepared : c.prepare run w = (result, w')) :
    (Footprint.directory run).Leaves home w.tree w'.tree :=
  leaves_runDir leads (runDir_of_prepare prepared)

theorem written_of_launch {c : Collector} {token : RunToken} {nodes : NameSet}
    {events : List (Event Happening)} {w : World} {f : FanOut World Task}
    (ran : (c.launch run token nodes w).run (c.startOperation run token) events = some f) :
    Written (fun _ => False) w.tree f.world.tree := by
  have kept : Written (fun _ => False) _ _ :=
    Work.written_of_run ran fun _ _ _ _ _ _ _ path => by cases path
  exact kept

/-- A run that is started on its nodes makes its directory and touches nothing else. -/
theorem leaves_launch {c : Collector} {token : RunToken} {nodes : NameSet}
    {events : List (Event Happening)} {w w' : World} {f : FanOut World Task}
    {result : Except Error String} (leads : w.tree.directory? c.session.dir = some home)
    (prepared : c.prepare run w = (result, w'))
    (ran : (c.launch run token nodes w').run (c.startOperation run token) events = some f) :
    (Footprint.directory run).Leaves home w.tree f.world.tree := by
  have kept := written_of_launch ran
  rcases leaves_prepare leads prepared with unmade | made
  · exact .inl (unmade.trans kept)
  · exact .inr (made_written made kept)

/-! ### Files -/

theorem Unlinked.opensIn_sysinfo (h : s.Unlinked home tree) {node : String}
    (slashless : '/' ∉ node.toList) {files : List Location} (listed : [sysinfoName node] ∈ files) :
    (SystemInfo.job s node).OpensIn (fun q => ∃ file ∈ files, q = home ++ file) tree := by
  intro path place opened hpath hopen
  cases hpath
  exact ⟨_, listed, h.opens (isName_sysinfoName slashless) hopen⟩

/-- An archive of a run is opened where it belongs. -/
theorem Unlinked.opensIn_archive (h : s.Unlinked home tree) {node dir : String}
    (valid : isValidRun run = true) (joined : dir = Path.join s.dir run)
    (slashless : '/' ∉ node.toList) {files : List Location}
    (listed : [run, archiveName node] ∈ files) :
    (Job.fetchResults run (archivePath dir node)).OpensIn
      (fun q => ∃ file ∈ files, q = home ++ file) tree := by
  intro path place opened hpath hopen
  cases hpath
  rw [joined] at hopen
  have links : ∀ target, tree.get? (home ++ [run] ++ [archiveName node]) ≠ some (.link target) := by
    intro target
    rw [List.append_assoc]
    exact h.links _ target (by simp)
  have heq := Tree.eq_of_openFile_join_join h.leads (isName_of_isValidRun valid)
    (isName_archiveName slashless) (h.link_ne run) links hopen
  rw [List.append_assoc] at heq
  exact ⟨_, listed, heq⟩

theorem Unlinked.written_of_write (h : s.Unlinked home tree) {name : String}
    (proper : Path.IsName name) {bytes : ByteArray} {result : Except Fault Unit}
    (wrote : tree.write (Path.join s.dir name) bytes = (result, later)) :
    Written (· = home ++ [name]) tree later := by
  rcases Tree.written_of_write wrote with rfl | ⟨place, opened, hopen, written⟩
  · exact .refl _ _
  · exact written.mono fun q hq => hq.trans (h.opens proper hopen)

/-- Opening the log makes it at most, and adds nothing to it. -/
theorem Unlinked.leaves_openLog (h : s.Unlinked home tree) {result : Except Error Location}
    (opened : s.openLog tree = (result, later)) :
    (Footprint.creates "session.log").Leaves home tree later := by
  unfold openLog at opened
  split at opened <;> cases opened
  · exact .inl rfl
  · next place hopen =>
    obtain rfl := h.opens isName_log hopen
    exact (Tree.created_of_openFile hopen).imp_right And.right

/-- Writing the manifest touches nothing but the manifest. -/
theorem Unlinked.leaves_writeManifest (h : s.Unlinked home tree) {result : Except Error String}
    (wrote : s.writeManifest tree = (result, later)) :
    (Footprint.replaces "monitor.yaml").Leaves home tree later := by
  unfold writeManifest at wrote
  split at wrote
  · cases wrote
    exact .refl _ _
  · split at wrote <;> cases wrote
    · next hwrite => exact h.written_of_write isName_manifest hwrite
    · next hwrite => exact h.written_of_write isName_manifest hwrite

/-- Saving settings touches nothing but the file of the settings. -/
theorem Unlinked.leaves_save (h : s.Unlinked home tree) {config : Config}
    {result : Except Error Unit} (saved : config.save s.dir tree = (result, later)) :
    (Footprint.replaces "config.json").Leaves home tree later := by
  unfold Config.save at saved
  split at saved <;> cases saved
  · next hwrite => exact h.written_of_write isName_config hwrite
  · next hwrite => exact h.written_of_write isName_config hwrite

/-! ### Operations -/

/-- **An operation touches nothing but its footprint.** -/
theorem Operates.leaves {footprint : Footprint} (h : s.Unlinked home tree)
    (operates : s.Operates tree footprint later) : footprint.Leaves home tree later := by
  cases operates with
  | opens _ => exact rfl
  | makes made => exact leaves_runDir h.leads made
  | @prepares secs _ _ _ _ prepared => exact leaves_prepare (c := ⟨s, secs⟩) h.leads prepared
  | @starts secs _ _ _ _ _ _ _ _ prepared ran =>
    exact leaves_launch (c := ⟨s, secs⟩) h.leads prepared ran
  | @ends _ r _ _ w f _ _ accepted slashless ran =>
    obtain ⟨valid, dir⟩ := accepted_of_runDir accepted
    exact ⟨Work.written_of_run ran fun node hmem tree written =>
      (h.written written).opensIn_archive valid dir (slashless node hmem) (List.mem_map_of_mem hmem),
      Work.grows_of_run ran⟩
  | unlisted => exact ⟨.refl _ _, .refl _⟩
  | @fetchesAll policy token nodes events w f slashless ran =>
    obtain ⟨w₀, hlaunch, begins⟩ := SystemInfo.begins_of_launch ⟨s, policy⟩ token nodes w
    rw [hlaunch] at ran
    rw [← begins.tree] at h ⊢
    refine ⟨Work.written_of_run ran fun node hmem tree written => ?_, Work.grows_of_run ran⟩
    obtain ⟨n, hn, rfl⟩ := List.mem_map.1 hmem
    exact (h.written written).opensIn_sysinfo (slashless n hn)
      (List.mem_map.2 ⟨n, hn, rfl⟩)
  | @fetchesOne node token events w w' result slashless ran =>
    rw [← Task.tree_attempt (SystemInfo.singleWork s token) node 1 w] at h ⊢
    exact ⟨Task.written_of_runWith ran (Task.streamsTo_attempt ..) fun tree written =>
      (h.written written).opensIn_sysinfo slashless (List.mem_singleton_self _),
      Task.grows_of_runWith ran⟩
  | logs opened => exact h.leaves_openLog opened
  | writes wrote => exact h.leaves_writeManifest wrote
  | saves saved => exact h.leaves_save saved

open Collector in
/-- A run of one node is ended by a task that breaks down in mid-stream, and adds to the archive of the
node alone. -/
theorem leaves_of_cut : ∃ r w w' report, r.id = "r" ∧ r.participants.names = ["a"] ∧
    sample.endWith r 0 (cutEvents "xy".toUTF8) w = some (report, w') ∧
    sample.session.Unlinked ["s"] w.tree ∧
    (Footprint.appends [["r", "perf-a.tar.bz2"]]).Leaves ["s"] w.tree w'.tree := by
  obtain ⟨r, w, started, id, names⟩ := start_sample
  obtain ⟨dir, _, w₁, f, prepared, -, -, -, heq⟩ := startWith_ok started
  obtain rfl : r.dir = dir := congrArg (fun x => x.1.dir) heq
  have left := (History.nil.concat (.starts rfl started)).left settled_sample
  have slashless : ∀ node ∈ r.participants.names, '/' ∉ node.toList := by
    rw [names]
    decide +kernel
  obtain ⟨report, w', ended⟩ := endWith_cut 0 "xy".toUTF8 names (place?_sample started id names)
  obtain ⟨f', ran, -, heq'⟩ := endWith_some ended
  obtain ⟨rfl, rfl⟩ := Prod.mk.inj heq'
  have operates : sample.session.Operates w.tree _ (Collector.ended r f').2.tree :=
    .ends (id ▸ runDir_of_prepare prepared) slashless ran
  have leaves := Operates.leaves left.settled.unlinked operates
  rw [names, id] at leaves
  exact ⟨r, w, _, _, id, names, ended, left.settled.unlinked, leaves⟩

end Session

end MonitorFleet
