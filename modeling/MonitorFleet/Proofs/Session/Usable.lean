import MonitorFleet.Proofs.Selector.Workload
import MonitorFleet.Proofs.Session.History

/-!
# When a session stays usable

A run may be given the name of a file that belongs to the session: then its directory stands where
the file should be, and the session cannot be opened, its log cannot be written or its manifest
cannot. Nothing else that is done on a session has such an effect, whatever the names of runs and
nodes are.

## What is proved

* `settled_of_init`: the directory of a new session, and that nothing is in it.
* `usable_iff`: what can be done on a session after any history.
* `unusable_of_run`: a run after which the session cannot be opened.
-/

namespace MonitorFleet

namespace Session

variable {s : Session} {home : Location} {id base : String} {random : UInt32}
  {tree later : Tree} {deeds : List Deed}

/-! ### New sessions -/

theorem isName_of_isValidId {id : String} (h : isValidId id = true) : Path.IsName id := by
  simp only [isValidId, Bool.and_eq_true, List.all_eq_true] at h
  obtain ⟨⟨⟨-, chars⟩, first⟩, -⟩ := h
  refine ⟨?_, ?_, ?_, fun slash => ?_⟩
  · rintro rfl
    exact absurd first (by decide)
  · rintro rfl
    exact absurd first (by decide)
  · rintro rfl
    exact absurd first (by decide)
  · exact absurd (chars _ slash) (by decide)

/-- The session that is made. -/
theorem eq_of_init (h : init id base random tree = (.ok s, later)) :
    s = ⟨s.id, Path.join base s.id, .direct, .default⟩ ∧ isValidId s.id = true ∧
      tree.isPresent s.dir = false ∧ tree.makeDirectories s.dir = (.ok (), later) := by
  unfold init at h
  generalize (if id = "" then generatedId random else id) = id' at h
  simp only [Bool.not_eq_true'] at h
  split at h
  · cases h
  · next valid =>
    split at h
    · cases h
    · next absent =>
      split at h
      · cases h
      · next made =>
        cases h
        exact ⟨rfl, by simpa using valid, by simpa using absent, made⟩

theorem isPresent_of_isDirectory {path : String} (h : tree.isDirectory path = true) :
    tree.isPresent path = true := by
  unfold Tree.isDirectory at h
  unfold Tree.isPresent
  cases hentry : tree.entryAt? path with
  | none => rw [hentry] at h; cases h
  | some entry => rfl

/-- The directory of a new session is empty, if the one above it is there or its path does not go
back up. -/
theorem settled_of_init (sound : tree.IsSound)
    (plain : tree.isDirectory base = true ∨ ".." ∉ Path.names base)
    (h : init id base random tree = (.ok s, later)) :
    ∃ home, s.Settled home later ∧ ∀ q, q ≠ [] → later.get? (home ++ q) = none := by
  obtain ⟨heq, valid, absent, made⟩ := eq_of_init h
  have dir : s.dir = Path.join base s.id := congrArg Session.dir heq
  rw [dir] at made absent
  cases Tree.founds_of_makeDirectories sound (isName_of_isValidId valid) plain made with
  | there leads =>
    rw [isPresent_of_isDirectory (Tree.isDirectory_iff.2 ⟨_, leads⟩)] at absent
    cases absent
  | @made _ home leads _ empty _ =>
    exact ⟨home, ⟨dir ▸ leads, fun q hq => .inr ⟨by simp [hq], .inl (empty q hq)⟩⟩, empty⟩

/-! ### What can be done -/

/-- The log can be opened unless a directory stands there. -/
theorem openLog_iff (settled : s.Settled home later) (fits : Tree.Fits s.dir "session.log") :
    (∃ place opened, s.openLog later = (.ok place, opened)) ↔
      ¬ later.get? (home ++ ["session.log"]) = some .directory := by
  unfold openLog logPath
  rcases Tree.openFile_join settled.leads isName_log (settled.isRegular _) with
    ⟨-, free, hplace⟩ | ⟨taken, fault, herror⟩
  · obtain ⟨opened, hopen, -⟩ := Tree.openFile_of_place? hplace
    exact iff_of_true ⟨_, _, by rw [hopen]⟩ free
  · refine iff_of_false ?_ fun free => taken ⟨fits, free⟩
    rintro ⟨_, _, h⟩
    rw [herror] at h
    cases h

/-- The manifest can be written unless a directory stands there. -/
theorem writeManifest_iff (settled : s.Settled home later) (obtained : s.Obtained)
    (fits : Tree.Fits s.dir "monitor.yaml") :
    (∃ written, s.writeManifest later = (.ok s.manifestPath, written)) ↔
      ¬ later.get? (home ++ ["monitor.yaml"]) = some .directory := by
  obtain ⟨key, value, label, -⟩ := obtained.monitorLabel
  obtain ⟨set, hset⟩ : ∃ set, s.daemonSet = .ok set := ⟨_, by rw [daemonSet, label]⟩
  unfold writeManifest manifestPath
  rw [hset]
  rcases Tree.openFile_join settled.leads isName_manifest (settled.isRegular _) with
    ⟨-, free, hplace⟩ | ⟨taken, fault, herror⟩
  · obtain ⟨written, hwrite, -⟩ := Tree.write_of_place? hplace set.document.write.toUTF8
    exact iff_of_true ⟨written, by simp only [hwrite]⟩ free
  · refine iff_of_false ?_ fun free => taken ⟨fits, free⟩
    rintro ⟨_, h⟩
    simp only [Tree.write, herror] at h
    cases h

/-- The session can be opened if nothing stands where its settings' file would, and not if a directory
does. -/
theorem open_iff (settled : s.Settled home later) (valid : isValidId s.id = true)
    (dir : s.dir = Path.join base s.id)
    (none_or_directory : later.get? (home ++ ["config.json"]) = none ∨
      later.get? (home ++ ["config.json"]) = some .directory ∧ Tree.Fits s.dir "config.json") :
    Session.open s.id base later = .ok ⟨s.id, Path.join base s.id, .direct, .default⟩ ↔
      later.get? (home ++ ["config.json"]) = none := by
  have full : s.id ≠ "" := (isName_of_isValidId valid).1
  have there : later.isDirectory (Path.join base s.id) = true :=
    Tree.isDirectory_iff.2 ⟨home, dir ▸ settled.leads⟩
  have unlinked := (settled.isRegular "config.json").unlinked
  have find := Tree.find_join settled.leads isName_config true fun _ => unlinked
  have path : Config.path (Path.join base s.id) = Path.join s.dir "config.json" := by rw [dir]; rfl
  unfold Session.open Config.load
  simp only [if_neg full, valid, Bool.not_true, there, Bool.false_eq_true, if_false, path]
  rcases none_or_directory with free | ⟨taken, fits⟩
  · have absent : later.isPresent (Path.join s.dir "config.json") = false := by
      rw [Tree.isPresent, Tree.entryAt?]
      rcases find with ⟨-, hfind⟩ | ⟨-, fault, -, hfind⟩
      · rw [hfind, Tree.entryIn, free]
        rfl
      · rw [hfind]
        rfl
    simp [absent, free]
  · have hfind := (find.resolve_right fun unfit => unfit.1 fits).2
    have present : later.isPresent (Path.join s.dir "config.json") = true := by
      rw [Tree.isPresent, Tree.entryAt?, hfind, Tree.entryIn, taken]
      rfl
    have refused : later.read (Path.join s.dir "config.json") = .error .isDirectory := by
      rw [Tree.read, hfind, Tree.entryIn, taken]
    simp [present, refused, taken]

/-- A directory stands under a name just if it is that of a run. -/
theorem Left.directory_iff (left : Left s home tree deeds later)
    (empty : ∀ q, q ≠ [] → tree.get? (home ++ q) = none) (name : String) :
    later.get? (home ++ [name]) = some .directory ↔ Deed.made name ∈ deeds := by
  refine ⟨fun stands => ?_, fun hmem => (left.made name hmem).2.2⟩
  rcases left.directory _ stands with before | ⟨run, hmem, heq⟩
  · rw [empty [name] (List.cons_ne_nil _ _)] at before
    cases before
  · obtain rfl : name = run := by simpa using heq
    exact hmem

theorem not_ownFile_config (home : Location) : ¬ OwnFile home (home ++ ["config.json"]) := by
  rintro (heq | heq | ⟨node, heq⟩)
  · exact absurd heq (by simp)
  · exact absurd heq (by simp)
  · have same : "config.json" = sysinfoName node := by simpa using heq
    have last := congrArg (fun name => name.toList.getLast?) same
    rw [toList_sysinfoName] at last
    simp at last

/-- **What can be done on a session after any history.** It can be opened, with the settings that it
was made with, just if no run was given the name of the settings' file; its log can be opened, and
its manifest written, just if no run was given the name of that file. -/
theorem usable_iff (sound : tree.IsSound)
    (plain : tree.isDirectory base = true ∨ ".." ∉ Path.names base)
    {made : Tree} (new : init id base random tree = (.ok s, made))
    (fitsLog : Tree.Fits s.dir "session.log") (fitsManifest : Tree.Fits s.dir "monitor.yaml")
    (history : s.History [] made deeds later) :
    (Session.open s.id base later = .ok s ↔ Deed.made "config.json" ∉ deeds) ∧
    ((∃ place opened, s.openLog later = (.ok place, opened)) ↔ Deed.made "session.log" ∉ deeds) ∧
    ((∃ written, s.writeManifest later = (.ok s.manifestPath, written)) ↔
      Deed.made "monitor.yaml" ∉ deeds) := by
  obtain ⟨home, settled, empty⟩ := settled_of_init sound plain new
  obtain ⟨heq, valid, -, -⟩ := eq_of_init new
  have left := history.left settled
  have dir : s.dir = Path.join base s.id := congrArg Session.dir heq
  refine ⟨?_, ?_, ?_⟩
  · -- Nothing but the directory of a run can stand where the settings' file would.
    have config : later.get? (home ++ ["config.json"]) = none ∨
        later.get? (home ++ ["config.json"]) = some .directory ∧ Tree.Fits s.dir "config.json" := by
      rcases left.settled.isRegular "config.json" with stands | ⟨-, free | ⟨content, file⟩⟩
      · exact .inr ⟨stands, (left.made _ ((left.directory_iff empty _).1 stands)).2.1⟩
      · exact .inl free
      · have unwritten := left.files _ (not_ownFile_config home) fun run node heq => by
          simp [archiveAt] at heq
        rw [Tree.content?_of_get? file, Tree.content?, empty _ (List.cons_ne_nil _ _)] at unwritten
        cases unwritten
    have opened := open_iff left.settled valid dir config
    rw [← heq] at opened
    rw [opened, ← left.directory_iff empty]
    rcases config with free | ⟨taken, -⟩
    · simp [free]
    · simp [taken]
  · rw [openLog_iff left.settled fitsLog, left.directory_iff empty]
  · rw [writeManifest_iff left.settled (.made new) fitsManifest, left.directory_iff empty]

/-! ### A session that cannot be opened any more -/

/-- A working directory with the directory `b` in it. -/
def bare : Tree := ⟨[(["b"], .directory)], []⟩

/-- With the directory of the session `s1`. -/
def bareMade : Tree := bare.put ["b", "s1"] .directory

/-- With the directory of a run that has the name of the settings' file. -/
def bareTaken : Tree := bareMade.put ["b", "s1", "config.json"] .directory

/-- The session `s1`. -/
def plain : Session := ⟨"s1", "b/s1", .direct, .default⟩

theorem isSound_bare : bare.IsSound := by
  intro place name stands
  cases place with
  | nil => rfl
  | cons first rest =>
    refine absurd ?_ stands
    simp [Tree.get?, bare]

theorem init_plain : init "s1" "b" 0 bare = (.ok plain, bareMade) := by
  have joined : Path.join "b" "s1" = "b/s1" := by decide +kernel
  have valid : isValidId "s1" = true := by decide +kernel
  have free : bare.straight? "b/s1" = some (.ok (.absent ["b"] "s1" false)) := rfl
  simp [init, joined, valid, Tree.isPresent, Tree.entryAt?_of_absent free,
    Tree.makeDirectories_of_absent free, plain, bareMade]

theorem runDir_plain : plain.runDir "config.json" bareMade = (.ok "b/s1/config.json", bareTaken) := by
  have joined : Path.join "b/s1" "config.json" = "b/s1/config.json" := by decide +kernel
  have valid : isValidRun "config.json" = true := by decide +kernel
  have free : bareMade.straight? "b/s1/config.json" =
      some (.ok (.absent ["b", "s1"] "config.json" false)) := rfl
  simp [runDir, joined, valid, Tree.makeDirectories_of_absent free, plain, bareTaken]

/-- After a run with the name of the settings' file, its log can be opened and its manifest written,
but the session cannot be opened. -/
theorem partly_usable_plain : plain.History [] bareMade [.made "config.json"] bareTaken ∧
    Session.open "s1" "b" bareTaken ≠ .ok plain ∧
    (∃ place opened, plain.openLog bareTaken = (.ok place, opened)) ∧
    (∃ written, plain.writeManifest bareTaken = (.ok plain.manifestPath, written)) := by
  have history : plain.History [] bareMade [.made "config.json"] bareTaken :=
    .concat .nil (.makes rfl runDir_plain)
  obtain ⟨opened, logged, wrote⟩ := usable_iff isSound_bare (.inr (by decide +kernel)) init_plain
    (by decide +kernel) (by decide +kernel) history
  exact ⟨history, fun h => opened.1 h (by simp), logged.2 (by simp), wrote.2 (by simp)⟩

/-- **A run after which the session cannot be opened**: a directory stands where the settings' file
would, and cannot be read. -/
theorem unusable_of_run : ∃ made later, init "s1" "b" 0 bare = (.ok plain, made) ∧
    plain.runDir "config.json" made = (.ok "b/s1/config.json", later) ∧
    Session.open "s1" "b" later =
      .error (.invalidConfig s!"Failed to read config: {Fault.isDirectory.text}") := by
  refine ⟨bareMade, bareTaken, init_plain, runDir_plain, ?_⟩
  have joined : Path.join "b" "s1" = "b/s1" := by decide +kernel
  have spelled : Config.path "b/s1" = "b/s1/config.json" := by decide +kernel
  have valid : isValidId "s1" = true := by decide +kernel
  have found : bareTaken.find true "b/s1/config.json" =
      .ok (.found ["b", "s1", "config.json"] .directory) := Tree.find_of_straight? rfl true
  have there : bareTaken.find true "b/s1" = .ok (.found ["b", "s1"] .directory) :=
    Tree.find_of_straight? rfl true
  simp [Session.open, joined, valid, Tree.isDirectory, Tree.entryAt?, there, Config.load, spelled,
    Tree.isPresent, Tree.read, found]

end Session

end MonitorFleet
