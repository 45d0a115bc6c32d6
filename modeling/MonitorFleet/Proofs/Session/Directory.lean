import MonitorFleet.Session
import MonitorFleet.Proofs.Config.SaveLoad
import MonitorFleet.Proofs.Tree.Making

/-!
# The directory of a session

The files of a session, the directories of its runs and the files in these have their names to
themselves: a run is a single name, the name of a file that belongs to a node ends like no other, and
nothing else is written. What an operation does is told by location, as long as the directory of the
session holds directories and regular files alone (`Session.Settled`).

## What is proved

* `isName_of_isValidRun`, `isName_sysinfoName`, `isName_archiveName`: what is joined to a path is a name.
* `Unlinked.runDir`: to make the directory of a run either fails and changes nothing, or a directory
  stands there, and all else is as it was.
* `Unlinked.opens`: where a file of the session is that was opened.
-/

namespace MonitorFleet

namespace Session

/-! ### Names -/

theorem isName_of_isValidRun {run : String} (h : isValidRun run = true) : Path.IsName run := by
  simp only [isValidRun, Bool.and_eq_true, decide_eq_true_eq, List.all_eq_true] at h
  exact ⟨h.1.1.1, h.1.1.2, h.1.2, fun hmem => (h.2 _ hmem).1 rfl⟩

/-- The name of the archive of a node. -/
def archiveName (node : String) : String := s!"perf-{node}.tar.bz2"

/-- The name of the system information of a node. -/
def sysinfoName (node : String) : String := s!"{node}.sysinfo"

theorem toList_archiveName (node : String) :
    (archiveName node).toList = "perf-".toList ++ node.toList ++ ".tar.bz2".toList := by
  simp [archiveName, toString]

theorem toList_sysinfoName (node : String) :
    (sysinfoName node).toList = node.toList ++ ".sysinfo".toList := by
  simp [sysinfoName, toString]

theorem isName_of_length {name : String} (long : 2 < name.toList.length)
    (slashless : '/' ∉ name.toList) : Path.IsName name := by
  refine ⟨?_, ?_, ?_, slashless⟩ <;> rintro rfl <;> exact absurd long (by decide)

theorem isName_archiveName {node : String} (slashless : '/' ∉ node.toList) :
    Path.IsName (archiveName node) := by
  refine isName_of_length ?_ ?_
  · rw [toList_archiveName, List.length_append, List.length_append]
    exact Nat.lt_of_lt_of_le (by decide) (Nat.le_add_left 8 _)
  · rw [toList_archiveName]
    simp [slashless]

theorem isName_sysinfoName {node : String} (slashless : '/' ∉ node.toList) :
    Path.IsName (sysinfoName node) := by
  refine isName_of_length ?_ ?_
  · rw [toList_sysinfoName, List.length_append]
    exact Nat.lt_of_lt_of_le (by decide) (Nat.le_add_left 8 _)
  · rw [toList_sysinfoName]
    simp [slashless]

/-- Nodes with different names have different archives. -/
theorem archiveName_injective {node other : String} (h : archiveName node = archiveName other) :
    node = other := by
  have same := congrArg String.toList h
  rw [toList_archiveName, toList_archiveName, List.append_assoc, List.append_assoc] at same
  exact String.toList_inj.1 (List.append_cancel_right (List.append_cancel_left same))

theorem isName_log : Path.IsName "session.log" := isName_of_length (by decide) (by decide)

theorem isName_manifest : Path.IsName "monitor.yaml" := isName_of_length (by decide) (by decide)

theorem isName_config : Path.IsName "config.json" := isName_of_length (by decide) (by decide)

/-! ### A directory without links -/

/-- **The directory of a session stands at a location**, and no link is in it. -/
structure Unlinked (s : Session) (home : Location) (tree : Tree) : Prop where
  leads : tree.directory? s.dir = some home
  links : ∀ q target, q ≠ [] → tree.get? (home ++ q) ≠ some (.link target)

variable {s : Session} {home : Location} {tree later : Tree}

theorem Unlinked.link_ne (h : s.Unlinked home tree) (name target : String) :
    tree.get? (home ++ [name]) ≠ some (.link target) := h.links [name] target (List.cons_ne_nil _ _)

/-- Making the directory of a run fails and changes nothing, or a directory stands there and all
else is as it was. -/
theorem Unlinked.runDir (h : s.Unlinked home tree) (run : String) :
    (∃ error, s.runDir run tree = (.error error, tree)) ∨
      (isValidRun run = true ∧ Tree.Fits s.dir run ∧
        ∃ later, s.runDir run tree = (.ok (Path.join s.dir run), later) ∧
          Tree.Made (home ++ [run]) tree later) := by
  unfold Session.runDir
  cases valid : isValidRun run with
  | false => exact .inl ⟨_, rfl⟩
  | true =>
    have proper := isName_of_isValidRun valid
    rcases Tree.makeDirectories_join h.leads proper with ⟨fits, free, hmake⟩ | ⟨-, fault, hmake⟩
    · exact .inr ⟨rfl, fits, _, by simp [hmake], Tree.made_put (by simp) free⟩
    · cases there : tree.isDirectory (Path.join s.dir run) with
      | true =>
        obtain ⟨fits, stands⟩ :=
          Tree.get?_of_isDirectory_join (Tree.leads_of_directory? h.leads) proper (h.link_ne run) there
        exact .inr ⟨rfl, fits, tree, by simp [hmake, there], Tree.made_self stands⟩
      | false => exact .inl ⟨.io (Path.join s.dir run) fault, by simp [hmake, there]⟩

/-- A file of the session that is opened is where it should be. -/
theorem Unlinked.opens (h : s.Unlinked home tree) {name : String} (proper : Path.IsName name)
    {place : Location} {opened : Tree}
    (hopen : tree.openFile (Path.join s.dir name) = .ok (place, opened)) : place = home ++ [name] :=
  Tree.eq_of_openFile_join h.leads proper (h.link_ne name) hopen

/-! ### A directory of directories and files -/

/-- The directory of a session stands at a location, and holds directories and regular files
alone. -/
structure Settled (s : Session) (home : Location) (tree : Tree) : Prop where
  leads : tree.directory? s.dir = some home
  regular : ∀ q, q ≠ [] → tree.IsRegular (home ++ q)

theorem Settled.unlinked (h : s.Settled home tree) : s.Unlinked home tree :=
  ⟨h.leads, fun q target hq => (h.regular q hq).unlinked target⟩

theorem Settled.isRegular (h : s.Settled home tree) (name : String) :
    tree.IsRegular (home ++ [name]) := h.regular [name] (List.cons_ne_nil _ _)

theorem Settled.isRegular_in (h : s.Settled home tree) (dir name : String) :
    tree.IsRegular (home ++ [dir] ++ [name]) := by
  rw [List.append_assoc]
  exact h.regular _ (by simp)

theorem Settled.made (h : s.Settled home tree) {place : Location}
    (made : Tree.Made place tree later) : s.Settled home later :=
  ⟨made.keeps.directory? h.leads, fun q hq => made.isRegular (h.regular q hq)⟩

theorem Settled.written (h : s.Settled home tree) {places : Location → Prop}
    (written : Tree.Written places tree later) : s.Settled home later :=
  ⟨written.keeps.directory? h.leads, fun q hq => written.isRegular (h.regular q hq)⟩

/-- Where the directory of a run stands. -/
theorem Settled.directory?_run (h : s.Settled home tree) {run : String}
    (valid : isValidRun run = true) (fits : Tree.Fits s.dir run)
    (stands : tree.get? (home ++ [run]) = some .directory) :
    tree.directory? (Path.join s.dir run) = some (home ++ [run]) := by
  have proper := isName_of_isValidRun valid
  rcases Tree.find_join h.leads proper true (fun _ => (h.isRegular run).unlinked) with ⟨-, hfind⟩ | ⟨unfit, -⟩
  · rw [Tree.directory?, hfind, Tree.entryIn, stands]
  · exact absurd fits unfit

end Session

end MonitorFleet
