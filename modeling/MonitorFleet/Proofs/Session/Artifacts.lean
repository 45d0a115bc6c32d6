import MonitorFleet.Proofs.Session.Usable

/-!
# The files that belong to nodes

For each node a session keeps its system information, and the archive of each run (`Artifact`). Whoever
writes one of these has a path that is made of the directory of the session and one or two names, so
paths tell the files apart: they are compared by their components, as systems compare them, whatever
the directory is that holds the sessions.

## What is proved

* `Artifact.components_path`: the components of the path of such a file.
* `Artifact.eq_of_names`: its names tell the file.
* `Artifact.told_of_same`: **two of these files have one path only if they are the same file** of the
  same session.
* `Artifact.other_of_reserved`: none of them has the path of a file that a session has for itself.
-/

namespace MonitorFleet

/-- Whether two paths are the same: they have the same components, both from the root or both from
the working directory. -/
def Path.Same (p q : String) : Prop :=
  Path.isAbsolute p = Path.isAbsolute q ∧ Path.components p = Path.components q

/-- Whether a session belongs to a base directory, under an id that it may have. -/
structure Session.Under (base : String) (s : Session) : Prop where
  dir : s.dir = Path.join base s.id
  valid : Session.isValidId s.id = true

theorem Session.under_of_init {id base : String} {random : UInt32} {tree later : Tree} {s : Session}
    (h : Session.init id base random tree = (.ok s, later)) : s.Under base := by
  obtain ⟨same, valid, -, -⟩ := Session.eq_of_init h
  exact ⟨congrArg Session.dir same, valid⟩

/-- A session that is opened belongs to the directory in which it is opened. -/
theorem Session.under_of_open {id base : String} {tree : Tree} {s : Session}
    (h : Session.open id base tree = .ok s) : s.Under base := by
  refine ⟨?_, (Session.checked_of_open h).2⟩
  unfold Session.open at h
  simp only [Bool.not_eq_true'] at h
  split at h
  · cases h
  · split at h
    · cases h
    · split at h
      · cases h
      · split at h <;> cases h
        rfl

/-- What stands behind the directories of two sessions of one base tells the sessions apart, and itself. -/
theorem Session.Under.eq_of_components {base : String} {s t : Session} (under : s.Under base)
    (under' : t.Under base) {names names' : List String}
    (h : Path.components s.dir ++ names = Path.components t.dir ++ names') :
    s.id = t.id ∧ names = names' := by
  rw [under.dir, under'.dir, Path.components_join base (Session.isName_of_isValidId under.valid),
    Path.components_join base (Session.isName_of_isValidId under'.valid), List.append_assoc,
    List.append_assoc, List.append_cancel_left_eq] at h
  exact List.cons.inj h

/-- **A file that a session keeps for a node.** -/
inductive Artifact where
  | sysinfo (node : String)
  | archive (run node : String)
  deriving DecidableEq, Repr

namespace Artifact

/-- Where a session keeps it. -/
def path (s : Session) : Artifact → String
  | sysinfo node => s.sysinfoPath node
  | archive run node => Session.archivePath (Path.join s.dir run) node

/-- The names from the directory of the session on. -/
def names : Artifact → Location
  | sysinfo node => [Session.sysinfoName node]
  | archive run node => [run, Session.archiveName node]

/-- Whether its node is a single name, and its run one that can be made. -/
def IsProper : Artifact → Prop
  | sysinfo node => '/' ∉ node.toList
  | archive run node => Session.isValidRun run = true ∧ '/' ∉ node.toList

variable {a b : Artifact} {s t : Session} {base : String}

/-! ### Names -/

theorem sysinfoName_injective {node other : String}
    (h : Session.sysinfoName node = Session.sysinfoName other) : node = other := by
  have same := congrArg String.toList h
  rw [Session.toList_sysinfoName, Session.toList_sysinfoName] at same
  exact String.toList_inj.1 (List.append_cancel_right same)

theorem sysinfoName_ne {name : String} (other : name.toList.getLast? ≠ some 'o') (node : String) :
    Session.sysinfoName node ≠ name := by
  rintro rfl
  refine other ?_
  rw [Session.toList_sysinfoName, List.getLast?_append]
  rfl

/-- The names tell the file. -/
theorem eq_of_names (h : a.names = b.names) : a = b := by
  cases a <;> cases b <;> simp only [names, List.cons.injEq, and_true, reduceCtorEq] at h
  · rw [sysinfoName_injective h]
  · simp at h
  · simp at h
  · rw [h.1, Session.archiveName_injective h.2]

theorem names_ne_nil (a : Artifact) : a.names ≠ [] := by
  cases a <;> exact List.cons_ne_nil _ _

theorem IsProper.isName (proper : a.IsProper) : ∀ name ∈ a.names, Path.IsName name := by
  intro name mem
  cases a with
  | sysinfo node =>
    obtain rfl := List.mem_singleton.mp mem
    exact Session.isName_sysinfoName proper
  | archive run node =>
    obtain rfl | rfl := List.mem_pair.mp mem
    · exact Session.isName_of_isValidRun proper.1
    · exact Session.isName_archiveName proper.2

/-! ### Paths -/

/-- The path of a file of a node: its names, behind the directory of the session. -/
theorem components_path (s : Session) (proper : a.IsProper) :
    Path.components (a.path s) = Path.components s.dir ++ a.names ∧
      Path.isAbsolute (a.path s) = Path.isAbsolute s.dir := by
  cases a with
  | sysinfo node =>
    have name := Session.isName_sysinfoName proper
    exact ⟨Path.components_join s.dir name, Path.isAbsolute_join s.dir name⟩
  | archive run node =>
    have inner := Session.isName_of_isValidRun proper.1
    have name := Session.isName_archiveName proper.2
    constructor
    · refine (Path.components_join _ name).trans ?_
      rw [Path.components_join _ inner, List.append_assoc]
      rfl
    · exact (Path.isAbsolute_join _ name).trans (Path.isAbsolute_join _ inner)

/-- Two files have one path only if they are the same file of the same session. -/
theorem told_of_same (under : s.Under base) (under' : t.Under base) (proper : a.IsProper)
    (proper' : b.IsProper) (same : Path.Same (a.path s) (b.path t)) : s.id = t.id ∧ a = b := by
  have components := same.2
  rw [(components_path s proper).1, (components_path t proper').1] at components
  obtain ⟨ids, names⟩ := under.eq_of_components under' components
  exact ⟨ids, eq_of_names names⟩

/-- No file of a node has the path of another file that a session has under a name. -/
theorem other_of_reserved (under : s.Under base) (under' : t.Under base) (proper : a.IsProper)
    {name : String} (isName : Path.IsName name) (last : name.toList.getLast? ≠ some 'o') :
    ¬ Path.Same (a.path s) (Path.join t.dir name) := by
  intro same
  have components := same.2
  rw [(components_path s proper).1, Path.components_join t.dir isName] at components
  have names := (under.eq_of_components under' components).2
  cases a with
  | sysinfo node => exact sysinfoName_ne last node (List.head_eq_of_cons_eq names)
  | archive run node => simp [Artifact.names] at names

end Artifact

end MonitorFleet
