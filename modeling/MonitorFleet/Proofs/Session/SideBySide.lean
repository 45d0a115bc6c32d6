import Mathlib.Data.List.Induction
import MonitorFleet.Proofs.Session.Artifacts
import MonitorFleet.Proofs.Session.Footprint
import MonitorFleet.Proofs.SystemInfo.Retrieval

/-!
# Fan-outs side by side

Several fan-outs may go on at the same time, and their tasks then work on one world. Here they take turns
in any order, and other things may change the world in between (`Abreast`). A task keeps to the file of
its node, so no two tasks write to one file as long as no two fan-outs do the same for the same session,
and no links are in the directories of the sessions. With links they may.

## What is proved

* `Undertaking.opensIn`: the task of a node opens the file of the node, or none.
* `Abreast.Keeping.apply`: what is known of all tasks stays so, whoever has a turn.
* `Abreast.own_of_writes`: what a task writes is the file of its node.
* `artifacts_apart`: **files of nodes never collide**, neither by their paths nor by what is written.
-/

namespace MonitorFleet

open MonitorFleet.Tree (Written)

/-! ### What is done side by side -/

/-- A fan-out of a session. -/
inductive Undertaking where
  /-- A run is started on nodes. -/
  | starting (c : Collector) (run : String) (token : RunToken) (nodes : NameSet)
  /-- The results of a run are fetched. -/
  | ending (c : Collector) (run : CollectionRun) (token : RunToken)
  /-- The system information of nodes is fetched. -/
  | informing (i : SystemInfo) (token : RunToken) (nodes : List NodeAddress)

namespace Undertaking

def session : Undertaking → Session
  | starting c .. => c.session
  | ending c .. => c.session
  | informing i .. => i.session

def nodes : Undertaking → List String
  | starting _ _ _ nodes => nodes.names
  | ending _ run _ => run.participants.names
  | informing _ _ nodes => nodes.map (·.name)

def work : Undertaking → Work
  | starting c run token _ => c.startWork run token
  | ending c run token => c.endWork run token
  | informing i token _ => i.work token

def operation : Undertaking → Operation World Task Happening
  | starting c run token _ => c.startOperation run token
  | ending c run token => c.endOperation run token
  | informing i token _ => i.operation token

/-- The file that is kept for a node. -/
def artifact? (u : Undertaking) (node : String) : Option Artifact :=
  match u with
  | starting .. => none
  | ending _ run _ => some (.archive run.id node)
  | informing .. => some (.sysinfo node)

/-- Whether a fan-out may be begun for a session of a base directory: no node is given twice, and
nodes are single names; a run that is ended was given its directory. -/
structure IsProper (base : String) (u : Undertaking) : Prop where
  under : u.session.Under base
  distinct : u.nodes.Nodup
  slashless : ∀ node ∈ u.nodes, '/' ∉ node.toList
  made : ∀ c run token, u = .ending c run token →
    Session.isValidRun run.id = true ∧ run.dir = Path.join c.session.dir run.id

/-- Whether two fan-outs have different tasks: they are not both for the system information in one
session, nor for the end of one run. -/
def Differs : Undertaking → Undertaking → Prop
  | informing i _ _, informing j _ _ => i.session.id ≠ j.session.id
  | ending c run _, ending d other _ => c.session.id ≠ d.session.id ∨ run.id ≠ other.id
  | _, _ => True

/-- Where the file of a node is, in a base directory that stands at `root`. -/
def Keeps (root : Location) (u : Undertaking) (node : String) (q : Location) : Prop :=
  ∃ a, u.artifact? node = some a ∧ q = root ++ [u.session.id] ++ a.names

variable {base : String} {root : Location} {u v : Undertaking} {node other : String}

/-- The task of a node opens the file of the node, or none. -/
theorem opensIn (proper : u.IsProper base) (listed : node ∈ u.nodes) {tree : Tree}
    (unlinked : u.session.Unlinked (root ++ [u.session.id]) tree) :
    (u.work.job node).OpensIn (u.Keeps root node) tree := by
  have slashless := proper.slashless node listed
  intro path place later streams opened
  cases u with
  | starting c run token nodes => cases streams
  | ending c run token =>
    obtain ⟨valid, joined⟩ := proper.made c run token rfl
    obtain ⟨file, mem, rfl⟩ := unlinked.opensIn_archive valid joined slashless
      (List.mem_singleton_self _) path place later streams opened
    rw [List.mem_singleton.mp mem]
    exact ⟨_, rfl, rfl⟩
  | informing i token nodes =>
    obtain ⟨file, mem, rfl⟩ := unlinked.opensIn_sysinfo slashless (List.mem_singleton_self _)
      path place later streams opened
    rw [List.mem_singleton.mp mem]
    exact ⟨_, rfl, rfl⟩

/-- A file is kept for one node only, by one of two fan-outs that differ. -/
theorem told_of_artifact {a : Artifact} (kept : u.artifact? node = some a)
    (kept' : v.artifact? other = some a) (ids : u.session.id = v.session.id) :
    node = other ∧ ¬ u.Differs v := by
  have one := kept.trans kept'.symm
  cases u with
  | starting c run token nodes => cases kept
  | ending c run token =>
    cases v with
    | starting d run' token' nodes => cases kept'
    | ending d run' token' =>
      obtain ⟨runs, rfl⟩ := Artifact.archive.inj (Option.some.inj one)
      exact ⟨rfl, fun differs => differs.elim (· ids) (· runs)⟩
    | informing i token' nodes => cases one
  | informing i token nodes =>
    cases v with
    | starting d run' token' nodes => cases kept'
    | ending d run' token' => cases one
    | informing j token' nodes' =>
      obtain rfl := Artifact.sysinfo.inj (Option.some.inj one)
      exact ⟨rfl, fun differs => differs ids⟩

/-- Two tasks that are there for one file are one task, by the number of its fan-out and its own. -/
theorem numbers_eq_of_artifact {us : List Undertaking} (proper : ∀ u ∈ us, u.IsProper base)
    (differ : us.Pairwise Differs) {k l i j : Nat} {a : Artifact} (hu : us[k]? = some u)
    (hv : us[l]? = some v) (listed : u.nodes[i]? = some node) (listed' : v.nodes[j]? = some other)
    (kept : u.artifact? node = some a) (kept' : v.artifact? other = some a)
    (ids : u.session.id = v.session.id) : k = l ∧ i = j := by
  obtain ⟨rfl, same⟩ := told_of_artifact kept kept' ids
  have apart := List.pairwise_iff_getElem.mp differ
  obtain ⟨hk, rfl⟩ := List.getElem?_eq_some_iff.mp hu
  obtain ⟨hl, rfl⟩ := List.getElem?_eq_some_iff.mp hv
  obtain less | rfl | more := Nat.lt_trichotomy k l
  · exact absurd (apart k l hk hl less) same
  · exact ⟨rfl, FanOut.number_unique (proper _ (List.getElem_mem hk)).distinct listed listed'⟩
  · exact absurd (apart l k hl hk more) (told_of_artifact kept' kept ids.symm).2

/-- The path of a task's file. -/
theorem path?_eq (proper : u.IsProper base) (node : String) :
    (u.work.job node).path? = (u.artifact? node).map (·.path u.session) := by
  cases u with
  | starting c run token nodes => rfl
  | ending c run token =>
    obtain ⟨-, joined⟩ := proper.made c run token rfl
    exact congrArg (fun dir => some (Session.archivePath dir node)) joined
  | informing i token nodes => rfl

/-- The file of a listed node is one that can be told by its path. -/
theorem isProper_of_artifact (proper : u.IsProper base) {i : Nat} (listed : u.nodes[i]? = some node)
    {a : Artifact} (kept : u.artifact? node = some a) : a.IsProper := by
  have slashless := proper.slashless node (List.mem_of_getElem? listed)
  cases u with
  | starting c run token nodes => cases kept
  | ending c run token =>
    cases kept
    exact ⟨(proper.made c run token rfl).1, slashless⟩
  | informing i token nodes =>
    cases kept
    exact slashless

theorem operation_eq (u : Undertaking) : ∃ spans, u.operation = u.work.fanOut spans := by
  cases u <;> exact ⟨_, rfl⟩

end Undertaking

/-! ### Taking turns -/

/-- Fan-outs that go on side by side: the world that they share, and what each of them has of its
own. -/
structure Abreast where
  world : World
  fanOuts : List (FanOut World Task)

namespace Abreast

/-- What happens to fan-outs side by side. -/
inductive Event where
  /-- Something happens in one of them, given by its number. -/
  | happens (k : Nat) (e : FanOut.Event Happening)
  /-- Something else makes the world another one. -/
  | changes (w : World)

/-- The fan-outs when they all begin. -/
def start (us : List Undertaking) (w : World) : Abreast :=
  ⟨w, us.map fun u => FanOut.start u.operation u.nodes w⟩

/-- The fan-outs after an event; `none` if it cannot happen. -/
def apply (us : List Undertaking) (g : Abreast) : Event → Option Abreast
  | .changes w => some { g with world := w }
  | .happens k e =>
    match us[k]?, g.fanOuts[k]? with
    | some u, some f =>
      (FanOut.apply u.operation { f with world := g.world } e).map fun f' =>
        ⟨f'.world, g.fanOuts.set k f'⟩
    | _, _ => none

/-- The fan-outs after a list of events. -/
def run (us : List Undertaking) (g : Abreast) (events : List Event) : Option Abreast :=
  events.foldlM (apply us) g

/-- The member of a fan-out, given by the number of the fan-out and its own. -/
def member? (g : Abreast) (k i : Nat) : Option (Member Task) :=
  g.fanOuts[k]?.bind fun f => f.members[i]?

/-- Whether a task has a stream open at a location. -/
def StreamsAt (g : Abreast) (k i : Nat) (q : Location) : Prop :=
  ∃ node n connection transfer,
    g.member? k i = some ⟨node, .running (.attempting n (.receiving connection transfer))⟩ ∧
    transfer.place = q

/-- A task writes to a location in the course of some events: by something that it does the entry
there is changed, or its stream is open there afterwards. -/
def Writes (us : List Undertaking) (w : World) (events : List Event) (k i : Nat) (q : Location) : Prop :=
  ∃ before e after g g', events = before ++ .happens k e :: after ∧
    (start us w).run us before = some g ∧ g.apply us (.happens k e) = some g' ∧ e.mover? = some i ∧
      (g'.world.tree.get? q ≠ g.world.tree.get? q ∨ g'.StreamsAt k i q)

/-! ### What is known of all tasks -/

variable {us : List Undertaking} {base : String} {root : Location} {w : World} {g g' : Abreast}

/-- The directories of all sessions stand in one directory, without links. -/
def Housed (us : List Undertaking) (root : Location) (tree : Tree) : Prop :=
  ∀ u ∈ us, u.session.Unlinked (root ++ [u.session.id]) tree

/-- What is known of fan-outs side by side: every task that runs is that of its node, and streams to
the file of the node or nowhere. -/
structure Keeping (us : List Undertaking) (root : Location) (g : Abreast) : Prop where
  housed : Housed us root g.world.tree
  streams : ∀ (k : Nat) (u : Undertaking) (f : FanOut World Task), us[k]? = some u →
    g.fanOuts[k]? = some f → StreamTo u.nodes (u.Keeps root) f

theorem keeping_start (housed : Housed us root w.tree) : Keeping us root (start us w) where
  housed := housed
  streams := by
    intro k u f hu hf
    simp only [start, List.getElem?_map, hu, Option.map_some, Option.some.injEq] at hf
    obtain ⟨spans, hop⟩ := u.operation_eq
    rw [← hf, hop]
    exact streamTo_start w

/-- What happens in one fan-out. -/
theorem happens_of_apply {k : Nat} {e : FanOut.Event Happening}
    (h : g.apply us (.happens k e) = some g') :
    ∃ u f f', us[k]? = some u ∧ g.fanOuts[k]? = some f ∧
      FanOut.Happens u.operation { f with world := g.world } e f' ∧
      g' = ⟨f'.world, g.fanOuts.set k f'⟩ := by
  simp only [apply] at h
  split at h
  · next u f hu hf =>
    obtain ⟨f', step, rfl⟩ := Option.map_eq_some_iff.mp h
    exact ⟨u, f, f', hu, hf, FanOut.happens_of_apply step, rfl⟩
  · cases h

/-- What is known of all tasks stays so, whoever has a turn, and nothing is written but the file of
the node whose task goes on. -/
theorem Keeping.happens (proper : ∀ u ∈ us, u.IsProper base) (kept : Keeping us root g) {k : Nat}
    {e : FanOut.Event Happening} (h : g.apply us (.happens k e) = some g') :
    Keeping us root g' ∧ ∃ u, us[k]? = some u ∧
      Written (fun q => ∃ i node, e.mover? = some i ∧ u.nodes[i]? = some node ∧ u.Keeps root node q)
        g.world.tree g'.world.tree := by
  obtain ⟨u, f, f', hu, hf, hap, rfl⟩ := happens_of_apply h
  have mem := List.mem_of_getElem? hu
  obtain ⟨spans, hop⟩ := u.operation_eq
  rw [hop] at hap
  obtain ⟨written, streams⟩ := Work.written_of_happens hap (kept.streams k u f hu hf)
    fun node listed => Undertaking.opensIn (proper u mem) listed (kept.housed u mem)
  refine ⟨⟨fun v hv => (kept.housed v hv).written written, ?_⟩, u, hu, written⟩
  intro j v f₁ hv hf₁
  by_cases same : k = j
  · subst same
    obtain rfl := Option.some.inj (hu.symm.trans hv)
    rw [List.getElem?_set_self (List.getElem?_eq_some_iff.mp hf).1] at hf₁
    exact Option.some.inj hf₁ ▸ streams
  · rw [List.getElem?_set_ne same] at hf₁
    exact kept.streams j v f₁ hv hf₁

theorem run_concat (us : List Undertaking) (g : Abreast) (events : List Event) (e : Event) :
    g.run us (events ++ [e]) = (g.run us events).bind fun g => g.apply us e := by
  simp only [run, List.foldlM_append]
  congr 1
  funext g
  simp [List.foldlM]

/-- **What is known of all tasks** after any events, as long as nothing else puts links in the way. -/
theorem keeping_of_run (proper : ∀ u ∈ us, u.IsProper base) (housed : Housed us root w.tree)
    {events : List Event} (steady : ∀ w', .changes w' ∈ events → Housed us root w'.tree)
    (h : (start us w).run us events = some g) : Keeping us root g := by
  induction events using List.reverseRecOn generalizing g with
  | nil =>
    cases h
    exact keeping_start housed
  | append_singleton events e ih =>
    rw [run_concat, Option.bind_eq_some_iff] at h
    obtain ⟨g₀, earlier, last⟩ := h
    have kept := ih (fun w' mem => steady w' (List.mem_append_left _ mem)) earlier
    cases e with
    | happens k e => exact (kept.happens proper last).1
    | changes w' =>
      cases last
      exact ⟨steady w' (by simp), kept.streams⟩

/-- What a task writes is the file of its node. -/
theorem own_of_writes (proper : ∀ u ∈ us, u.IsProper base) (housed : Housed us root w.tree)
    {events : List Event} (steady : ∀ w', .changes w' ∈ events → Housed us root w'.tree)
    {k i : Nat} {q : Location} (writes : Writes us w events k i q) :
    ∃ u node, us[k]? = some u ∧ u.nodes[i]? = some node ∧ u.Keeps root node q := by
  obtain ⟨before, e, after, g, g', rfl, earlier, step, mover, does⟩ := writes
  have kept := keeping_of_run proper housed
    (fun w' mem => steady w' (List.mem_append_left _ mem)) earlier
  obtain ⟨kept', u, hu, written⟩ := kept.happens proper step
  obtain changed | ⟨node, n, connection, transfer, member, rfl⟩ := does
  · by_contra! none
    refine changed (written.get?_of_not ?_)
    rintro ⟨j, node, mover', listed, keeps⟩
    obtain rfl := Option.some.inj (mover.symm.trans mover')
    exact none u node hu listed keeps
  · obtain ⟨f, hf, member⟩ := Option.bind_eq_some_iff.mp member
    obtain ⟨listed, streams⟩ := kept'.streams k u f hu hf i node _ member
    exact ⟨u, node, hu, listed, streams⟩

/-- No two tasks write to one location, if no two fan-outs do the same. -/
theorem eq_of_writes (proper : ∀ u ∈ us, u.IsProper base) (differ : us.Pairwise Undertaking.Differs)
    (housed : Housed us root w.tree) {events : List Event}
    (steady : ∀ w', .changes w' ∈ events → Housed us root w'.tree) {k l i j : Nat} {q : Location}
    (one : Writes us w events k i q) (other : Writes us w events l j q) : k = l ∧ i = j := by
  obtain ⟨u, node, hu, listed, keeps⟩ := own_of_writes proper housed steady one
  obtain ⟨v, node', hv, listed', keeps'⟩ := own_of_writes proper housed steady other
  obtain ⟨a, kept, rfl⟩ := keeps
  obtain ⟨b, kept', same⟩ := keeps'
  rw [List.append_assoc, List.append_assoc, List.append_cancel_left_eq] at same
  obtain ⟨ids, names⟩ := List.cons.inj same
  obtain rfl := Artifact.eq_of_names names
  exact Undertaking.numbers_eq_of_artifact proper differ hu hv listed listed' kept kept' ids

/-- A member whose phase is set has it, and the others stay what they are. -/
theorem member?_setPhase {k i : Nat} {f : FanOut World Task} {node : String} {old phase : Phase Task}
    {w' : World} (hf : g.fanOuts[k]? = some f) (member : f.members[i]? = some ⟨node, old⟩) :
    let g' : Abreast := ⟨w', g.fanOuts.set k ({ f with world := w' }.setPhase i node phase)⟩
    g'.member? k i = some ⟨node, phase⟩ ∧ ∀ l j, (l, j) ≠ (k, i) → g'.member? l j = g.member? l j := by
  have within := (List.getElem?_eq_some_iff.mp hf).1
  refine ⟨?_, fun l j others => ?_⟩
  · rw [member?, List.getElem?_set_self within]
    exact FanOut.getElem?_setPhase_self (f := { f with world := w' }) member
  · by_cases same : k = l
    · subst same
      have other : i ≠ j := fun eq => others (by rw [eq])
      rw [member?, member?, List.getElem?_set_self within, hf]
      exact FanOut.getElem?_setPhase_ne (f := { f with world := w' }) other
    · rw [member?, member?, List.getElem?_set_ne same]

/-- A call that is taken makes its task write where its path leads, and changes no other task. -/
theorem writes_of_reply {u : Undertaking} {k i : Nat} {node path : String} {n : UInt32}
    {connection : Connection} {q : Location} (hu : us[k]? = some u)
    (member : g.member? k i = some ⟨node, .running (.attempting n (.calling connection))⟩)
    (streams : (u.work.job node).path? = some path) (leads : g.world.tree.place? path = some q) :
    ∃ g', g.apply us (.happens k (.advance i (.answer (.reply (.ok ()))))) = some g' ∧
      g'.StreamsAt k i q ∧ (∃ content, Tree.Filled g.world.tree g'.world.tree q content) ∧
      ∀ l j, (l, j) ≠ (k, i) → g'.member? l j = g.member? l j := by
  obtain ⟨later, started, filled⟩ := Transfer.start_of_place? leads
  obtain ⟨f, hf, member⟩ := Option.bind_eq_some_iff.mp member
  obtain ⟨spans, hop⟩ := u.operation_eq
  have applied : g.apply us (.happens k (.advance i (.answer (.reply (.ok ()))))) = some
      ⟨{ g.world.count (.monitorCalls (u.work.job node).call.name true) 1 with tree := later },
        g.fanOuts.set k ({ f with world := { g.world.count
          (.monitorCalls (u.work.job node).call.name true) 1 with tree := later } }.setPhase i node
            (.running (.attempting n (.receiving connection ⟨path, q, 0, none⟩))))⟩ := by
    simp [apply, hu, hf, hop, FanOut.apply, member, Work.fanOut, Task.step, Attempt.step,
      Attempt.replied, streams, started, FanOut.setPhase]
  obtain ⟨own, others⟩ := member?_setPhase hf member
  exact ⟨_, applied, ⟨_, _, _, _, own, rfl⟩, ⟨_, filled⟩, others⟩

end Abreast

/-! ### Files of nodes -/

/-- How the files of nodes are kept apart by the sessions of a base directory. -/
structure KeptApart (base : String) : Prop where
  /-- Two of these files have one path only if they are one file of one session. -/
  told : ∀ (s t : Session) (a b : Artifact), s.Under base → t.Under base → a.IsProper → b.IsProper →
    Path.Same (a.path s) (b.path t) → s.id = t.id ∧ a = b
  /-- None has the path of the settings, the log or the manifest of a session. -/
  others : ∀ (s t : Session) (a : Artifact), s.Under base → t.Under base → a.IsProper →
    ¬ Path.Same (a.path s) (Config.path t.dir) ∧ ¬ Path.Same (a.path s) t.logPath ∧
      ¬ Path.Same (a.path s) t.manifestPath
  /-- Each is below the directory of its session. -/
  below : ∀ (s : Session) (a : Artifact), a.IsProper → ∃ names, names ≠ [] ∧
    (∀ name ∈ names, Path.IsName name) ∧ Path.isAbsolute (a.path s) = Path.isAbsolute s.dir ∧
      Path.components (a.path s) = Path.components s.dir ++ names
  /-- No two tasks of fan-outs that differ are given one path. -/
  paths : ∀ (us : List Undertaking), (∀ u ∈ us, u.IsProper base) → us.Pairwise Undertaking.Differs →
    ∀ (k l i j : Nat) (u v : Undertaking) (node other path path' : String), us[k]? = some u →
      us[l]? = some v → u.nodes[i]? = some node → v.nodes[j]? = some other →
      (u.work.job node).path? = some path → (v.work.job other).path? = some path' →
      Path.Same path path' → k = l ∧ i = j
  /-- No two tasks of fan-outs that differ write to one location, in whatever order they go on, as long
  as there are no links in the directories of the sessions. -/
  writes : ∀ (us : List Undertaking) (root : Location) (w : World) (events : List Abreast.Event),
    (∀ u ∈ us, u.IsProper base) → us.Pairwise Undertaking.Differs → Abreast.Housed us root w.tree →
      (∀ w', .changes w' ∈ events → Abreast.Housed us root w'.tree) →
      ∀ (k l i j : Nat) (q : Location), Abreast.Writes us w events k i q →
        Abreast.Writes us w events l j q → k = l ∧ i = j

/-- **Files of nodes never collide.** -/
theorem artifacts_apart (base : String) : KeptApart base where
  told _ _ _ _ := Artifact.told_of_same
  others s t a under under' proper :=
    ⟨Artifact.other_of_reserved under under' proper Session.isName_config (by decide +kernel),
      Artifact.other_of_reserved under under' proper Session.isName_log (by decide +kernel),
      Artifact.other_of_reserved under under' proper Session.isName_manifest (by decide +kernel)⟩
  below s a proper :=
    ⟨a.names, a.names_ne_nil, proper.isName, (Artifact.components_path s proper).2,
      (Artifact.components_path s proper).1⟩
  paths := by
    intro us proper differ k l i j u v node other path path' hu hv listed listed' streams streams' same
    have hproper := proper u (List.mem_of_getElem? hu)
    have hproper' := proper v (List.mem_of_getElem? hv)
    rw [Undertaking.path?_eq hproper, Option.map_eq_some_iff] at streams
    rw [Undertaking.path?_eq hproper', Option.map_eq_some_iff] at streams'
    obtain ⟨a, kept, rfl⟩ := streams
    obtain ⟨b, kept', rfl⟩ := streams'
    obtain ⟨ids, rfl⟩ := Artifact.told_of_same hproper.under hproper'.under
      (Undertaking.isProper_of_artifact hproper listed kept)
      (Undertaking.isProper_of_artifact hproper' listed' kept') same
    exact Undertaking.numbers_eq_of_artifact proper differ hu hv listed listed' kept kept' ids
  writes _ _ _ _ proper differ housed steady _ _ _ _ _ one other :=
    Abreast.eq_of_writes proper differ housed steady one other

/-! ### Two tasks of one session -/

namespace Abreast

open SystemInfo (sample sampleNodes sampleWorld)

/-- The results of a run are fetched from the first of two nodes, while the system information of both
is. -/
def sampleUndertakings : List Undertaking :=
  [.informing sample 0 sampleNodes,
    .ending ⟨sample.session, 5⟩ ⟨"r", "/s/r", .ofNames ["a"], .new "StartCollection"⟩ 0]

/-- Each task dials its monitor. -/
def dials (k i : Nat) : List Event :=
  [.happens k (.advance i .begun), .happens k (.advance i (.answer (.address (.ok "h")))),
    .happens k (.advance i (.answer (.connected true)))]

/-- The task of a node when its call is made. -/
def called (node : String) : Member Task :=
  ⟨node, .running (.attempting 1 (.calling ⟨node, ⟨"h", 8451⟩, none⟩))⟩

/-- All tasks have made their calls, and nothing is written yet. -/
theorem run_sample (w : World) : ∃ g,
    (start sampleUndertakings w).run sampleUndertakings (dials 0 0 ++ dials 0 1 ++ dials 1 0) = some g ∧
      g.world.tree = w.tree ∧ g.member? 0 0 = some (called "a") ∧ g.member? 0 1 = some (called "b") ∧
      g.member? 1 0 = some (called "a") := by
  have valid : Net.isServiceAddress (Endpoint.text ⟨"h", 8451⟩) = true := by decide +kernel
  have alone : (NameSet.ofNames ["a"]).names = ["a"] := rfl
  have evaluated : ((start sampleUndertakings w).run sampleUndertakings
      (dials 0 0 ++ dials 0 1 ++ dials 1 0)).map
        (fun g => (g.fanOuts.map (·.members), g.world.tree)) =
      some ([[called "a", called "b"], [called "a"]], w.tree) := by
    simp [dials, sampleUndertakings, start, run, apply, Undertaking.operation, Undertaking.nodes,
      SystemInfo.operation, SystemInfo.work, Collector.endOperation, Collector.endWork, Work.fanOut,
      sampleNodes, alone, FanOut.start, FanOut.spawnAll, FanOut.apply, FanOut.setPhase, Task.step,
      Task.attempt, Attempt.start, Attempt.step, Dialing.start, Dialing.step, Dialing.resolved,
      Resolving.start, Resolving.step, sample, Session.monitors, Config.default, valid, called]
  obtain ⟨g, hg, same⟩ := Option.map_eq_some_iff.mp evaluated
  obtain ⟨members, tree⟩ := Prod.mk.inj same
  have at_ : ∀ k i, g.member? k i = (([[called "a", called "b"], [called "a"]] :
      List (List (Member Task)))[k]?.bind fun ms => ms[i]?) := by
    intro k i
    rw [← members, List.getElem?_map, member?]
    cases g.fanOuts[k]? <;> rfl
  exact ⟨g, hg, tree, at_ 0 0, at_ 0 1, at_ 1 0⟩

/-- A call of a task is taken. -/
def taken (k i : Nat) : Event := .happens k (.advance i (.answer (.reply (.ok ()))))

/-- Two calls are taken, one after the other. -/
theorem writes_both {w : World} {k i l j : Nat} {u v : Undertaking} {node other path path' : String}
    {q q' : Location} (apart : (l, j) ≠ (k, i)) (hu : sampleUndertakings[k]? = some u)
    (hv : sampleUndertakings[l]? = some v)
    (members : ∀ g : Abreast, g.member? 0 0 = some (called "a") → g.member? 0 1 = some (called "b") →
      g.member? 1 0 = some (called "a") →
      g.member? k i = some (called node) ∧ g.member? l j = some (called other))
    (streams : (u.work.job node).path? = some path) (streams' : (v.work.job other).path? = some path')
    (leads : w.tree.place? path = some q) (leads' : w.tree.place? path' = some q') :
    let events := dials 0 0 ++ dials 0 1 ++ dials 1 0 ++ [taken k i, taken l j]
    Writes sampleUndertakings w events k i q ∧ Writes sampleUndertakings w events l j q' := by
  obtain ⟨g, dialed, tree, first, second, third⟩ := run_sample w
  obtain ⟨member, member'⟩ := members g first second third
  obtain ⟨g₁, step, streamsAt, ⟨content, filled⟩, others⟩ :=
    writes_of_reply hu member streams (tree ▸ leads)
  have leads₁ : g₁.world.tree.place? path' = some q' :=
    filled.place? (Tree.isFileOrFree_of_place? (tree ▸ leads)) (tree ▸ leads')
  obtain ⟨g₂, step', streamsAt', -, -⟩ :=
    writes_of_reply hv ((others l j apart).trans member') streams' leads₁
  refine ⟨⟨_, _, [taken l j], g, g₁, rfl, dialed, step, rfl, .inr streamsAt⟩,
    ⟨dials 0 0 ++ dials 0 1 ++ dials 1 0 ++ [taken k i], _, [], g₁, g₂, by simp [taken], ?_, step', rfl,
      .inr streamsAt'⟩⟩
  rw [run_concat, dialed]
  exact step

theorem proper_sample : ∀ u ∈ sampleUndertakings, u.IsProper "/" := by
  have under : sample.session.Under "/" := ⟨by decide +kernel, by decide +kernel⟩
  have names : (NameSet.ofNames ["a"]).names = ["a"] := rfl
  intro u mem
  obtain rfl | rfl : u = .informing sample 0 sampleNodes ∨ u = .ending _ _ 0 := by
    simpa [sampleUndertakings] using mem
  · exact ⟨under, by decide, by decide, by simp⟩
  · refine ⟨under, by simp [Undertaking.nodes, names], by simp [Undertaking.nodes, names], ?_⟩
    rintro _ _ _ ⟨⟩
    exact ⟨by decide +kernel, by decide +kernel⟩

theorem differ_sample : sampleUndertakings.Pairwise Undertaking.Differs := by
  simp [sampleUndertakings, Undertaking.Differs]

/-- A world with the directories of a session and of its run. -/
def bareWorld : World where
  tree := ⟨[(["s"], .directory), (["s", "r"], .directory)], []⟩
  tokens := { runs := [false] }

theorem settled_bare : sample.session.Settled ["s"] bareWorld.tree := by
  have there : bareWorld.tree.find true "/s" = .ok (.found ["s"] .directory) :=
    Tree.find_of_straight? rfl true
  refine ⟨by rw [sample, Tree.directory?, there], fun q hq => ?_⟩
  by_cases run : q = ["r"]
  · exact .inl (by simp [run, Tree.get?, bareWorld])
  · exact .inr ⟨by simp, .inl (by simp [Tree.get?, bareWorld, hq, Ne.symm run])⟩

theorem housed_bare : Housed sampleUndertakings [] bareWorld.tree := by
  have unlinked := settled_bare.unlinked
  intro u mem
  obtain rfl | rfl : u = .informing sample 0 sampleNodes ∨ u = .ending _ _ 0 := by
    simpa [sampleUndertakings] using mem
  · exact unlinked
  · exact unlinked

/-- While the results of a run are fetched from a node, its system information is fetched, too. -/
theorem apart_on_one_node : ∃ events,
    Writes sampleUndertakings bareWorld events 0 0 ["s", "a.sysinfo"] ∧
    Writes sampleUndertakings bareWorld events 1 0 ["s", "r", "perf-a.tar.bz2"] ∧
    ∀ q, ¬ (Writes sampleUndertakings bareWorld events 0 0 q ∧
      Writes sampleUndertakings bareWorld events 1 0 q) := by
  have leads : bareWorld.tree.place? (sample.path "a") = some ["s", "a.sysinfo"] :=
    Tree.place?_join settled_bare.leads (Session.isName_sysinfoName (by decide : '/' ∉ "a".toList))
      (by decide +kernel) ⟨by simp, .inl (by decide +kernel)⟩
  have leads' : bareWorld.tree.place? (Session.archivePath "/s/r" "a") =
      some ["s", "r", "perf-a.tar.bz2"] := by
    have inner := settled_bare.directory?_run (by decide +kernel : Session.isValidRun "r" = true)
      (by decide +kernel) (by simp [Tree.get?, bareWorld])
    exact Tree.place?_join inner (Session.isName_archiveName (by decide : '/' ∉ "a".toList))
      (by decide +kernel) ⟨by simp, .inl (by decide +kernel)⟩
  obtain ⟨one, other⟩ := writes_both (k := 0) (i := 0) (l := 1) (j := 0) (by simp) rfl rfl
    (fun _ h _ h' => ⟨h, h'⟩) rfl rfl leads leads'
  refine ⟨_, one, other, ?_⟩
  rintro q ⟨first, second⟩
  have same := (artifacts_apart "/").writes _ [] _ _ proper_sample differ_sample housed_bare
    (by simp [dials, taken]) 0 1 0 0 q first second
  exact absurd same.1 (by decide)

/-- **Two tasks may write to one file**, if one of their paths leads there by a link. -/
theorem written_twice_of_link : (∀ u ∈ sampleUndertakings, u.IsProper "/") ∧
    sampleUndertakings.Pairwise Undertaking.Differs ∧
    ∃ events, Writes sampleUndertakings (sampleWorld (.link "b.sysinfo")) events 0 0 ["s", "b.sysinfo"] ∧
      Writes sampleUndertakings (sampleWorld (.link "b.sysinfo")) events 0 1 ["s", "b.sysinfo"] :=
  ⟨proper_sample, differ_sample, _, writes_both (by simp) rfl rfl (fun _ h h' _ => ⟨h, h'⟩) rfl rfl
    SystemInfo.place?_link (SystemInfo.place?_free _)⟩

end Abreast

end MonitorFleet
