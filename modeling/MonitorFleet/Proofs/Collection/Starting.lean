import MonitorFleet.Proofs.Collection.Participants
import MonitorFleet.Proofs.Session.Footprint

/-!
# Runs that cannot start

A run is not started if its id names no directory of its own, if this directory cannot be made, or if
the cluster does not list the nodes, and for no other reason: what becomes of the nodes is told by the
report of a run that was started. Whoever is to be refused is refused before anybody is touched. No
node is looked up, no tunnel is opened, no monitor is called, and an id that is none leaves no trace at
all.

## What is proved

* `Session.isValidRun_iff`: which texts are ids of runs.
* `Session.runDir_cases`: when the directory of a run can be made.
* `Collector.startWith_listed`: once the nodes are listed, the start of a run is its fan-out.
* `Collector.ok_of_listed`, `Collector.completes_of_listed`: it is no failure, however the fan-out went,
  and the fan-out can come to its end.
* `Collector.starts_or_leaves`: **a run that cannot start touches nobody**, and any other one starts.
-/

namespace MonitorFleet

open FanOut (Event)
open Session (Footprint)

/-! ### The directory of a run -/

namespace Session

/-- Whether a text is the id of no run: joined to the directory of a session it would not name a
directory in it, or not on every system. -/
def NamesNoRun (run : String) : Prop :=
  run = "" ∨ run = "." ∨ run = ".." ∨ '/' ∈ run.toList ∨ '\\' ∈ run.toList

theorem isValidRun_iff (run : String) : isValidRun run = true ↔ ¬ NamesNoRun run := by
  simp only [isValidRun, NamesNoRun, Bool.and_eq_true, decide_eq_true_eq, List.all_eq_true, not_or]
  constructor
  · rintro ⟨⟨⟨empty, here⟩, up⟩, inside⟩
    exact ⟨empty, here, up, fun slash => (inside _ slash).1 rfl, fun slash => (inside _ slash).2 rfl⟩
  · rintro ⟨empty, here, up, slash, backslash⟩
    exact ⟨⟨⟨empty, here⟩, up⟩, fun c hc => ⟨fun heq => slash (heq ▸ hc), fun heq => backslash (heq ▸ hc)⟩⟩

/-- Whether a session has room for a run in its directory: the name keeps to the limits and is
free, or a directory is there. -/
def HasRoom (s : Session) (home : Location) (run : String) (tree : Tree) : Prop :=
  Tree.Fits s.dir run ∧ tree.get? (home ++ [run]) = none ∨
    tree.isDirectory (Path.join s.dir run) = true

variable {s : Session} {home : Location} {tree : Tree} {run : String}

theorem runDir_of_namesNoRun (s : Session) (tree : Tree) (bad : NamesNoRun run) :
    s.runDir run tree = (.error (.session s!"invalid run id '{run}'"), tree) := by
  have invalid : isValidRun run = false :=
    Bool.eq_false_iff.2 fun valid => (isValidRun_iff run).1 valid bad
  simp [runDir, invalid]

/-- **The directory of a run is made if there is room for it**, and else nothing is. -/
theorem runDir_cases (leads : tree.directory? s.dir = some home) (good : ¬ NamesNoRun run) :
    (s.HasRoom home run tree ∧ ∃ later, s.runDir run tree = (.ok (Path.join s.dir run), later) ∧
      later.isDirectory (Path.join s.dir run) = true) ∨
    (¬ s.HasRoom home run tree ∧
      ∃ fault, s.runDir run tree = (.error (.io (Path.join s.dir run) fault), tree)) := by
  have valid := (isValidRun_iff run).2 good
  have proper := isName_of_isValidRun valid
  rcases Tree.makeDirectories_join leads proper with ⟨fits, free, hmake⟩ | ⟨taken, fault, hmake⟩
  · exact .inl ⟨.inl ⟨fits, free⟩, _, by simp [runDir, valid, hmake],
      Tree.isDirectory_of_makeDirectories (Path.join_ne_empty _ proper) hmake⟩
  · cases there : tree.isDirectory (Path.join s.dir run) with
    | true => exact .inl ⟨.inr there, tree, by simp [runDir, valid, hmake, there], there⟩
    | false =>
      refine .inr ⟨fun room => ?_, fault, by simp [runDir, valid, hmake, there]⟩
      rcases room with free | stands
      · exact taken free
      · exact Bool.false_ne_true (there.symm.trans stands)

end Session

/-! ### The start of a run -/

namespace Collector

open Session (NamesNoRun)

variable {c : Collector} {home : Location} {run dir : String} {token : RunToken}
  {answer : Except Error NameSet} {nodes : NameSet} {events : List (Event Happening)}
  {w w₁ w' : World} {f : FanOut World Task} {result : Except Error CollectionRun}

theorem startWith_of_error {error : Error} {tree : Tree}
    (unmade : c.session.runDir run w.tree = (.error error, tree)) (token : RunToken)
    (answer : Except Error NameSet) (events : List (Event Happening)) :
    c.startWith run token answer events w = some (.error error, { w with tree }) := by
  simp only [startWith, prepare, unmade]

theorem startWith_unlisted {tree : Tree} (made : c.session.runDir run w.tree = (.ok dir, tree))
    (token : RunToken) (error : Error) (events : List (Event Happening)) :
    c.startWith run token (.error error) events w =
      some (.error error, World.ask { w with tree } (.sessionNodes c.session.workloadSelector)) := by
  simp only [startWith, prepare, made]

/-- Once the nodes are listed, the start of a run is its fan-out. -/
theorem startWith_listed (prepared : c.prepare run w = (.ok dir, w₁))
    (ran : (c.launch run token nodes w₁).run (c.startOperation run token) events = some f)
    (isOver : f.isOver = true) :
    c.startWith run token (.ok nodes) events w =
      some (.ok (started run dir f).1, (started run dir f).2) := by
  simp only [startWith, prepared, ran, isOver, if_true]

/-- The start of a run makes its directory, and changes nothing else in the tree. -/
theorem leaves_of_startWith (leads : w.tree.directory? c.session.dir = some home)
    (h : c.startWith run token answer events w = some (result, w')) :
    (Footprint.directory run).Leaves home w.tree w'.tree := by
  rcases startWith_cases h with ⟨_, prepared, -⟩ | ⟨_, _, prepared, -⟩ | ⟨r, rfl⟩
  · exact Session.leaves_prepare leads prepared
  · exact Session.leaves_prepare leads prepared
  · obtain ⟨dir, nodes, w₁, f, prepared, -, ran, -, heq⟩ := startWith_ok h
    cases heq
    exact Session.leaves_launch leads prepared ran

/-- A run whose nodes are listed is started, however its fan-out went. -/
theorem ok_of_listed {tree : Tree} (made : c.session.runDir run w.tree = (.ok dir, tree))
    (there : tree.isDirectory dir = true)
    (h : c.startWith run token (.ok nodes) events w = some (result, w')) :
    ∃ r, result = .ok r ∧ r.id = run ∧ r.dir = dir ∧ w'.tree.isDirectory r.dir = true := by
  rcases startWith_cases h with ⟨_, prepared, -⟩ | ⟨_, _, -, failed, -⟩ | ⟨r, rfl⟩
  · rw [prepare, made] at prepared
    cases prepared
  · cases failed
  · obtain ⟨dir, nodes, w₁, f, prepared, -, ran, -, heq⟩ := startWith_ok h
    rw [prepare, made] at prepared
    cases prepared
    cases heq
    obtain ⟨place, leads⟩ := Tree.isDirectory_iff.1 there
    have kept := (Session.written_of_launch ran).keeps.directory? leads
    exact ⟨_, rfl, rfl, rfl, Tree.isDirectory_iff.2 ⟨place, kept⟩⟩

/-- A run whose nodes are listed can be started, from wherever its fan-out got. -/
theorem completes_of_listed {tree : Tree} (made : c.session.runDir run w.tree = (.ok dir, tree))
    (ran : (c.launch run token nodes (c.prepare run w).2).run (c.startOperation run token) events =
      some f) :
    ∃ more, .cancel ∉ more ∧ (c.startWith run token (.ok nodes) (events ++ more) w).isSome = true := by
  obtain ⟨more, g, completes, isOver, awaited⟩ := Work.completes (c.startWork run token)
    [startSpan run] f
  have prepared : c.prepare run w = (.ok dir, (c.prepare run w).2) := by simp only [prepare, made]
  have whole : (c.launch run token nodes (c.prepare run w).2).run (c.startOperation run token)
      (events ++ more) = some g := by
    rw [FanOut.run_append, ran]
    exact completes
  refine ⟨more, fun hmem => Bool.false_ne_true (awaited _ hmem), ?_⟩
  rw [startWith_listed prepared whole isOver]
  rfl

/-- A run starts, or leaves everybody alone. The reasons against it are looked at in this order. -/
structure StartsOrLeaves (c : Collector) (home : Location) (run : String) (token : RunToken)
    (answer : Except Error NameSet) (w : World) : Prop where
  /-- What is no id of a run is refused, and the world is as it was: the cluster was not asked. -/
  unnamed : NamesNoRun run → ∀ events, c.startWith run token answer events w =
    some (.error (.session s!"invalid run id '{run}'"), w)
  /-- Without room for its directory it is refused, and the world is as it was. -/
  crowded : ¬ NamesNoRun run → ¬ c.session.HasRoom home run w.tree → ∃ fault, ∀ events,
    c.startWith run token answer events w =
      some (.error (.io (Path.join c.session.dir run) fault), w)
  /-- If the cluster does not list the nodes, its error is passed on: it was asked for them, and this
  is all that was done beside making the directory. -/
  unlisted : ¬ NamesNoRun run → c.session.HasRoom home run w.tree →
    ∀ error, answer = .error error → ∃ tree, ∀ events, c.startWith run token answer events w =
      some (.error error, World.ask { w with tree } (.sessionNodes c.session.workloadSelector))
  /-- Else it starts, whatever becomes of the nodes: no way to its end is a failure. -/
  listed : ¬ NamesNoRun run → c.session.HasRoom home run w.tree →
    ∀ nodes, answer = .ok nodes → ∀ events result w',
      c.startWith run token answer events w = some (result, w') →
      ∃ r, result = .ok r ∧ r.id = run ∧ r.dir = Path.join c.session.dir run ∧
        w'.tree.isDirectory r.dir = true
  /-- And from wherever it got it can come to its end. -/
  ends : ¬ NamesNoRun run → c.session.HasRoom home run w.tree →
    ∀ nodes, answer = .ok nodes → ∀ events f,
      (c.launch run token nodes (c.prepare run w).2).run (c.startOperation run token) events = some f →
      ∃ more, .cancel ∉ more ∧ (c.startWith run token answer (events ++ more) w).isSome = true
  /-- The directory of the run is directly in that of the session. -/
  child : ¬ NamesNoRun run → Path.components (Path.join c.session.dir run) =
    Path.components c.session.dir ++ [run]
  /-- Whatever happens, nothing else in the tree is changed. -/
  leaves : ∀ events result w', c.startWith run token answer events w = some (result, w') →
    (Footprint.directory run).Leaves home w.tree w'.tree

/-- **A run that cannot start touches nobody**, and any other one starts. -/
theorem starts_or_leaves (leads : w.tree.directory? c.session.dir = some home) (run : String)
    (token : RunToken) (answer : Except Error NameSet) :
    c.StartsOrLeaves home run token answer w where
  unnamed bad := startWith_of_error (Session.runDir_of_namesNoRun _ _ bad) token answer
  crowded good full := by
    rcases Session.runDir_cases leads good with ⟨room, -⟩ | ⟨-, fault, unmade⟩
    · exact absurd room full
    · exact ⟨fault, startWith_of_error unmade token answer⟩
  unlisted good room := by
    rcases Session.runDir_cases leads good with ⟨-, later, made, -⟩ | ⟨full, -⟩
    · rintro error rfl
      exact ⟨later, startWith_unlisted made token error⟩
    · exact absurd room full
  listed good room := by
    rcases Session.runDir_cases leads good with ⟨-, later, made, there⟩ | ⟨full, -⟩
    · rintro nodes rfl events result w' h
      exact ok_of_listed made there h
    · exact absurd room full
  ends good room := by
    rcases Session.runDir_cases leads good with ⟨-, later, made, -⟩ | ⟨full, -⟩
    · rintro nodes rfl events f ran
      exact completes_of_listed made ran
    · exact absurd room full
  child good := Path.components_join _ (Session.isName_of_isValidRun ((Session.isValidRun_iff run).2 good))
  leaves _ _ _ := leaves_of_startWith leads

/-- Both nodes of a run break down, and it is started all the same; with an id that goes up it would
not have been. -/
theorem starts_without_nodes :
    (∀ events, sample.startWith ".." 0 (.ok (.ofNames ["a", "b"])) events sampleWorld =
      some (.error (.session "invalid run id '..'"), sampleWorld)) ∧
    ∃ r w', sample.startWith "r" 0 (.ok (.ofNames ["a", "b"]))
        [.crash 1 "out of memory", .crash 0 "out of memory", .join 0, .join 1] sampleWorld =
          some (.ok r, w') ∧
      r.participants.names = [] ∧ r.dir = "/s/r" ∧
      (Footprint.directory "r").Leaves ["s"] sampleWorld.tree w'.tree := by
  have leads : sampleWorld.tree.directory? sample.session.dir = some ["s"] := settled_sample.leads
  have starts := fun run => starts_or_leaves (c := sample) leads run 0 (.ok (.ofNames ["a", "b"]))
  refine ⟨(starts "..").unnamed (by simp [NamesNoRun]), ?_⟩
  have evaluated : (sample.startWith "r" 0 (.ok (.ofNames ["a", "b"]))
      [.crash 1 "out of memory", .crash 0 "out of memory", .join 0, .join 1] sampleWorld).map
        (fun x => x.1.toOption.map (·.participants.names)) = some (some []) := by
    simp only [startWith, prepare_sample]
    decide +kernel
  rw [Option.map_eq_some_iff] at evaluated
  obtain ⟨⟨result, w'⟩, started, hresult⟩ := evaluated
  have good : ¬ NamesNoRun "r" := (Session.isValidRun_iff "r").1 (by decide +kernel)
  have room : sample.session.HasRoom ["s"] "r" sampleWorld.tree :=
    .inl ⟨by decide +kernel, by decide +kernel⟩
  obtain ⟨r, rfl, -, dir, -⟩ := (starts "r").listed good room _ rfl _ _ _ started
  exact ⟨r, w', started, Option.some.inj hresult, dir, (starts "r").leaves _ _ _ started⟩

end Collector

end MonitorFleet
