import MonitorFleet.Proofs.Manifest.Labels
import MonitorFleet.Proofs.Session.SideBySide
import MonitorFleet.Proofs.Task.Exhausting
import MonitorFleet.Proofs.Task.Questions

/-!
# Every session has settings that can be used

Settings are checked once, when a session is opened; those of a new session are the defaults. All that is
done with the session later relies on this: the manifest and the two selectors need the label of the
monitors, and the retrieval of system information takes the number of attempts as it is. So nothing that
is provided for the lack of a label ever happens, whatever was in the file of the settings and whatever
becomes of the file afterwards.

A session lives from the moment at which it is made or opened (`Session.Lives`), and on record is what the
cluster was asked on its behalf. What is done with it goes in steps, so that several operations may go on
side by side, and between two steps the world may change in any way.

## What is proved

* `Obtained.configured`: what holds of the label that the monitors of a session have.
* `Obtained.retriesAsSet`: the system information is retried as the settings say.
* `Uses.asks`: what the cluster is asked in one step.
* `Lives.run`: all that happens in a fan-out belongs to the life of its session.
* `configured_of_lives`: **every session has settings that can be used**, and they are what it asks the
  cluster by, all its life.
-/

namespace MonitorFleet

open FanOut (Event)
open Selector (IsPlain Matches)

namespace Session

/-! ### What is done with a session -/

/-- One step of what is done with a session, from a world to another. -/
inductive Uses (s : Session) : World → World → Prop where
  /-- A run is prepared: its directory is made and the nodes of the workload are asked for, unless the
  directory is refused. -/
  | prepares {c : Collector} {run : String} {result : Except Error String} {w w' : World}
      (own : c.session = s) (prepared : c.prepare run w = (result, w')) : Uses s w w'
  /-- All nodes are asked for, to fetch their system information. -/
  | lists {w : World} : Uses s w (SystemInfo.prepare w)
  /-- Something happens in a fan-out of the session, wherever it stands. -/
  | happens {u : Undertaking} {e : Event Happening} {f f' : FanOut World Task} (own : u.session = s)
      (hap : FanOut.Happens u.operation f e f') : Uses s f.world f'.world
  /-- The only attempt at the system information of one node begins. -/
  | attempts {token : RunToken} {node : String} {w : World} :
      Uses s w (Task.attempt (SystemInfo.singleWork s token) node 1 w).1
  /-- The only attempt goes on. -/
  | fetches {token : RunToken} {node : String} {task : Task} {x : Happening} {w w' : World}
      {p : Progress Task UInt64}
      (step : task.step (SystemInfo.singleWork s token) node w x = some (w', p)) : Uses s w w'
  /-- The directory of a run is made. -/
  | makes {run : String} {result : Except Error String} {w : World} {tree : Tree}
      (made : s.runDir run w.tree = (result, tree)) : Uses s w { w with tree }
  /-- The log is opened. -/
  | logs {result : Except Error Location} {w : World} {tree : Tree}
      (opened : s.openLog w.tree = (result, tree)) : Uses s w { w with tree }
  /-- The manifest is written. -/
  | writes {result : Except Error String} {w : World} {tree : Tree}
      (wrote : s.writeManifest w.tree = (result, tree)) : Uses s w { w with tree }

/-- The life of a session, with all that the cluster was asked on its behalf. A step may begin in any
world, since others change the world in between, the file of the settings included. -/
inductive Lives : Session → List Query → Prop where
  /-- The session is made. -/
  | made {id base : String} {random : UInt32} {tree later : Tree} {s : Session}
      (h : init id base random tree = (.ok s, later)) : Lives s []
  /-- The session is opened. -/
  | opened {id base : String} {tree : Tree} {s : Session} (h : Session.open id base tree = .ok s) :
      Lives s []
  /-- Its monitors are to be reached in another way. -/
  | reached {s : Session} {asked : List Query} (h : Lives s asked) (connectivity : Connectivity) :
      Lives (s.withConnectivity connectivity) asked
  /-- Something is done with it. -/
  | used {s : Session} {asked more : List Query} {w w' : World} (h : Lives s asked) (uses : s.Uses w w')
      (added : w'.asked = w.asked ++ more) : Lives s (asked ++ more)

/-! ### What the settings are good for -/

/-- A session whose monitors have a label: all that is done with the monitors goes by it. -/
structure Configured (s : Session) (key value : String) : Prop where
  label : s.config.monitorLabel? = some (key, value)
  /-- Its key and its value are not empty and hold nothing that means something in a selector. -/
  sides : Config.IsSide key.toList ∧ Config.IsSide value.toList
  /-- The selector by which the pod of a monitor is looked for spells the label. -/
  spelled : s.monitors.selector = key ++ "=" ++ value
  /-- The manifest can be had, and each of its three maps of labels holds the label. -/
  stamped : ∃ set, s.daemonSet = .ok set ∧ set.labels.get? key = some value ∧
    set.matchLabels.get? key = some value ∧ set.podLabels.get? key = some value
  /-- Only the file can be in the way of writing it. -/
  written : ∀ tree error later, s.writeManifest tree = (.error error, later) →
    ∃ fault, error = .io s.manifestPath fault
  /-- The selector of the workload is that of the session, and a term that shuts out the label. -/
  workload : s.workloadSelector = s.selector ++ "," ++ (key ++ "!=" ++ value)
  /-- It is never the selector of the session alone. -/
  narrowed : s.workloadSelector ≠ s.selector
  /-- Of the pods that the manifest makes, none is part of the workload, though each of them matches the
  selector of the session alone if the session's label is plain and has a key of its own; and each is
  matched when the pod of a monitor is looked for. -/
  apart : ∀ set labels, s.daemonSet = .ok set → set.Makes labels →
    ¬ Matches s.workloadSelector labels ∧ Matches s.monitors.selector labels ∧
      (IsPlain s.config.sessionLabelKey.toList → s.config.sessionLabelKey ≠ key →
        Matches s.selector labels)

/-- How far a retrieval of system information may get, by the policy of the session. -/
def Retrieves (s : Session) (token : RunToken) (nodes : List NodeAddress)
    (events : List (Event Happening)) (w : World) (f : FanOut World Task) : Prop :=
  ((SystemInfo.ofSession s).launch token nodes w).run ((SystemInfo.ofSession s).operation token) events =
    some f

/-- That system information is retried just as the settings say. -/
structure RetriesAsSet (s : Session) : Prop where
  positive : 1 ≤ s.config.sysinfoRetry.maxAttempts
  /-- A policy takes the number of attempts as it is. -/
  unclamped : ∀ delay : Duration, RetryPolicy.new s.config.sysinfoRetry.maxAttempts delay =
    ⟨s.config.sysinfoRetry.maxAttempts, delay⟩
  /-- The policy of the session has this number, and the delay of the settings. -/
  policy : (SystemInfo.ofSession s).policy =
    ⟨s.config.sysinfoRetry.maxAttempts, .ofSecs s.config.sysinfoRetry.delaySecs.toNat⟩
  /-- Nodes that are listed once each are not attempted more often. -/
  attempts : ∀ {token nodes events w f}, s.Retrieves token nodes events w f →
    (nodes.map (·.name)).Nodup → ∀ i < nodes.length,
      attemptsOf i events ≤ s.config.sysinfoRetry.maxAttempts.toNat
  /-- A node is given up as exhausted after just so many attempts. -/
  exhausted : ∀ {token nodes events w f}, s.Retrieves token nodes events w f →
    ∀ {node operation on : String} {n : UInt32} {source : Error},
      f.report.get? node = some (.error (.retryExhausted operation on n source)) →
        n = s.config.sysinfoRetry.maxAttempts
  /-- A task that pauses has an attempt left, and waits for the delay of the settings. -/
  pauses : ∀ {token nodes events w f}, s.Retrieves token nodes events w f →
    ∀ {i : Nat} {node : String} {n : UInt32}, f.members[i]? = some ⟨node, .running (.pausing n)⟩ →
      n < s.config.sysinfoRetry.maxAttempts ∧
        Task.question? ((SystemInfo.ofSession s).work token) node (.pausing n) =
          some (.pause (.ofSecs s.config.sysinfoRetry.delaySecs.toNat))

/-- The questions that may be asked on behalf of a session whose monitors have a label. -/
inductive Permits (s : Session) (key value : String) : Query → Prop where
  /-- The nodes of the workload, without the monitors. -/
  | workload : Permits s key value (.sessionNodes (s.selector ++ "," ++ (key ++ "!=" ++ value)))
  | nodes : Permits s key value .nodesAndIps
  | address {node : String} : Permits s key value (.nodeIp node)
  /-- The pod of a monitor, by the label. -/
  | pod {node : String} : Permits s key value (.podForNode node (key ++ "=" ++ value))
  /-- A way to the port of the monitors. -/
  | tunnel {pod : PodRef} {token : TunnelToken} :
      Permits s key value (.portForward pod s.config.monitorPort token)

variable {s : Session} {key value : String} {w w' : World} {asked : List Query}

/-! ### The label -/

/-- Each error of writing the manifest is one of its file, if there is a manifest. -/
theorem io_of_writeManifest {set : DaemonSet} (made : s.daemonSet = .ok set) {tree later : Tree}
    {error : Error} (h : s.writeManifest tree = (.error error, later)) :
    ∃ fault, error = .io s.manifestPath fault := by
  rw [writeManifest, made] at h
  dsimp only at h
  split at h
  · next fault _ _ =>
    cases h
    exact ⟨fault, rfl⟩
  · cases h

/-- A selector that goes on with another term is another one. -/
theorem workloadSelector_ne (label : s.config.monitorLabel? = some (key, value)) :
    s.workloadSelector ≠ s.selector := by
  intro h
  have longer := congrArg (fun text => text.toList.length) h
  rw [workloadSelector_eq label] at longer
  simp at longer

/-- The monitors of every session have a label, and all that is done with them goes by it. -/
theorem Obtained.configured (h : s.Obtained) : ∃ key value, s.Configured key value := by
  obtain ⟨key, value, label, spelled, sides⟩ := Config.monitorLabel_of_fault? h.fault?
  obtain ⟨set, made, labels, matchLabels, get?⟩ := daemonSet_eq label
  have own : set.podLabels.get? key = some value := by rw [get?, if_pos rfl]
  refine ⟨key, value, label, sides, spelled, ⟨set, made, labels ▸ own, matchLabels ▸ own, own⟩,
    fun _ _ _ => io_of_writeManifest made, workloadSelector_eq label, workloadSelector_ne label, ?_⟩
  intro set' labels' made' makes
  cases made.symm.trans made'
  have monitor : s.IsMonitor labels' := (isMonitor_iff label labels').2 (makes _ _ own)
  refine ⟨fun part => ((matches_workloadSelector h labels').1 part).2 monitor,
    (matches_monitorSelector h labels').2 monitor, fun plain other => ?_⟩
  rw [selector, Session.label, Selector.matches_single plain h.isPlain_id]
  exact makes _ _ (by rw [get?, if_neg other, if_pos rfl])

/-! ### The attempts -/

/-- The system information of every session is retried as its settings say. -/
theorem Obtained.retriesAsSet (h : s.Obtained) : s.RetriesAsSet := by
  have positive := ((Config.fault?_eq_none_iff _).1 h.fault?).1
  have policy : (SystemInfo.ofSession s).policy =
      ⟨s.config.sysinfoRetry.maxAttempts, .ofSecs s.config.sysinfoRetry.delaySecs.toNat⟩ :=
    RetryPolicy.new_of_one_le positive _
  have retried := fun token =>
    (congrArg some policy : ((SystemInfo.ofSession s).work token).policy = some _)
  refine ⟨positive, RetryPolicy.new_of_one_le positive, policy, ?_, ?_, ?_⟩
  · intro token nodes events w f ran distinct i hi
    have within := attemptsOf_le distinct (List.getElem?_eq_getElem (by simpa using hi)) (retried token) ran
    exact within.trans_eq (RetryPolicy.limit_of_one_le positive)
  · intro token nodes events w f ran node operation on n source recorded
    exact Work.attempts_of_exhausted (retried token) positive ran recorded
  · intro token nodes events w f ran i node n member
    obtain ⟨_, -, left⟩ := Work.numbered_of_run (retried token) ran i node _ member
    exact ⟨left, congrArg (Option.map fun p : RetryPolicy => Question.pause p.delay) (retried token)⟩

/-! ### The questions -/

theorem Configured.permits (h : s.Configured key value) {node : String} {q : Query}
    (asks : s.monitors.Asks node q) : s.Permits key value q := by
  cases asks with
  | address _ => exact .address
  | pod _ => exact h.spelled ▸ .pod
  | tunnel => exact .tunnel

/-- What one step asks the cluster is permitted. -/
theorem Uses.asks (h : s.Configured key value) (uses : s.Uses w w') :
    w.AsksOnly (s.Permits key value) w' := by
  cases uses with
  | @prepares c run result _ _ own prepared =>
    unfold Collector.prepare at prepared
    split at prepared
    · cases prepared
      exact .of_eq rfl
    · cases prepared
      rw [own, h.workload]
      exact .of_ask rfl .workload
  | lists => exact .of_ask rfl .nodes
  | @happens u _ _ _ own hap =>
    obtain ⟨spans, hop⟩ := u.operation_eq
    rw [hop] at hap
    have monitors : u.work.monitors = s.monitors := by
      subst own
      cases u <;> rfl
    refine (Work.asks_of_happens hap).mono fun q ⟨node, asks⟩ => ?_
    exact h.permits (monitors ▸ asks)
  | attempts => exact (Task.asks_attempt ..).mono fun _ => h.permits
  | fetches step => exact (Task.goes_of_step step).asks.mono fun _ => h.permits
  | makes _ => exact .of_eq rfl
  | logs _ => exact .of_eq rfl
  | writes _ => exact .of_eq rfl

theorem Lives.obtained (h : s.Lives asked) : s.Obtained := by
  induction h with
  | made h => exact .made h
  | opened h => exact .opened h
  | reached _ connectivity ih => exact ih.reached connectivity
  | used _ _ _ ih => exact ih

/-- All that happens in a fan-out of a session belongs to its life. -/
theorem Lives.run {u : Undertaking} {events : List (Event Happening)} {f f' : FanOut World Task}
    {more : List Query} (h : s.Lives asked) (own : u.session = s)
    (ran : f.run u.operation events = some f') (added : f'.world.asked = f.world.asked ++ more) :
    s.Lives (asked ++ more) := by
  obtain ⟨_, _, configured⟩ := h.obtained.configured
  have along : ∃ more, f'.world.asked = f.world.asked ++ more ∧ s.Lives (asked ++ more) := by
    refine FanOut.run_induction ran
      (P := fun _ g => ∃ more, g.world.asked = f.world.asked ++ more ∧ s.Lives (asked ++ more))
      ⟨[], (List.append_nil _).symm, by rwa [List.append_nil]⟩ ?_
    rintro _ _ _ g g' - - ⟨before, added, life⟩ hap
    have uses : s.Uses g.world g'.world := .happens own hap
    obtain ⟨last, added', -⟩ := uses.asks configured
    refine ⟨before ++ last, by rw [added', added, List.append_assoc], ?_⟩
    rw [← List.append_assoc]
    exact life.used uses added'
  obtain ⟨more', added', life⟩ := along
  rwa [List.append_cancel_left (added.symm.trans added')]

/-- How the monitors are reached makes no difference to what may be asked. -/
theorem Permits.withConnectivity {q : Query} (h : s.Permits key value q) (connectivity : Connectivity) :
    (s.withConnectivity connectivity).Permits key value q := by
  cases h with
  | workload => exact .workload
  | nodes => exact .nodes
  | address => exact .address
  | pod => exact .pod
  | tunnel => exact .tunnel

/-- What is asked on behalf of a session is permitted, all its life. -/
theorem Lives.permits (h : s.Lives asked) (label : s.config.monitorLabel? = some (key, value)) :
    ∀ q ∈ asked, s.Permits key value q := by
  induction h with
  | made _ => exact nofun
  | opened _ => exact nofun
  | reached _ connectivity ih => exact fun q hq => (ih label q hq).withConnectivity connectivity
  | used life uses added ih =>
    obtain ⟨key', value', configured⟩ := life.obtained.configured
    cases label.symm.trans configured.label
    intro q hq
    exact (List.mem_append.1 hq).elim (ih label q) ((uses.asks configured).of_append added q)

/-- **Every session has settings that can be used.** Whatever was in the file of its settings, and
whatever was done with the session since: its monitors have a label, system information is retried as the
settings say, and all that the cluster was asked on its behalf went by that label. -/
theorem configured_of_lives (h : s.Lives asked) : ∃ key value, s.Configured key value ∧
    s.RetriesAsSet ∧ ∀ q ∈ asked, s.Permits key value q := by
  obtain ⟨key, value, configured⟩ := h.obtained.configured
  exact ⟨key, value, configured, h.obtained.retriesAsSet, h.permits configured.label⟩

/-! ### A session with settings of its own -/

/-- Settings by which the monitors have another label and another port than by the defaults. -/
def probeConfig : Config :=
  { Config.default with monitorSelector := "app=probe", monitorPort := 9000, sysinfoRetry := ⟨3, 7⟩ }

/-- The session `s1` with these settings, whose monitors are reached through tunnels. -/
def probing : Session := ⟨"s1", "b/s1", .portForward, probeConfig⟩

/-- The world in which the session was opened, and one run. -/
def probedWorld : World where
  tree := settledTree probeConfig
  tokens := { runs := [false] }

/-- What the session asks when a run is prepared. -/
theorem lives_prepared : probing.Lives [.sessionNodes "knb-session=s1,app!=probe"] := by
  have life : probing.Lives [] :=
    (Lives.opened (open_settled probeConfig (by decide +kernel))).reached .portForward
  have asks : (Collector.prepare ⟨probing, 5⟩ "r" probedWorld).2.asked =
      probedWorld.asked ++ [.sessionNodes "knb-session=s1,app!=probe"] := by
    have valid : isValidRun "r" = true := by decide +kernel
    have joined : Path.join "b/s1" "r" = "b/s1/r" := by decide +kernel
    have free : (settledTree probeConfig).straight? "b/s1/r" =
        some (.ok (.absent ["b", "s1"] "r" false)) := rfl
    have selected : probing.workloadSelector = "knb-session=s1,app!=probe" := by decide +kernel
    simp [Collector.prepare, runDir, valid, joined, Tree.makeDirectories_of_absent free, probedWorld,
      World.ask, probing]
    exact selected
  exact life.used (.prepares rfl rfl) asks

/-- The task of a node begins, and is told the pod of its monitor. -/
def probeEvents : List (Event Happening) :=
  [.advance 0 .begun, .advance 0 (.answer (.pod (.ok ⟨"default", "probe-a"⟩)))]

/-- All that the session asks until the run is begun on that node. -/
def probedQueries : List Query :=
  [.sessionNodes "knb-session=s1,app!=probe", .podForNode "a" "app=probe",
    .portForward ⟨"default", "probe-a"⟩ 9000 0]

theorem lives_probing : probing.Lives probedQueries := by
  let begun : Undertaking := .starting ⟨probing, 5⟩ "r" 0 (.ofNames ["a"])
  have ran : ((FanOut.start begun.operation begun.nodes probedWorld).run begun.operation probeEvents).map
      (·.world.asked) = some probedQueries.tail := by
    decide +kernel
  obtain ⟨f, ran, asked⟩ := Option.map_eq_some_iff.1 ran
  exact lives_prepared.run (u := begun) rfl ran asked

/-- **A session whose settings are not the defaults** asks for the workload without its own monitors, and
for its monitors by their own label and at their own port. -/
theorem configured_probing : probing.Lives probedQueries ∧ ∃ key value,
    probing.Configured key value ∧ probing.RetriesAsSet ∧
      ∀ q ∈ probedQueries, probing.Permits key value q :=
  ⟨lives_probing, configured_of_lives lives_probing⟩

end Session

end MonitorFleet
