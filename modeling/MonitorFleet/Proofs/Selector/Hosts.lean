import MonitorFleet.Kubernetes.Written
import MonitorFleet.Proofs.Collection.Agreement
import MonitorFleet.Proofs.Kubernetes.Listings
import MonitorFleet.Proofs.Kubernetes.Queries
import MonitorFleet.Proofs.Selector.Workload

/-!
# The nodes of a run host the workload

A cluster knows its pods through an API server, of which only this is assumed: if it replies with pods to
a request that asks for those of a selector, these are the pods that the selector matches (`Lists`). A
run then concerns the nodes that host a pod of the workload (`Session.Hosts`), so that a node with
nothing but a monitor on it is left alone. It does not matter how many such pods a node hosts, nor how many pods are not
scheduled yet.

## What is proved

* `mem_fetched_iff`: the pods that are fetched are those that the selector matches.
* `mem_hosts_of_sessionNodes`: the nodes that the cluster lists host the workload.
* `monitor_of_podForNode`: the pod that a tunnel to a node leads to carries the monitors' label.
* `spares_of_startWith`: a run concerns the nodes that host the workload, and contacts them once.
-/

namespace MonitorFleet

open Kubernetes (Client Pod Problem Request Server fetch readPods?)
open Selector (Matches)

/-- Whether a node hosts a pod of the workload of a session. -/
def Session.Hosts (s : Session) (pods : List Pod) (node : String) : Prop :=
  ∃ p ∈ pods, p.nodeName = some node ∧ Matches s.workloadSelector p.labels

/-- **The server judges selectors**: if it replies with pods to a request that asks for those of the
namespace that a selector matches, on one node or on any, these are the pods there that it matches. The
namespace is one that a cluster can have: names of namespaces are letters, digits and dashes, so that
none of them ends a path. -/
structure Kubernetes.Lists {σ : Type} (server : Server σ) (c : Client) (pods : List Pod) (st : σ)
    (selector : String) (node : Option String) : Prop where
  unasked : '?' ∉ c.namespaceName.toList
  unmarked : '#' ∉ c.namespaceName.toList
  judges : ∀ request : Request, request.AsksForPods c.namespaceName selector node → ∀ text found,
    (server request st).2.body = .ok text → IsListOf Pod.Shown found text →
      ∀ p, p ∈ found ↔ p ∈ pods ∧ Matches selector p.labels ∧ ∀ n, node = some n → p.nodeName = some n

namespace Kubernetes.Client

variable {σ : Type} {server : Server σ} {c : Client} {pods : List Pod} {st : σ}

/-- The pods that are fetched are those that the selector matches: the request asks for these, and
the reply is read as what it shows. -/
theorem mem_fetched_iff {selector : String} {node : Option String} {found : List Pod}
    (lists : Lists server c pods st selector node)
    (fetched : (fetch server readPods? st (Request.pods c.namespaceName selector node)).2 = .ok found)
    (p : Pod) : p ∈ found ↔
      p ∈ pods ∧ Matches selector p.labels ∧ ∀ n, node = some n → p.nodeName = some n := by
  obtain ⟨request, text, sent, body, read⟩ := exists_body_of_fetch fetched
  have asks := Request.asksForPods_of_pods lists.unasked lists.unmarked sent
  exact lists.judges request asks text found body (readPods?_eq_some_iff.1 read) p

theorem mem_hostsOf (pods : List Pod) (node : String) :
    node ∈ (hostsOf pods).names ↔ ∃ p ∈ pods, p.nodeName = some node := by
  have known : ∀ (entries : List (String × Unit)) (m : NameMap Unit),
      node ∈ (entries.foldl (fun m e => m.insert e.1 e.2) m).names ↔
        node ∈ entries.map (·.1) ∨ node ∈ m.names := by
    intro entries
    induction entries with
    | nil => simp
    | cons e entries ih =>
      intro m
      rw [List.foldl_cons, ih, List.map_cons, List.mem_cons, NameMap.mem_names (m.insert ..)]
      simp only [NameMap.get?_insert]
      by_cases h : node = e.1 <;> simp [h, NameMap.mem_names]
  have nodes := known ((pods.filterMap (·.nodeName)).map fun n => (n, ())) .empty
  rw [hostsOf, NameSet.ofNames, NameMap.ofList, nodes]
  simp [NameMap.names, NameMap.empty]

/-- The nodes of a session are the hosts of the pods that are listed. -/
theorem sessionNodes_eq_ok_iff {selector : String} {nodes : NameSet} :
    (c.sessionNodes server selector st).2.1 = .ok nodes ↔ ∃ found,
      (fetch server readPods? st (Request.pods c.namespaceName selector none)).2 = .ok found ∧
        nodes = hostsOf found := by
  unfold sessionNodes
  obtain ⟨st', _ | found⟩ :=
    fetch server readPods? st (Request.pods c.namespaceName selector none)
  · simp
  · simp [eq_comm]

/-- The nodes that the cluster lists host the workload. -/
theorem mem_hosts_of_sessionNodes {s : Session} {nodes : NameSet}
    (lists : Lists server c pods st s.workloadSelector none)
    (answered : (c.sessionNodes server s.workloadSelector st).2.1 = .ok nodes) (node : String) :
    node ∈ nodes.names ↔ s.Hosts pods node := by
  obtain ⟨found, listed, rfl⟩ := sessionNodes_eq_ok_iff.1 answered
  rw [mem_hostsOf]
  constructor
  · rintro ⟨p, hp, hosted⟩
    obtain ⟨hmem, matched, -⟩ := (mem_fetched_iff lists listed p).1 hp
    exact ⟨p, hmem, hosted, matched⟩
  · rintro ⟨p, hmem, hosted, matched⟩
    exact ⟨p, (mem_fetched_iff lists listed p).2 ⟨hmem, matched, nofun⟩, hosted⟩

/-- The pod that a tunnel to a node leads to runs there and carries the monitors' label. -/
theorem monitor_of_podForNode {s : Session} {node : String} {pod : PodRef} (obtained : s.Obtained)
    (lists : Lists server c pods st s.monitors.selector (some node))
    (answered : (c.podForNode server node s.monitors.selector st).2 = .ok pod) :
    ∃ p ∈ pods, p.name = some pod.name ∧ p.nodeName = some node ∧ s.IsMonitor p.labels := by
  unfold podForNode at answered
  generalize hf :
    fetch server readPods? st (Request.pods c.namespaceName s.monitors.selector (some node)) =
      fetched at answered
  obtain ⟨_, _ | found⟩ := fetched
  · cases answered
  · have listed := congrArg Prod.snd hf
    simp only [firstPod] at answered
    split at answered
    · next name named =>
      cases answered
      obtain ⟨p, hp, hname⟩ := List.exists_of_findSome?_eq_some named
      obtain ⟨hmem, matched, there⟩ := (mem_fetched_iff lists listed p).1 hp
      exact ⟨p, hmem, hname, there node rfl, (Session.matches_monitorSelector obtained _).1 matched⟩
    · cases answered

end Kubernetes.Client

namespace Collector

open FanOut (Event)

variable {σ : Type} {server : Server σ} {client : Client} {pods : List Pod} {st : σ} {c : Collector}
  {run : String} {token : RunToken} {events : List (Event Happening)} {w w' : World}
  {r : CollectionRun}

/-- A run spares the nodes without workload, and contacts each of the others once at most. -/
structure Spares (c : Collector) (pods : List Pod) (run : String) (w : World) (r : CollectionRun)
    (w' : World) : Prop where
  /-- The nodes of the run are those that host a pod of the workload. -/
  hosts : ∀ node, node ∈ r.startReport.succeeded.names ∨ node ∈ r.startReport.failures.names ↔
    c.session.Hosts pods node
  /-- Each of them hosts a pod that is no monitor. -/
  unmonitored : ∀ node, c.session.Hosts pods node →
    ∃ p ∈ pods, p.nodeName = some node ∧ ¬ c.session.IsMonitor p.labels
  /-- Their monitors are called, each once at most. -/
  calls : ∃ made, w'.called = w.called ++ made ∧ made.Nodup ∧ ∀ x ∈ made,
    c.session.Hosts pods x.1 ∧ x.2 = .startCollection run (toString c.durationSecs)
  /-- Their monitors are looked for, each once at most, and no others. -/
  lookups : ∀ node, w'.lookups node ≤ w.lookups node + 1 ∧
    (¬ c.session.Hosts pods node → w'.lookups node = w.lookups node)

theorem unmonitored_of_hosts {s : Session} (obtained : s.Obtained) {node : String}
    (hosts : s.Hosts pods node) : ∃ p ∈ pods, p.nodeName = some node ∧ ¬ s.IsMonitor p.labels := by
  obtain ⟨p, hmem, hosted, matched⟩ := hosts
  exact ⟨p, hmem, hosted, ((Session.matches_workloadSelector obtained _).1 matched).2⟩

theorem spares_of_started (obtained : c.session.Obtained)
    (lists : Kubernetes.Lists server client pods st c.session.workloadSelector none)
    (started : c.startWith run token
      (client.sessionNodes server c.session.workloadSelector st).2.1 events w = some (.ok r, w')) :
    Spares c pods run w r w' := by
  obtain ⟨dir, nodes, w₁, f, prepared, answered, hf, isOver, heq⟩ := startWith_ok started
  cases heq
  have hosts := Client.mem_hosts_of_sessionNodes lists answered
  obtain ⟨-, hcalled, hasked⟩ := prepare_ok prepared
  have distinct : nodes.names.Nodup := nodes.nodup_names
  obtain ⟨made, hmade, hall⟩ := Work.called_of_run hf
  -- The question for the nodes of the session is no lookup.
  have lookups : ∀ node, w₁.lookups node = w.lookups node := by
    intro node
    simp [World.lookups, hasked, Query.isLookup]
  refine ⟨?_, fun node => unmonitored_of_hosts obtained, ⟨made, ?_, ?_, ?_⟩, ?_⟩
  · exact fun node => (FanOut.mem_report_iff distinct hf isOver node).trans (hosts node)
  · rw [← hcalled]
    exact hmade
  · exact nodup_of_run rfl distinct hf isOver hmade
  · intro x hx
    obtain ⟨hnode, hcall⟩ := hall x hx
    exact ⟨(hosts x.1).1 hnode, hcall⟩
  · intro node
    rw [← lookups node]
    exact ⟨lookups_le_of_run (w := w₁.note _) rfl distinct hf isOver node, fun absent =>
      Work.lookups_of_run (w := w₁.note _) hf fun hmem => absent ((hosts node).1 hmem)⟩

/-! ### A run beside a node with nothing but a monitor -/

/-- A pod of the workload, scheduled to a node or not yet. -/
def workerOn (node : Option String) : Pod := ⟨none, .ofList [("knb-session", "s")], node, ""⟩

/-- A monitor on a node. -/
def monitorOn (node : String) : Pod :=
  ⟨none, .ofList [("knb-session", "s"), ("role", "monitor")], some node, ""⟩

/-- Two pods of a workload, one of them not scheduled yet, and a monitor on a node of its own. -/
def samplePods : List Pod := [workerOn (some "a"), workerOn none, monitorOn "b"]

/-- The list of the workload's pods, as the server writes it. -/
def sampleListing : String := Kubernetes.listText ((samplePods.take 2).map Pod.write)

/-- A server that lists these pods for the selector of the workload, and knows nothing else. -/
def sampleServer : Server Unit := fun request st => (st,
  match Text.cutAt '?' request.uri.toList with
  | some (path, query) =>
    if path = (Request.podsPath "default").toList ∧
        Text.queryValue? "labelSelector" query = some sample.session.workloadSelector then
      .response 200 sampleListing.toUTF8
    else .response 404 .empty
  | none => .response 404 .empty)

theorem obtained_sample : sample.session.Obtained := by
  have joined : Path.join "/" "s" = "/s" := by decide +kernel
  have valid : Session.isValidId "s" = true := by decide +kernel
  have there : sampleWorld.tree.find true "/s" = .ok (.found ["s"] .directory) :=
    Tree.find_of_straight? rfl true
  have unset : sampleWorld.tree.find true (Config.path "/s") =
      .ok (.absent ["s"] "config.json" false) := Tree.find_of_straight? rfl true
  have opened : Session.open "s" "/" sampleWorld.tree = .ok sample.session := by
    simp [Session.open, joined, valid, Tree.isDirectory, Tree.isPresent, Tree.entryAt?, there, unset,
      Config.load, sample]
  exact .opened opened

theorem body_sample {request : Request} {node : Option String}
    (asks : request.AsksForPods "default" sample.session.workloadSelector node) :
    (sampleServer request ()).2.body = .ok sampleListing := by
  obtain ⟨query, cut, labels, -⟩ := asks
  have found : (sampleServer request ()).2 = .response 200 sampleListing.toUTF8 := by
    simp only [sampleServer, cut, labels]
    exact if_pos ⟨rfl, trivial⟩
  rw [found]
  simp only [Kubernetes.Reply.body, Text.decodeUtf8_eq_ok_iff.2 (Eq.refl sampleListing.toUTF8)]
  rfl

theorem read_sample : readPods? sampleListing = some (samplePods.take 2) := by decide +kernel

theorem fetch_sample : (fetch sampleServer readPods? ()
    (Request.pods "default" sample.session.workloadSelector none)).2 = .ok (samplePods.take 2) := by
  obtain ⟨request, sent⟩ : ∃ request,
      Request.pods "default" sample.session.workloadSelector none = .ok request := by
    have isOk : (Request.pods "default" sample.session.workloadSelector none).toOption.isSome =
        true := by decide +kernel
    cases h : Request.pods "default" sample.session.workloadSelector none with
    | ok request => exact ⟨request, rfl⟩
    | error problem => rw [h] at isOk; cases isOk
  have asks := Request.asksForPods_of_pods (by decide) (by decide) sent
  exact Kubernetes.fetch_of_body sent (body_sample asks) read_sample

theorem lists_sample : Kubernetes.Lists sampleServer ⟨"default"⟩ samplePods ()
    sample.session.workloadSelector none := by
  refine ⟨by decide, by decide, fun request asks text found body shown p => ?_⟩
  obtain rfl : sampleListing = text := Except.ok.inj ((body_sample asks).symm.trans body)
  obtain rfl : samplePods.take 2 = found :=
    Option.some.inj (read_sample.symm.trans (Kubernetes.readPods?_eq_some_iff.2 shown))
  have label : sample.session.config.monitorLabel? = some ("role", "monitor") := by decide +kernel
  have judged : ∀ labels, Matches sample.session.workloadSelector labels ↔
      labels.get? "knb-session" = some "s" ∧ labels.get? "role" ≠ some "monitor" := by
    intro labels
    rw [(Session.means_iff_isPlain obtained_sample).2 (by decide +kernel) labels,
      Session.isMonitor_iff label]
    rfl
  rw [judged]
  have worker : ∀ node, (workerOn node).labels.get? "knb-session" = some "s" ∧
      (workerOn node).labels.get? "role" ≠ some "monitor" := by
    intro node
    exact (by decide +kernel : (workerOn none).labels.get? "knb-session" = some "s" ∧
      (workerOn none).labels.get? "role" ≠ some "monitor")
  have monitor : (monitorOn "b").labels.get? "role" = some "monitor" := by decide +kernel
  constructor
  · intro hp
    refine ⟨List.mem_of_mem_take hp, ?_, nofun⟩
    obtain rfl | rfl : p = workerOn (some "a") ∨ p = workerOn none := by simpa [samplePods] using hp
    · exact worker (some "a")
    · exact worker none
  · rintro ⟨hp, ⟨-, differs⟩, -⟩
    obtain rfl | rfl | rfl : p = workerOn (some "a") ∨ p = workerOn none ∨ p = monitorOn "b" := by
      simpa [samplePods] using hp
    · simp [samplePods]
    · simp [samplePods]
    · exact absurd monitor differs

/-- The task of the only node goes its way, and is joined. -/
def loneEvents : List (Event Happening) :=
  [.advance 0 .begun, .advance 0 (.answer (.address (.ok "h"))),
    .advance 0 (.answer (.connected true)), .advance 0 (.answer (.reply (.ok ()))), .join 0]

end Collector

end MonitorFleet
