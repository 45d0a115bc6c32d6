import MonitorFleet.Proofs.Selector.Hosts

/-!
# The labels of the monitors

The manifest of the monitors names their labels three times, and two selectors ask for them later:
the session's, for all of its pods, and the monitors' own, for the pod on a node. Both labels go into
one map of values by key. If the session's label has the key of the monitors' label, the map holds
the value of the latter, and the monitors are none of the session's pods.

## What is proved

* `agrees_of_daemonSet`: what the three maps hold, and that the monitors' selector finds each pod
  that the set makes (`Agrees`).
* `carries_iff`: the pods that the set makes carry the session's label just if it does not have the
  key of the monitors' label, with another value.
* `uncarried_of_role`: a session whose monitors do not carry its label.
-/

namespace MonitorFleet

open Kubernetes (Client Lists Pod Request Server fetch readPods?)
open Selector (IsPlain Matches)

/-- The labels of a pod that a daemon set makes are those that its pods are made with, and
perhaps others that the cluster adds. -/
def DaemonSet.Makes (set : DaemonSet) (labels : Labels) : Prop :=
  ∀ key value, set.podLabels.get? key = some value → labels.get? key = some value

namespace Session

variable {s : Session} {set : DaemonSet} {key value : String}

/-- What a session's daemon set agrees on with the selectors. -/
structure Agrees (s : Session) (set : DaemonSet) : Prop where
  labels : set.labels = set.podLabels
  matchLabels : set.matchLabels = set.podLabels
  /-- The pods are made with the monitors' label. -/
  monitor : s.IsMonitor set.podLabels
  /-- No other labels are there than the session's and the monitors'. -/
  known : ∀ name, (set.podLabels.get? name).isSome → name = s.config.sessionLabelKey ∨
    ∃ value, s.config.monitorLabel? = some (name, value)
  /-- The monitors' selector asks for labels that every pod carries that is made. -/
  matched : ∀ labels, set.Makes labels → Matches s.monitors.selector labels
  /-- A pod that was made on a node is among those that a tunnel to the node is opened to. -/
  found : ∀ {σ : Type} {server : Server σ} {c : Client} {pods listed : List Pod} {st : σ}
    {node : String} {p : Pod},
    Lists server c pods st s.monitors.selector (some node) →
    (fetch server readPods? st
      (Request.pods c.namespaceName s.monitors.selector (some node))).2 = .ok listed →
    p ∈ pods → p.nodeName = some node → set.Makes p.labels → p ∈ listed
  /-- The pod that a tunnel to a node leads to runs there and carries the monitors' label. -/
  led : ∀ {σ : Type} {server : Server σ} {c : Client} {pods : List Pod} {st : σ} {node : String}
    {pod : PodRef}, Lists server c pods st s.monitors.selector (some node) →
    (c.podForNode server node s.monitors.selector st).2 = .ok pod →
    ∃ p ∈ pods, p.name = some pod.name ∧ p.nodeName = some node ∧ s.IsMonitor p.labels

/-! ### What the set is made with -/

theorem daemonSet_eq (label : s.config.monitorLabel? = some (key, value)) :
    ∃ set, s.daemonSet = .ok set ∧ set.labels = set.podLabels ∧ set.matchLabels = set.podLabels ∧
      ∀ name, set.podLabels.get? name = if name = key then some value else
        if name = s.config.sessionLabelKey then some s.id else none := by
  let labels : Labels := (NameMap.empty.insert s.config.sessionLabelKey s.id).insert key value
  refine ⟨⟨labels, labels, labels, s.config.monitorPort⟩, ?_, rfl, rfl, fun name => ?_⟩
  · rw [daemonSet, label]
    rfl
  · rw [NameMap.get?_insert, NameMap.get?_insert, NameMap.get?_empty]

/-- The manifest of the monitors agrees with the selectors, but for the session's own label. -/
theorem agrees_of_daemonSet (h : s.Obtained) : ∃ set, s.daemonSet = .ok set ∧ s.Agrees set := by
  obtain ⟨key, value, label, -⟩ := h.monitorLabel
  obtain ⟨set, made, labels, matchLabels, get?⟩ := daemonSet_eq label
  have own : set.podLabels.get? key = some value := by rw [get?, if_pos rfl]
  have matched : ∀ labels, set.Makes labels → Matches s.monitors.selector labels := by
    intro labels makes
    exact (matches_monitorSelector h labels).2 ((isMonitor_iff label labels).2 (makes _ _ own))
  refine ⟨set, made, labels, matchLabels, (isMonitor_iff label _).2 own, ?_, matched, ?_,
    Client.monitor_of_podForNode h⟩
  · intro name held
    rw [get?] at held
    by_cases shared : name = key
    · exact .inr ⟨value, by rw [shared, label]⟩
    · rw [if_neg shared] at held
      exact .inl (Decidable.byContradiction fun other => by simp [other] at held)
  · intro σ server c pods listed st node p lists answered member there makes
    exact (Client.mem_fetched_iff lists answered p).2
      ⟨member, matched _ makes, fun n hn => by cases hn; exact there⟩

/-- The pods are made with the session's label just if no other value has its key. -/
theorem get?_podLabels_eq_id_iff (h : s.Obtained) (made : s.daemonSet = .ok set) :
    set.podLabels.get? s.config.sessionLabelKey = some s.id ↔
      ∀ value, s.config.monitorLabel? = some (s.config.sessionLabelKey, value) → value = s.id := by
  obtain ⟨key, value, label, -⟩ := h.monitorLabel
  obtain ⟨set', made', -, -, get?⟩ := daemonSet_eq label
  cases made.symm.trans made'
  rw [get?, label]
  by_cases shared : s.config.sessionLabelKey = key
  · simp [shared]
  · simp [shared, Ne.symm shared]

/-- **When the monitors are among the pods of their session.** The manifest agrees with the
selectors in all else; but its pods carry the session's label, for which the session's selector
asks, just if the monitors' label does not put another value under the same key. -/
theorem carries_iff (h : s.Obtained) : ∃ set, s.daemonSet = .ok set ∧ s.Agrees set ∧
    ((∀ labels, set.Makes labels → labels.get? s.config.sessionLabelKey = some s.id) ↔
      ∀ value, s.config.monitorLabel? = some (s.config.sessionLabelKey, value) → value = s.id) ∧
    (IsPlain s.config.sessionLabelKey.toList →
      ((∀ labels, set.Makes labels → Matches s.selector labels) ↔
        ∀ value, s.config.monitorLabel? = some (s.config.sessionLabelKey, value) →
          value = s.id)) := by
  obtain ⟨set, made, agrees⟩ := agrees_of_daemonSet h
  have carried : (∀ labels, set.Makes labels → labels.get? s.config.sessionLabelKey = some s.id) ↔
      ∀ value, s.config.monitorLabel? = some (s.config.sessionLabelKey, value) → value = s.id := by
    rw [← get?_podLabels_eq_id_iff h made]
    exact ⟨fun all => all _ fun _ _ held => held, fun own labels makes => makes _ _ own⟩
  refine ⟨set, made, agrees, carried, fun plain => ?_⟩
  simp only [selector, Session.label, Selector.matches_single plain h.isPlain_id]
  exact carried

/-! ### A session without its monitors -/

/-- Settings that put the session's label under the key of the monitors' label. -/
def sharedKey : Config := { Config.default with sessionLabelKey := "role" }

/-- The session `s1` in the directory `b`, with these settings. -/
def unlabelled : Session := ⟨"s1", "b/s1", .direct, sharedKey⟩

theorem obtained_unlabelled : unlabelled.Obtained :=
  .opened (open_settled sharedKey (by decide +kernel))

/-- Its monitors' pods do not all carry the label of the session, and so its selector does not match
them. -/
theorem not_carries_unlabelled : unlabelled.Obtained ∧ ∃ set, unlabelled.daemonSet = .ok set ∧
    unlabelled.Agrees set ∧ ¬ (∀ labels, set.Makes labels → Matches unlabelled.selector labels) := by
  obtain ⟨set, made, agrees, -, selected⟩ := carries_iff obtained_unlabelled
  have label : unlabelled.config.monitorLabel? = some (unlabelled.config.sessionLabelKey, "monitor") := by
    decide +kernel
  have plain : IsPlain unlabelled.config.sessionLabelKey.toList := by decide +kernel
  refine ⟨obtained_unlabelled, set, made, agrees, fun all => ?_⟩
  exact absurd ((selected plain).1 all "monitor" label) (by decide)

/-- **A session whose monitors do not carry its label**: the set's labels hold the monitors' label
alone, and the session's selector does not match the pods that are made with them. -/
theorem uncarried_of_role : unlabelled.Obtained ∧ ∃ set, unlabelled.daemonSet = .ok set ∧
    set.podLabels.entries = [("role", "monitor")] ∧ unlabelled.selector = "role=s1" ∧
    set.podLabels.get? unlabelled.config.sessionLabelKey ≠ some unlabelled.id ∧
    ¬ Matches unlabelled.selector set.podLabels := by
  have label : unlabelled.config.monitorLabel? = some ("role", "monitor") := by decide +kernel
  have plain : IsPlain unlabelled.config.sessionLabelKey.toList := by decide +kernel
  refine ⟨obtained_unlabelled, _, by rw [daemonSet, label], by decide +kernel, by decide +kernel,
    by decide +kernel, ?_⟩
  rw [selector, Session.label, Selector.matches_single plain obtained_unlabelled.isPlain_id]
  decide +kernel

end Session

end MonitorFleet
