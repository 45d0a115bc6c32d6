import MonitorFleet.Proofs.Tunnel.Custody
import MonitorFleet.SystemInfo

/-!
# The life of a tunnel

From the moment that it is handed to the cluster, a tunnel has an owner: the resolution that waits
for it, the endpoint that is connected to, or the connection with the monitor (`Guard`). When its
owner goes, by success or failure, by cancellation, or since the task broke down, the tunnel is
closed.

All of this is said of the fan-out of any work, over any nodes and after any events: of the start
and the end of a collection and of the retrieval of system information, whatever the cluster and the
monitors answer, and at every moment until the fan-out is over.

## What is proved

* `Guarded`: what is so of the tunnels that a fan-out opened.
* `guarded_of_run`: it is so at every moment of a fan-out.
* `two_tunnels_of_repeated`: a node that is listed twice can have two open tunnels.
-/

namespace MonitorFleet

open FanOut (Event)

/-- What may own a tunnel. -/
inductive Guard where
  /-- The resolution that waits for the tunnel. -/
  | resolution
  /-- The endpoint that is connected to. -/
  | endpoint
  /-- The connection with the monitor. -/
  | connection
  deriving DecidableEq

/-- What owns a tunnel in a task, and the tunnel. -/
def Task.guard? : Task → Option (Guard × TunnelToken)
  | .attempting _ (.dialing (.resolving stage)) => stage.held.map (.resolution, ·)
  | .attempting _ (.dialing (.connecting r)) => r.tunnel.map (.endpoint, ·)
  | .attempting _ (.calling connection) => connection.tunnel.map (.connection, ·)
  | .attempting _ (.receiving connection _) => connection.tunnel.map (.connection, ·)
  | _ => none

theorem Task.held_eq_guard (task : Task) : task.held = task.guard?.map (·.2) := by
  have second : ∀ {g : Guard} {t : Option TunnelToken},
      t = (t.map fun x => (g, x)).map (·.2) := by
    intro g t
    cases t <;> rfl
  cases task with
  | idle => rfl
  | pausing _ => rfl
  | attempting n stage =>
    cases stage with
    | dialing stage => cases stage <;> exact second
    | calling _ => exact second
    | receiving _ _ => exact second

namespace FanOut

/-- Who owns a tunnel in a fan-out: a member, by its number, with what it owns the tunnel by. -/
def Owns (f : FanOut World Task) (i : Nat) (guard : Guard) (tunnel : TunnelToken) : Prop :=
  ∃ node task, f.members[i]? = some ⟨node, .running task⟩ ∧ task.guard? = some (guard, tunnel)

theorem Owns.held {f : FanOut World Task} {i : Nat} {guard : Guard} {tunnel : TunnelToken}
    (h : f.Owns i guard tunnel) : f.held i = some tunnel := by
  obtain ⟨node, task, member, hguard⟩ := h
  rw [held_of_member member, Phase.held, Task.held_eq_guard, hguard]
  rfl

theorem Owns.unique {f : FanOut World Task} {i : Nat} {guard guard' : Guard}
    {tunnel : TunnelToken} (h : f.Owns i guard tunnel) (h' : f.Owns i guard' tunnel) :
    guard' = guard := by
  obtain ⟨node, task, member, hguard⟩ := h
  obtain ⟨node', task', member', hguard'⟩ := h'
  rw [member] at member'
  cases member'
  rw [hguard] at hguard'
  cases hguard'
  rfl

theorem exists_owns {f : FanOut World Task} {i : Nat} {tunnel : TunnelToken}
    (h : f.held i = some tunnel) : ∃ guard, f.Owns i guard tunnel := by
  unfold FanOut.held at h
  obtain ⟨⟨node, phase⟩, member, hphase⟩ := Option.bind_eq_some_iff.1 h
  cases phase with
  | running task =>
    rw [Phase.held, Task.held_eq_guard] at hphase
    obtain ⟨⟨guard, _⟩, hguard, rfl⟩ := Option.map_eq_some_iff.1 hphase
    exact ⟨guard, node, task, member, hguard⟩
  | ended _ => cases hphase
  | joined => cases hphase

theorem not_owns_of_isOver {f : FanOut World Task} (isOver : f.isOver = true) (i : Nat)
    (guard : Guard) (tunnel : TunnelToken) : ¬f.Owns i guard tunnel := by
  rintro ⟨node, task, member, -⟩
  have joined := List.all_eq_true.1 isOver _ (List.mem_of_getElem? member)
  cases joined

end FanOut

/-- What is so of the tunnels of a fan-out over nodes, after some events, where `handed` are the
tunnels that were handed to the cluster since it began. -/
structure Guarded (work : Work) (names : List String) (events : List (Event Happening))
    (w : World) (f : FanOut World Task) (handed : List TunnelToken) : Prop where
  since : f.world.handed = w.handed ++ handed
  /-- No tunnel is handed over twice. -/
  once : handed.Nodup
  /-- The tunnels that were handed over are all that were made. -/
  made : ∀ t, t ∈ handed ↔ w.tokens.tunnels.length ≤ t ∧ t < f.world.tokens.tunnels.length
  /-- Each of them is closed, or has one owner. -/
  owned : ∀ t ∈ handed, f.world.tokens.isClosed t = true ∨
    ∃! owner : Nat × Guard, f.Owns owner.1 owner.2 t
  /-- A node that is listed once has one open tunnel at most. -/
  single : ∀ t ∈ handed, ∀ t' ∈ handed, ∀ x x', f.world.tokens.tunnels[t]? = some x →
    f.world.tokens.tunnels[t']? = some x' → x.node = x'.node → names.count x.node ≤ 1 →
      f.world.tokens.isClosed t = false → f.world.tokens.isClosed t' = false → t = t'
  /-- One that has an owner is closed only by the cancellation of the run. -/
  inUse : ∀ i guard t, f.Owns i guard t → f.world.tokens.isClosed t = true →
    f.world.isCancelled work.run = true
  /-- No run is cancelled but that of the fan-out, and this one by its cancellation alone. -/
  cancelled : ∀ run, f.world.isCancelled run = true →
    w.isCancelled run = true ∨ run = work.run ∧ Event.cancel ∈ events
  /-- Once the fan-out is over, they are all closed. -/
  closed : f.isOver = true → ∀ t ∈ handed, f.world.tokens.isClosed t = true

variable {work : Work} {spans : List Span} {names : List String}
  {events : List (Event Happening)} {w : World} {f : FanOut World Task}

theorem Custody.isClosed {run : RunToken} {base : World} {hold : Nat → Option TunnelToken}
    (h : Custody run names base w hold) {i : Nat} {t : TunnelToken} (hi : hold i = some t) :
    w.tokens.isClosed t = w.isCancelled run := by
  obtain ⟨-, node, pod, -, hx⟩ := h.held hi
  unfold Tokens.isClosed
  rw [hx]
  rfl

/-- A new tunnel that is open is held, by a member at its node. -/
theorem Custody.holder {run : RunToken} {base : World} {hold : Nat → Option TunnelToken}
    (h : Custody run names base w hold) {t : TunnelToken} {x : Tunnel}
    (hle : base.tokens.tunnels.length ≤ t) (hx : w.tokens.tunnels[t]? = some x)
    (opened : w.tokens.isClosed t = false) : ∃ i, hold i = some t ∧ names[i]? = some x.node := by
  have unreleased : x.released = false := by
    unfold Tokens.isClosed at opened
    rw [hx] at opened
    exact (Bool.or_eq_false_iff.1 opened).1
  obtain ⟨i, hi⟩ := h.kept hle hx unreleased
  obtain ⟨-, node, pod, hnode, hx'⟩ := h.held hi
  rw [hx] at hx'
  cases hx'
  exact ⟨i, hi, hnode⟩

/-- **The tunnels of a fan-out are guarded** at every moment, whatever happens to it. -/
theorem guarded_of_run
    (h : (FanOut.start (work.fanOut spans) names w).run (work.fanOut spans) events = some f) :
    ∃ handed, Guarded work names events w f handed := by
  have custody := FanOut.custody_of_run h
  have grows := custody.grows
  have made : ∀ t, t ∈ List.range' w.tokens.tunnels.length
      (f.world.tokens.tunnels.length - w.tokens.tunnels.length) ↔
      w.tokens.tunnels.length ≤ t ∧ t < f.world.tokens.tunnels.length := by
    intro t
    rw [List.mem_range'_1]
    omega
  have owned : ∀ t, w.tokens.tunnels.length ≤ t ∧ t < f.world.tokens.tunnels.length →
      f.world.tokens.isClosed t = true ∨ ∃! owner : Nat × Guard, f.Owns owner.1 owner.2 t := by
    rintro t ⟨hle, hlt⟩
    cases hclosed : f.world.tokens.isClosed t with
    | true => exact .inl rfl
    | false =>
      refine .inr ?_
      obtain ⟨i, hi, -⟩ := custody.holder hle (List.getElem?_eq_getElem hlt) hclosed
      obtain ⟨guard, howns⟩ := FanOut.exists_owns hi
      refine ⟨(i, guard), howns, ?_⟩
      rintro ⟨j, guard'⟩ howns'
      obtain rfl : j = i := custody.alone howns'.held hi
      exact Prod.ext rfl (howns.unique howns')
  refine ⟨_, custody.handed, List.nodup_range' .., made, fun t ht => owned t ((made t).1 ht),
    ?_, ?_, Work.isCancelled_of_run h, ?_⟩
  · intro t ht t' ht' x x' hx hx' hnode once hopen hopen'
    obtain ⟨i, hi, hn⟩ := custody.holder ((made t).1 ht).1 hx hopen
    obtain ⟨i', hi', hn'⟩ := custody.holder ((made t').1 ht').1 hx' hopen'
    obtain rfl : i = i' := FanOut.number_unique_of_count once hn (hnode ▸ hn')
    exact Option.some.inj (hi.symm.trans hi')
  · intro i guard t howns hclosed
    exact (custody.isClosed howns.held).symm.trans hclosed
  · intro isOver t ht
    rcases owned t ((made t).1 ht) with hclosed | ⟨owner, howns, -⟩
    · exact hclosed
    · exact absurd howns (FanOut.not_owns_of_isOver isOver _ _ _)

/-! ### A node that is listed twice -/

/-- The retrieval of system information for a session whose monitors are reached through tunnels. -/
def SystemInfo.tunneled : SystemInfo := ⟨⟨"s", "/s", .portForward, .default⟩, .once⟩

/-- The pods of two nodes are found, one after the other. -/
def podEvents : List (Event Happening) :=
  [.advance 0 .begun, .advance 1 .begun, .advance 0 (.answer (.pod (.ok ⟨"default", "p"⟩))),
    .advance 1 (.answer (.pod (.ok ⟨"default", "q"⟩)))]

/-- On two nodes, the tunnels are guarded when both of them are asked for. -/
theorem guarded_on_two_nodes :
    ∃ f handed, (FanOut.start (SystemInfo.tunneled.operation 0) ["a", "b"] { tree := .fresh }).run
        (SystemInfo.tunneled.operation 0) podEvents = some f ∧ f.world.handed = [0, 1] ∧
      Guarded (SystemInfo.tunneled.work 0) ["a", "b"] podEvents { tree := .fresh } f handed := by
  have evaluated : ((FanOut.start (SystemInfo.tunneled.operation 0) ["a", "b"]
      { tree := .fresh }).run (SystemInfo.tunneled.operation 0) podEvents).map
        (fun f => f.world.handed) = some [0, 1] := by decide +kernel
  obtain ⟨f, hf, hhanded⟩ := Option.map_eq_some_iff.1 evaluated
  obtain ⟨handed, guarded⟩ := guarded_of_run hf
  exact ⟨f, handed, hf, hhanded, guarded⟩

/-- **A node that is listed twice can have two open tunnels** at once. -/
theorem two_tunnels_of_repeated :
    ∃ f, (SystemInfo.tunneled.launch 0 [⟨"a", none⟩, ⟨"a", none⟩] { tree := .fresh }).run
        (SystemInfo.tunneled.operation 0) podEvents = some f ∧
      f.world.tokens.tunnels.map (·.node) = ["a", "a"] ∧
        f.world.tokens.isClosed 0 = false ∧ f.world.tokens.isClosed 1 = false := by
  have evaluated : ((SystemInfo.tunneled.launch 0 [⟨"a", none⟩, ⟨"a", none⟩]
      { tree := .fresh }).run (SystemInfo.tunneled.operation 0) podEvents).map
        (fun f => f.world.tokens) =
      some ⟨[], [⟨"a", ⟨"default", "p"⟩, 0, false⟩, ⟨"a", ⟨"default", "q"⟩, 0, false⟩]⟩ := by
    decide +kernel
  obtain ⟨f, hf, htokens⟩ := Option.map_eq_some_iff.1 evaluated
  refine ⟨f, hf, ?_, ?_, ?_⟩ <;> rw [htokens] <;> rfl

end MonitorFleet
