import MonitorFleet.Proofs.Task.Cancelling
import MonitorFleet.Proofs.Task.Ending
import MonitorFleet.Proofs.Tunnel.Handling

/-!
# Dialing on its own

A monitor is dialed by asking one question after the other, each because of what was heard before. Here
a dial is followed on its own, from before it begins until it is over, whatever the cluster answers, be
it an error of any kind, and at whatever moment its run is cancelled (`Dial.runWith`).

What a dial under way did so far can be read off from the stage that it reached (`Dial.Reached`): this
is so when it begins, each answer leads from one stage to the next, and from each stage there are only
so many ways to an end. All that is said of dials is said of these stages first.

## What is proved

* `Dial.Reached.goes`: an answer leads a dial from stage to stage.
* `Dial.Reached.ended_of_goes`, `Dial.Reached.ended_of_withdrawal`: what is known of it when it ends.
* `Dial.stands_of_run`: where a dial stands after any events.
* `Dial.contract_of_run`: **what a dial does**, and what it results in.
-/

namespace MonitorFleet

/-! ### Errors -/

/-- What an error of the cluster is told as at a node: as one of the node, with its text for a reason,
unless it is one of a node already, or no error but a cancellation. -/
inductive Error.ToldAt (node : String) : Error → Error → Prop where
  | resolution {n reason : String} : Error.ToldAt node (.resolution n reason) (.resolution n reason)
  | cancelled : Error.ToldAt node .cancelled .cancelled
  | other {error : Error} (unresolved : ∀ n reason, error ≠ .resolution n reason)
      (genuine : error ≠ .cancelled) : Error.ToldAt node error (.resolution node error.message)

theorem Error.toldAt_asResolution (node : String) (error : Error) :
    error.ToldAt node (error.asResolution node) := by
  cases error with
  | resolution n reason => exact .resolution
  | cancelled => exact .cancelled
  | _ => exact .other (by simp) (by simp)

/-! ### The last step -/

section

variable {m : Monitors} {run : RunToken} {node : String} {w w' : World} {stage : Dialing} {a : Answer}
  {result : Except Error Connection}

/-- Nothing more is asked in the end, and what was held is released if the end is an error. -/
theorem Dialing.Goes.settles (step : Dialing.Goes m run node w stage a w' (.finished result)) :
    w'.asked = w.asked ∧
      ((∃ connection, result = .ok connection) ∧ w'.tokens.tunnels = w.tokens.tunnels ∨
        (∃ error, result = .error error) ∧
          w'.tokens.tunnels = (w.release stage.held).tokens.tunnels) := by
  cases step with
  | unresolved step => cases step <;> exact ⟨rfl, .inr ⟨⟨_, rfl⟩, rfl⟩⟩
  | @invalid stage _ w₁ r step _ =>
    obtain ⟨tunnels, -, held⟩ := step.hands_over
    have asked : w₁.asked = w.asked := by cases step <;> rfl
    have released := World.tunnels_release tunnels r.tunnel
    exact ⟨(World.asked_release ..).trans asked, .inr ⟨⟨_, rfl⟩, by rw [released, held]; rfl⟩⟩
  | connected => exact ⟨rfl, .inl ⟨⟨_, rfl⟩, rfl⟩⟩
  | unreachable => exact ⟨World.asked_release .., .inr ⟨⟨_, rfl⟩, rfl⟩⟩

/-- An error of the cluster is the end, and is told. -/
theorem Dialing.Goes.refused (step : Dialing.Goes m run node w stage a w' (.finished result))
    {error : Error} (refuses : a.clusterError? = some error) :
    ∃ told, result = .error told ∧ error.ToldAt node told := by
  cases step with
  | unresolved step =>
    obtain ⟨reason, said, heq⟩ := step.refused
    obtain rfl := Option.some.inj (refuses.symm.trans said)
    exact ⟨_, congrArg Except.error heq, Error.toldAt_asResolution node error⟩
  | invalid step _ => cases step <;> cases refuses
  | connected => cases refuses
  | unreachable => cases refuses

end

/-! ### Dials -/

/-- Where a dial stands. -/
inductive Dial.Stage where
  /-- It did not begin. -/
  | idle
  | underway (stage : Dialing)
  | finished (result : Except Error Connection)

/-- A dial on its own. -/
structure Dial where
  world : World
  stage : Dial.Stage
  /-- The questions that were answered, with their answers, in order. -/
  heard : List (Question × Answer)

namespace Dial

/-- The question that waits for its answer, if there is one. -/
def pending (m : Monitors) (node : String) (d : Dial) : List Question :=
  match d.stage with
  | .underway stage => [stage.question m node]
  | _ => []

/-- All that was asked, in order. -/
def questions (m : Monitors) (node : String) (d : Dial) : List Question :=
  d.heard.map (·.1) ++ d.pending m node

/-- The dial after something happened to it; `none` if that cannot happen. The cancellation of its run is
an event without a happening. -/
def apply (m : Monitors) (run : RunToken) (node : String) (d : Dial) : Option Happening → Option Dial
  | none => some { d with world := d.world.cancel run }
  | some .begun =>
    match d.stage with
    | .idle =>
      some ⟨(Dialing.start m node d.world).1, .underway (Dialing.start m node d.world).2, d.heard⟩
    | _ => none
  | some (.answer a) =>
    match d.stage with
    | .underway stage =>
      match stage.step m run node d.world a with
      | none => none
      | some (w, .waiting stage') =>
        some ⟨w, .underway stage', d.heard ++ [(stage.question m node, a)]⟩
      | some (w, .finished result) =>
        some ⟨w, .finished result, d.heard ++ [(stage.question m node, a)]⟩
    | _ => none
  | some .withdrawn =>
    if d.world.isCancelled run then
      match d.stage with
      | .idle => some { d with stage := .finished (.error .cancelled) }
      | .underway stage => some ⟨stage.drop d.world, .finished (.error .cancelled), d.heard⟩
      | .finished _ => none
    else none

/-- The dial of a node's monitor after all that happened to it. -/
def runWith (m : Monitors) (run : RunToken) (node : String) (events : List (Option Happening))
    (w : World) : Option Dial :=
  events.foldlM (apply m run node) ⟨w, .idle, []⟩

variable {m : Monitors} {run : RunToken} {node : String} {base w w' : World} {d d' : Dial}
  {stage stage' : Dialing} {heard heard' : List (Question × Answer)} {a : Answer}
  {result : Except Error Connection} {events : List (Option Happening)}

/-- What can happen to a dial. -/
inductive Happens (m : Monitors) (run : RunToken) (node : String) : Dial → Option Happening → Dial →
    Prop where
  | cancel {d : Dial} : Happens m run node d none { d with world := d.world.cancel run }
  | begins {w : World} {heard : List (Question × Answer)} :
      Happens m run node ⟨w, .idle, heard⟩ (some .begun)
        ⟨(Dialing.start m node w).1, .underway (Dialing.start m node w).2, heard⟩
  | goes {w w' : World} {stage stage' : Dialing} {heard : List (Question × Answer)} {a : Answer}
      (step : Dialing.Goes m run node w stage a w' (.waiting stage')) :
      Happens m run node ⟨w, .underway stage, heard⟩ (some (.answer a))
        ⟨w', .underway stage', heard ++ [(stage.question m node, a)]⟩
  | ends {w w' : World} {stage : Dialing} {heard : List (Question × Answer)} {a : Answer}
      {result : Except Error Connection}
      (step : Dialing.Goes m run node w stage a w' (.finished result)) :
      Happens m run node ⟨w, .underway stage, heard⟩ (some (.answer a))
        ⟨w', .finished result, heard ++ [(stage.question m node, a)]⟩
  | unbegun {w : World} {heard : List (Question × Answer)} (cancelled : w.isCancelled run = true) :
      Happens m run node ⟨w, .idle, heard⟩ (some .withdrawn) ⟨w, .finished (.error .cancelled), heard⟩
  | withdraws {w : World} {stage : Dialing} {heard : List (Question × Answer)}
      (cancelled : w.isCancelled run = true) :
      Happens m run node ⟨w, .underway stage, heard⟩ (some .withdrawn)
        ⟨stage.drop w, .finished (.error .cancelled), heard⟩

theorem happens_of_apply {e : Option Happening} (h : d.apply m run node e = some d') :
    Happens m run node d e d' := by
  obtain ⟨w, stage, heard⟩ := d
  unfold apply at h
  split at h
  · cases h
    exact .cancel
  · split at h <;> cases h
    next idle =>
    cases idle
    exact .begins
  · split at h
    · next underway =>
      cases underway
      split at h <;> cases h
      · next step => exact .goes (Dialing.goes_of_step step)
      · next step => exact .ends (Dialing.goes_of_step step)
    · cases h
  · split at h
    · next cancelled =>
      split at h <;> cases h
      · next idle =>
        cases idle
        exact .unbegun cancelled
      · next underway =>
        cases underway
        exact .withdraws cancelled
    · cases h

/-! ### Stages -/

/-- The question for the address of a node. -/
def lookup (node : String) : Question := .cluster (.nodeIp node)

/-- The question for the pod that serves a node. -/
def search (m : Monitors) (node : String) : Question := .cluster (.podForNode node m.selector)

/-- How far a dial under way got, and what it did until then. -/
inductive Reached (m : Monitors) (run : RunToken) (node : String) (base w : World) :
    Dialing → List (Question × Answer) → Prop where
  | address (mode : m.connectivity = .direct) (asked : w.asked = base.asked ++ [.nodeIp node])
      (tunnels : w.tokens.tunnels = base.tokens.tunnels) :
      Reached m run node base w (.resolving .address) []
  | pod (mode : m.connectivity = .portForward)
      (asked : w.asked = base.asked ++ [.podForNode node m.selector])
      (tunnels : w.tokens.tunnels = base.tokens.tunnels) :
      Reached m run node base w (.resolving .pod) []
  | tunnel {pod : PodRef} (mode : m.connectivity = .portForward)
      (asked : w.asked = base.asked ++
        [.podForNode node m.selector, .portForward pod m.port base.tokens.tunnels.length])
      (tunnels : w.tokens.tunnels = base.tokens.tunnels ++ [⟨node, pod, run, false⟩]) :
      Reached m run node base w (.resolving (.tunnel pod base.tokens.tunnels.length))
        [(search m node, .pod (.ok pod))]
  | connecting {ip : String} (mode : m.connectivity = .direct)
      (asked : w.asked = base.asked ++ [.nodeIp node])
      (tunnels : w.tokens.tunnels = base.tokens.tunnels) :
      Reached m run node base w (.connecting ⟨⟨ip, m.port⟩, none⟩) [(lookup node, .address (.ok ip))]
  | tunneled {pod : PodRef} {port : UInt16} (mode : m.connectivity = .portForward)
      (asked : w.asked = base.asked ++
        [.podForNode node m.selector, .portForward pod m.port base.tokens.tunnels.length])
      (tunnels : w.tokens.tunnels = base.tokens.tunnels ++ [⟨node, pod, run, false⟩]) :
      Reached m run node base w (.connecting ⟨⟨tunnelHost, port⟩, some base.tokens.tunnels.length⟩)
        [(search m node, .pod (.ok pod)),
          (.cluster (.portForward pod m.port base.tokens.tunnels.length), .localPort (.ok port))]

theorem reached_start (asked : w.asked = base.asked)
    (tunnels : w.tokens.tunnels = base.tokens.tunnels) :
    Reached m run node base (Dialing.start m node w).1 (Dialing.start m node w).2 [] := by
  unfold Dialing.start Resolving.start
  cases mode : m.connectivity with
  | direct => exact .address mode (congrArg (· ++ _) asked) tunnels
  | portForward => exact .pod mode (congrArg (· ++ _) asked) tunnels

/-- An answer leads a dial from stage to stage. -/
theorem Reached.goes (h : Reached m run node base w stage heard)
    (step : Dialing.Goes m run node w stage a w' (.waiting stage')) :
    Reached m run node base w' stage' (heard ++ [(stage.question m node, a)]) := by
  cases h with
  | address mode asked tunnels =>
    cases step with
    | resolves step => cases step
    | connects step _ =>
      cases step
      exact .connecting mode asked tunnels
  | pod mode asked tunnels =>
    cases step with
    | resolves step =>
      cases step with
      | @pod p =>
        have number : (w.tokens.newTunnel node p run).1 = base.tokens.tunnels.length :=
          congrArg List.length tunnels
        rw [number]
        refine .tunnel mode ?_ (congrArg (· ++ _) tunnels)
        rw [World.asked_ask, asked, List.append_assoc]
        rfl
    | connects step _ => cases step
  | tunnel mode asked tunnels =>
    cases step with
    | resolves step => cases step
    | connects step _ =>
      cases step
      exact .tunneled mode asked tunnels
  | connecting => cases step
  | tunneled => cases step

theorem Reached.length_lt (h : Reached m run node base w stage heard) : heard.length < 3 := by
  cases h <;> simp

/-- What was heard on the way is no error. -/
theorem Reached.unrefused (h : Reached m run node base w stage heard) {q : Question}
    (said : (q, a) ∈ heard) : a.clusterError? = none := by
  cases h <;> simp at said
  · obtain ⟨-, rfl⟩ := said
    rfl
  · obtain ⟨-, rfl⟩ := said
    rfl
  · rcases said with ⟨-, rfl⟩ | ⟨-, rfl⟩ <;> rfl

/-- It got no further by the cancellation of its run. -/
theorem Reached.cancel (h : Reached m run node base w stage heard) :
    Reached m run node base (w.cancel run) stage heard := by
  cases h <;> constructor <;> assumption

/-! ### What a dial does -/

/-- What a dial asks of the cluster, and the tunnel that it opens. Without tunnels it asks for the
address of the node alone. Else it asks for the pod, and, if it was told one, for a tunnel to this pod:
to the port of the monitors, and for the run of the dial. -/
inductive Inquires (m : Monitors) (run : RunToken) (node : String) (base w : World)
    (heard : List (Question × Answer)) : Prop where
  | nothing (asked : w.asked = base.asked) (tunnels : w.tokens.tunnels = base.tokens.tunnels)
  | address (mode : m.connectivity = .direct) (asked : w.asked = base.asked ++ [.nodeIp node])
      (tunnels : w.tokens.tunnels = base.tokens.tunnels)
  | pod (mode : m.connectivity = .portForward)
      (asked : w.asked = base.asked ++ [.podForNode node m.selector])
      (tunnels : w.tokens.tunnels = base.tokens.tunnels)
  | tunnel {pod : PodRef} {released : Bool} (mode : m.connectivity = .portForward)
      (found : (search m node, .pod (.ok pod)) ∈ heard)
      (asked : w.asked = base.asked ++
        [.podForNode node m.selector, .portForward pod m.port base.tokens.tunnels.length])
      (tunnels : w.tokens.tunnels = base.tokens.tunnels ++ [⟨node, pod, run, released⟩])

/-- What an endpoint was resolved by, and the tunnel to it. -/
inductive Resolves (m : Monitors) (node : String) (heard : List (Question × Answer)) :
    Endpoint → Option TunnelToken → Prop where
  | address {ip : String} (mode : m.connectivity = .direct)
      (told : (lookup node, .address (.ok ip)) ∈ heard) : Resolves m node heard ⟨ip, m.port⟩ none
  | tunnel {pod : PodRef} {tunnel : TunnelToken} {port : UInt16} (mode : m.connectivity = .portForward)
      (found : (search m node, .pod (.ok pod)) ∈ heard)
      (told : (.cluster (.portForward pod m.port tunnel), .localPort (.ok port)) ∈ heard) :
      Resolves m node heard ⟨tunnelHost, port⟩ (some tunnel)

/-- What a dial results in, and why. -/
inductive Results (m : Monitors) (run : RunToken) (node : String) (w : World)
    (heard : List (Question × Answer)) : Except Error Connection → Prop where
  | connected {endpoint : Endpoint} {tunnel : Option TunnelToken}
      (reached : (.connection endpoint tunnel, .connected true) ∈ heard) :
      Results m run node w heard (.ok ⟨node, endpoint, tunnel⟩)
  /-- The cluster refused. -/
  | refused {q : Question} {a : Answer} {error told : Error} (said : (q, a) ∈ heard)
      (refuses : a.clusterError? = some error) (tells : error.ToldAt node told) :
      Results m run node w heard (.error told)
  /-- The endpoint makes no address. -/
  | invalid {endpoint : Endpoint} {tunnel : Option TunnelToken}
      (resolved : Resolves m node heard endpoint tunnel)
      (invalid : Net.isServiceAddress endpoint.text = false) :
      Results m run node w heard (.error (.connect endpoint.text .invalidAddress))
  /-- Nobody answers there. -/
  | unreachable {endpoint : Endpoint} {tunnel : Option TunnelToken}
      (tried : (.connection endpoint tunnel, .connected false) ∈ heard) :
      Results m run node w heard (.error (.connect endpoint.text .unreachable))
  /-- The dial noticed that its run was cancelled. -/
  | withdrawn (cancelled : w.isCancelled run = true) : Results m run node w heard (.error .cancelled)

/-- No dial results in another error than these. -/
theorem Results.kinds {error : Error} (h : Results m run node w heard (.error error)) :
    (∃ n reason, error = .resolution n reason) ∨ (∃ endpoint fault, error = .connect endpoint fault) ∨
      error = .cancelled := by
  cases h with
  | refused _ _ tells =>
    cases tells with
    | cancelled => exact .inr (.inr rfl)
    | resolution | other => exact .inl ⟨_, _, rfl⟩
  | invalid => exact .inr (.inl ⟨_, _, rfl⟩)
  | unreachable => exact .inr (.inl ⟨_, _, rfl⟩)
  | withdrawn => exact .inr (.inr rfl)

theorem Results.cancel (h : Results m run node w heard result) :
    Results m run node (w.cancel run) heard result := by
  cases h with
  | connected reached => exact .connected reached
  | refused said refuses tells => exact .refused said refuses tells
  | invalid resolved invalid => exact .invalid resolved invalid
  | unreachable tried => exact .unreachable tried
  | withdrawn cancelled => exact .withdrawn (Tokens.isCancelled_cancel cancelled run)

theorem Resolves.mono {endpoint : Endpoint} {tunnel : Option TunnelToken}
    (h : Resolves m node heard endpoint tunnel) (more : heard ⊆ heard') :
    Resolves m node heard' endpoint tunnel := by
  cases h with
  | address mode told => exact .address mode (more told)
  | tunnel mode found told => exact .tunnel mode (more found) (more told)

/-- What is connected to was resolved. -/
theorem Reached.resolves (h : Reached m run node base w stage heard) {endpoint : Endpoint}
    {tunnel : Option TunnelToken}
    (tried : .connection endpoint tunnel ∈ heard.map (·.1) ++ [stage.question m node]) :
    Resolves m node heard endpoint tunnel := by
  cases h with
  | address => simp [Dialing.question, Resolving.question] at tried
  | pod => simp [Dialing.question, Resolving.question] at tried
  | tunnel => simp [search, Dialing.question, Resolving.question] at tried
  | connecting mode =>
    simp only [lookup, Dialing.question, List.map_cons, List.map_nil, List.mem_append,
      List.mem_singleton, reduceCtorEq, false_or, Question.connection.injEq] at tried
    obtain ⟨rfl, rfl⟩ := tried
    exact .address mode (List.mem_singleton_self _)
  | @tunneled pod port mode =>
    simp only [search, Dialing.question, List.map_cons, List.map_nil, List.mem_append, List.mem_cons,
      List.not_mem_nil, reduceCtorEq, false_or, or_false, Question.connection.injEq] at tried
    obtain ⟨rfl, rfl⟩ := tried
    exact .tunnel mode (List.mem_cons_self ..) (List.mem_cons_of_mem _ (List.mem_singleton_self _))

theorem tunnels_release_last {x : Tunnel} (opened : w.tokens.tunnels = base.tokens.tunnels ++ [x]) :
    (w.release (some base.tokens.tunnels.length)).tokens.tunnels =
      base.tokens.tunnels ++ [{ x with released := true }] := by
  rw [World.tokens_release_some, Tokens.release, opened, List.modify_eq_take_cons_drop (by simp)]
  simp

/-- What was asked on the way, if what is held is still held, or was released. -/
theorem Reached.inquires (h : Reached m run node base w stage heard) (asked : w'.asked = w.asked)
    (tunnels : w'.tokens.tunnels = w.tokens.tunnels ∨
      w'.tokens.tunnels = (w.release stage.held).tokens.tunnels) (more : heard ⊆ heard') :
    Inquires m run node base w' heard' := by
  -- A tunnel that was opened is the last one, and is held.
  have opened : ∀ {pod : PodRef}, stage.held = some base.tokens.tunnels.length →
      w.tokens.tunnels = base.tokens.tunnels ++ [⟨node, pod, run, false⟩] → ∃ released,
        w'.tokens.tunnels = base.tokens.tunnels ++ [⟨node, pod, run, released⟩] := by
    intro pod held opened
    rcases tunnels with same | released
    · exact ⟨false, same.trans opened⟩
    · rw [held, tunnels_release_last opened] at released
      exact ⟨true, released⟩
  cases h with
  | address mode asked' tunnels' =>
    exact .address mode (asked.trans asked') ((tunnels.elim id id).trans tunnels')
  | pod mode asked' tunnels' =>
    exact .pod mode (asked.trans asked') ((tunnels.elim id id).trans tunnels')
  | connecting mode asked' tunnels' =>
    exact .address mode (asked.trans asked') ((tunnels.elim id id).trans tunnels')
  | tunnel mode asked' tunnels' =>
    obtain ⟨released, tunnels⟩ := opened rfl tunnels'
    exact .tunnel mode (more (List.mem_cons_self ..)) (asked.trans asked') tunnels
  | tunneled mode asked' tunnels' =>
    obtain ⟨released, tunnels⟩ := opened rfl tunnels'
    exact .tunnel mode (more (List.mem_cons_self ..)) (asked.trans asked') tunnels

/-- Once what is held was released, no tunnel that was opened is left. -/
theorem Reached.closes (h : Reached m run node base w stage heard)
    (released : w'.tokens.tunnels = (w.release stage.held).tokens.tunnels) :
    ∀ tunnel ∈ w'.tokens.tunnels.drop base.tokens.tunnels.length, tunnel.released = true := by
  have unopened : w.tokens.tunnels = base.tokens.tunnels → stage.held = none →
      ∀ tunnel ∈ w'.tokens.tunnels.drop base.tokens.tunnels.length, tunnel.released = true := by
    intro same held tunnel hmem
    rw [released, held, World.release_none, same, List.drop_length] at hmem
    cases hmem
  have opened : ∀ {x : Tunnel}, w.tokens.tunnels = base.tokens.tunnels ++ [x] →
      stage.held = some base.tokens.tunnels.length →
      ∀ tunnel ∈ w'.tokens.tunnels.drop base.tokens.tunnels.length, tunnel.released = true := by
    intro x opened held tunnel hmem
    rw [released, held, tunnels_release_last opened, List.drop_left] at hmem
    rw [List.mem_singleton.1 hmem]
  cases h with
  | address _ _ tunnels => exact unopened tunnels rfl
  | pod _ _ tunnels => exact unopened tunnels rfl
  | connecting _ _ tunnels => exact unopened tunnels rfl
  | tunnel _ _ tunnels => exact opened tunnels rfl
  | tunneled _ _ tunnels => exact opened tunnels rfl

/-! ### Ends -/

/-- What is known of a dial that is over. -/
structure Ended (m : Monitors) (run : RunToken) (node : String) (base w : World)
    (heard : List (Question × Answer)) (result : Except Error Connection) : Prop where
  inquires : Inquires m run node base w heard
  resolves : ∀ endpoint tunnel, .connection endpoint tunnel ∈ heard.map (·.1) →
    Resolves m node heard endpoint tunnel
  refused : ∀ q a error, (q, a) ∈ heard → a.clusterError? = some error →
    ∃ told, result = .error told ∧ error.ToldAt node told
  results : Results m run node w heard result
  closes : ∀ error, result = .error error →
    ∀ tunnel ∈ w.tokens.tunnels.drop base.tokens.tunnels.length, tunnel.released = true

/-- The end of a dial is the same in a world in which its run was cancelled afterwards. -/
theorem Ended.cancel (h : Ended m run node base w heard result) :
    Ended m run node base (w.cancel run) heard result where
  inquires := by
    cases h.inquires with
    | nothing asked tunnels => exact .nothing asked tunnels
    | address mode asked tunnels => exact .address mode asked tunnels
    | pod mode asked tunnels => exact .pod mode asked tunnels
    | tunnel mode found asked tunnels => exact .tunnel mode found asked tunnels
  resolves := h.resolves
  refused := h.refused
  results := h.results.cancel
  closes := h.closes

/-- A dial that notices that its run was cancelled before it began. -/
theorem ended_unbegun (asked : w.asked = base.asked)
    (tunnels : w.tokens.tunnels = base.tokens.tunnels) (cancelled : w.isCancelled run = true) :
    Ended m run node base w [] (.error .cancelled) where
  inquires := .nothing asked tunnels
  resolves _ _ tried := absurd tried List.not_mem_nil
  refused _ _ _ said := absurd said List.not_mem_nil
  results := .withdrawn cancelled
  closes _ _ tunnel hmem := by
    rw [tunnels, List.drop_length] at hmem
    cases hmem

/-- A dial that notices that its run was cancelled. -/
theorem Reached.ended_of_withdrawal (h : Reached m run node base w stage heard)
    (cancelled : w.isCancelled run = true) :
    Ended m run node base (stage.drop w) heard (.error .cancelled) where
  inquires := h.inquires (World.asked_release ..) (.inr rfl) (List.Subset.refl _)
  resolves _ _ tried := h.resolves (List.mem_append_left _ tried)
  refused _ _ _ said refuses := by
    rw [h.unrefused said] at refuses
    cases refuses
  results := .withdrawn (by
    unfold Dialing.drop World.isCancelled Tokens.isCancelled
    rw [World.runs_release]
    exact cancelled)
  closes _ _ := h.closes rfl

/-- What a dial results in by its last answer. -/
theorem Reached.results (h : Reached m run node base w stage heard)
    (step : Dialing.Goes m run node w stage a w' (.finished result)) :
    Results m run node w' (heard ++ [(stage.question m node, a)]) result := by
  have last : (stage.question m node, a) ∈ heard ++ [(stage.question m node, a)] := by simp
  cases step with
  | unresolved step =>
    obtain ⟨reason, said, heq⟩ := step.refused
    rw [heq]
    exact .refused last said (Error.toldAt_asResolution node reason)
  | invalid step invalid =>
    cases h with
    | address mode =>
      cases step
      exact .invalid (.address mode last) invalid
    | pod => cases step
    | tunnel mode =>
      cases step
      exact .invalid (.tunnel mode (List.mem_cons_self ..) last) invalid
  | connected => exact .connected last
  | unreachable => exact .unreachable last

/-- A dial that comes to its end by an answer. -/
theorem Reached.ended_of_goes (h : Reached m run node base w stage heard)
    (step : Dialing.Goes m run node w stage a w' (.finished result)) :
    Ended m run node base w' (heard ++ [(stage.question m node, a)]) result where
  inquires := by
    obtain ⟨asked, tunnels⟩ := step.settles
    exact h.inquires asked (tunnels.imp And.right And.right) (List.subset_append_left ..)
  resolves _ _ tried := by
    rw [List.map_append] at tried
    exact (h.resolves tried).mono (List.subset_append_left ..)
  refused _ _ _ said refuses := by
    rcases List.mem_append.1 said with before | last
    · rw [h.unrefused before] at refuses
      cases refuses
    · cases List.mem_singleton.1 last
      exact step.refused refuses
  results := h.results step
  closes _ failed := by
    rcases step.settles.2 with ⟨⟨connection, done⟩, -⟩ | ⟨-, released⟩
    · cases failed.symm.trans done
    · exact h.closes released

/-! ### Runs of events -/

/-- Where a dial stands. -/
inductive Stands (m : Monitors) (run : RunToken) (node : String) (base : World) : Dial → Prop where
  | idle {w : World} (asked : w.asked = base.asked)
      (tunnels : w.tokens.tunnels = base.tokens.tunnels) : Stands m run node base ⟨w, .idle, []⟩
  | underway {w : World} {stage : Dialing} {heard : List (Question × Answer)}
      (reached : Reached m run node base w stage heard) :
      Stands m run node base ⟨w, .underway stage, heard⟩
  | finished {w : World} {heard : List (Question × Answer)} {result : Except Error Connection}
      (ended : Ended m run node base w heard result) :
      Stands m run node base ⟨w, .finished result, heard⟩

theorem Stands.happens {e : Option Happening} (h : Stands m run node base d)
    (happens : Happens m run node d e d') : Stands m run node base d' := by
  cases happens with
  | cancel =>
    cases h with
    | idle asked tunnels => exact .idle asked tunnels
    | underway reached => exact .underway reached.cancel
    | finished ended => exact .finished ended.cancel
  | begins =>
    cases h with
    | idle asked tunnels => exact .underway (reached_start asked tunnels)
  | goes step =>
    cases h with
    | underway reached => exact .underway (reached.goes step)
  | ends step =>
    cases h with
    | underway reached => exact .finished (reached.ended_of_goes step)
  | unbegun cancelled =>
    cases h with
    | idle asked tunnels => exact .finished (ended_unbegun asked tunnels cancelled)
  | withdraws cancelled =>
    cases h with
    | underway reached => exact .finished (reached.ended_of_withdrawal cancelled)

/-- What happens to a dial cancels no run, but for the cancellation of its own that comes from outside. -/
theorem Happens.runs {e : Option Happening} (h : Happens m run node d e d') :
    d'.world.tokens.runs =
      if e.isNone then d.world.tokens.runs.set run true else d.world.tokens.runs := by
  cases h with
  | cancel => rfl
  | begins =>
    unfold Dialing.start Resolving.start
    cases m.connectivity <;> rfl
  | goes step => exact step.runs
  | ends step => exact step.runs
  | unbegun _ => rfl
  | withdraws _ => exact World.runs_release ..

/-- **Where a dial stands** after any events, and which runs were cancelled. -/
theorem stands_of_run (h : runWith m run node events base = some d) :
    Stands m run node base d ∧ d.world.tokens.runs =
      if events.any Option.isNone then base.tokens.runs.set run true else base.tokens.runs := by
  suffices kept : ∀ d₀, Stands m run node base d₀ → events.foldlM (apply m run node) d₀ = some d →
      Stands m run node base d ∧ d.world.tokens.runs =
        if events.any Option.isNone then d₀.world.tokens.runs.set run true else d₀.world.tokens.runs from
    kept _ (.idle rfl rfl) h
  clear h
  induction events with
  | nil =>
    intro d₀ stands h
    cases h
    exact ⟨stands, rfl⟩
  | cons e events ih =>
    intro d₀ stands h
    rw [List.foldlM_cons] at h
    obtain ⟨d₁, first, rest⟩ := Option.bind_eq_some_iff.1 h
    have happens := happens_of_apply first
    obtain ⟨stands', runs⟩ := ih d₁ (stands.happens happens) rest
    refine ⟨stands', ?_⟩
    rw [runs, happens.runs, List.any_cons]
    cases e <;> cases events.any Option.isNone <;> simp

/-! ### What a dial does -/

/-- What a dial does, until then or in all, and what it results in. -/
structure Contract (m : Monitors) (run : RunToken) (node : String) (base : World)
    (events : List (Option Happening)) (d : Dial) : Prop where
  /-- What it asks of the cluster, and the tunnel that it opens. -/
  inquires : Inquires m run node base d.world d.heard
  /-- It connects to nothing but an endpoint that was resolved. -/
  resolves : ∀ endpoint tunnel, .connection endpoint tunnel ∈ d.questions m node →
    Resolves m node d.heard endpoint tunnel
  /-- An error of the cluster is its end, and is told as one of the node. -/
  refused : ∀ q a error, (q, a) ∈ d.heard → a.clusterError? = some error →
    ∃ told, d.stage = .finished (.error told) ∧ error.ToldAt node told
  /-- It results in a connection or an error for one of these reasons alone. -/
  results : ∀ result, d.stage = .finished result → Results m run node d.world d.heard result
  /-- It results in no other error than these. -/
  kinds : ∀ error, d.stage = .finished (.error error) → (∃ n reason, error = .resolution n reason) ∨
    (∃ endpoint fault, error = .connect endpoint fault) ∨ error = .cancelled
  /-- With an error it leaves no tunnel open that it opened. -/
  closes : ∀ error, d.stage = .finished (.error error) →
    ∀ tunnel ∈ d.world.tokens.tunnels.drop base.tokens.tunnels.length, tunnel.released = true
  /-- It cancels no run. -/
  runs : d.world.tokens.runs =
    if events.any Option.isNone then base.tokens.runs.set run true else base.tokens.runs
  /-- It takes any answer to what it asks. -/
  takes : ∀ stage a, d.stage = .underway stage → a.fits (stage.question m node) = true →
    (d.apply m run node (some (.answer a))).isSome = true
  /-- After three answers at the latest it is over. -/
  ends : ∀ stage, d.stage = .underway stage → d.heard.length < 3
  /-- It can give up at any moment after its run was cancelled. -/
  heeds : d.world.isCancelled run = true → (∀ result, d.stage ≠ .finished result) →
    ∃ d', d.apply m run node (some .withdrawn) = some d' ∧ d'.stage = .finished (.error .cancelled)

/-- A dial that is not over can give up once its run was cancelled. -/
theorem exists_withdrawal (cancelled : d.world.isCancelled run = true)
    (unended : ∀ result, d.stage ≠ .finished result) :
    ∃ d', d.apply m run node (some .withdrawn) = some d' ∧ d'.stage = .finished (.error .cancelled) := by
  unfold apply
  cases hstage : d.stage with
  | idle => exact ⟨_, if_pos cancelled, rfl⟩
  | underway stage => exact ⟨_, if_pos cancelled, rfl⟩
  | finished result => exact absurd hstage (unended result)

theorem apply_isSome (underway : d.stage = .underway stage)
    (fits : a.fits (stage.question m node) = true) :
    (d.apply m run node (some (.answer a))).isSome = true := by
  have taken : (stage.step m run node d.world a).isSome = true := Dialing.step_isSome fits
  obtain ⟨⟨w', p⟩, hp⟩ := Option.isSome_iff_exists.1 taken
  cases p <;> simp [apply, underway, hp]

/-- **What a dial does**, whatever the cluster answers and whenever its run is cancelled. -/
theorem contract_of_run (h : runWith m run node events base = some d) :
    d.Contract m run node base events := by
  obtain ⟨stands, runs⟩ := stands_of_run h
  cases stands with
  | idle asked tunnels =>
    exact {
      inquires := .nothing asked tunnels
      resolves := fun _ _ tried => absurd tried List.not_mem_nil
      refused := fun _ _ _ said => absurd said List.not_mem_nil
      results := by rintro _ ⟨⟩
      kinds := by rintro _ ⟨⟩
      closes := by rintro _ ⟨⟩
      runs := runs
      takes := fun _ _ => apply_isSome
      ends := by rintro _ ⟨⟩
      heeds := exists_withdrawal }
  | @underway w stage heard reached =>
    exact {
      inquires := reached.inquires rfl (.inl rfl) (List.Subset.refl _)
      resolves := fun _ _ => reached.resolves
      refused := by
        intro q a error said refuses
        rw [reached.unrefused said] at refuses
        cases refuses
      results := by rintro _ ⟨⟩
      kinds := by rintro _ ⟨⟩
      closes := by rintro _ ⟨⟩
      runs := runs
      takes := fun _ _ => apply_isSome
      ends := fun _ _ => reached.length_lt
      heeds := exists_withdrawal }
  | @finished w heard result ended =>
    exact {
      inquires := ended.inquires
      resolves := fun endpoint tunnel tried =>
        ended.resolves endpoint tunnel (by simpa [questions, pending] using tried)
      refused := by
        intro q a error said refuses
        obtain ⟨told, heq, tells⟩ := ended.refused q a error said refuses
        exact ⟨told, congrArg Stage.finished heq, tells⟩
      results := by
        rintro _ ⟨⟩
        exact ended.results
      kinds := by
        rintro _ ⟨⟩
        exact ended.results.kinds
      closes := by
        rintro error ⟨⟩
        exact ended.closes error rfl
      runs := runs
      takes := fun _ _ => apply_isSome
      ends := by rintro _ ⟨⟩
      heeds := exists_withdrawal }

/-- Monitors that are reached through tunnels. -/
def tunneling : Monitors := ⟨.portForward, 8451, "role=monitor"⟩

/-- A world with one run. -/
def outset : World := { tree := .fresh, tokens := { runs := [false] } }

/-- A pod is found, but the tunnel to it is refused. -/
def refusal : List (Option Happening) :=
  [some .begun, some (.answer (.pod (.ok ⟨"default", "p"⟩))),
    some (.answer (.localPort (.error (.cluster "refused"))))]

/-- The dial of a refused tunnel ends with an error of the node, and the tunnel is released. -/
theorem contract_of_refusal : ∃ d, runWith tunneling 0 "a" refusal outset = some d ∧
    d.stage = .finished (.error (.resolution "a" "Cluster query failed: refused")) ∧
    d.world.tokens.tunnels = [⟨"a", ⟨"default", "p"⟩, 0, true⟩] ∧
    d.Contract tunneling 0 "a" outset refusal :=
  ⟨_, rfl, rfl, rfl, contract_of_run rfl⟩

end Dial

end MonitorFleet
