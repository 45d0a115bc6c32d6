import MonitorFleet.Proofs.FanOut.Reports

/-!
# Outcomes of the nodes of a fan-out

The operation on a node has an end of its own: it gives a result, or it breaks down (`Ending`). A
fan-out in which every operation ends as it is laid down for its node (`EndsAs`) has little choice
left: a node is recorded with the outcome of its own end, unless its task was interrupted before
that, which only a cancellation allows.

## What is proved

* `told_of_run`: where each member stands, by its own end and by whether it was interrupted.
* `own_of_uncancelled`: a node whose task ended before the cancellation has its own outcome.
* `interrupted_of_run`: an interruption comes after a cancellation.
* `originated_of_run`: every outcome in the report came about by the end of a task at its node.
* `EndedBy.recorded`: what a task came to is in the report, if the nodes are different.
* `countP_isJoin`: in a fan-out that is over, every task was joined once.
* `joins_of_idle`: a fan-out in which no task runs any more can be brought to its end.
-/

namespace MonitorFleet.FanOut

variable {ω τ ε : Type} {op : Operation ω τ ε} {names : List String} {events : List (Event ε)}
  {w : ω} {f : FanOut ω τ}

/-- How the operation on a node ends if it is left alone. -/
inductive Ending where
  | returned (result : Except Error Unit)
  /-- It breaks down, for a reason. -/
  | panicked (reason : String)

/-- The outcome of a node whose operation ended so. -/
def Ending.outcome : Ending → Except Error Unit
  | returned result => result
  | panicked reason => .error (.taskFailed reason)

/-- The operations of a run end as it is laid down for their nodes, those of them that come to
their ends. -/
structure EndsAs (op : Operation ω τ ε) (own : String → Ending) (f₀ : FanOut ω τ)
    (events : List (Event ε)) : Prop where
  returns : ∀ {before after i x g node task w outcome}, events = before ++ .advance i x :: after →
    f₀.run op before = some g → g.members[i]? = some ⟨node, .running task⟩ →
      op.step node g.world task x = some (w, .finished outcome) → own node = .returned outcome
  panics : ∀ {before after i reason g node task}, events = before ++ .crash i reason :: after →
    f₀.run op before = some g → g.members[i]? = some ⟨node, .running task⟩ →
      own node = .panicked reason

/-- The run is not cancelled up to the end of these events. -/
def Uncancelled (op : Operation ω τ ε) (f₀ : FanOut ω τ) (events : List (Event ε)) : Prop :=
  ∀ before g, before <+: events → f₀.run op before = some g → op.isCancelled g.world = false

/-! ### Own outcomes and interruptions -/

/-- What the events tell of a member: it runs as long as it is not interrupted, and it is over with
the outcome of its own end, or since it was interrupted. -/
def Told (own : String → Ending) (i : Nat) (node : String) (before : List (Event ε)) :
    Standing τ → Prop
  | .running _ => .interrupt i ∉ before
  | .over outcome => .interrupt i ∉ before ∧ outcome = (own node).outcome ∨
      .interrupt i ∈ before ∧ outcome = .error .cancelled

theorem Told.still {own : String → Ending} {i : Nat} {node : String} {before : List (Event ε)}
    {e : Event ε} {s : Standing τ} (h : Told own i node before s) (still : e.mover? ≠ some i) :
    Told own i node (before ++ [e]) s := by
  have same : .interrupt i ∈ before ++ [e] ↔ .interrupt i ∈ before := by
    have hne : .interrupt i ≠ e := by
      rintro rfl
      exact still rfl
    simp [hne]
  cases s <;> simpa only [Told, same] using h

theorem Told.moves {own : String → Ending} {i : Nat} {node : String} {before after : List (Event ε)}
    {e : Event ε} {f₀ g : FanOut ω τ} {task : τ} {s : Standing τ} {w : ω}
    (ends : EndsAs op own f₀ events) (split : events = before ++ e :: after)
    (hrun : f₀.run op before = some g) (member : g.members[i]? = some ⟨node, .running task⟩)
    (h : Told own i node before (.running task)) (move : Moves op i node g.world task e w s) :
    Told own i node (before ++ [e]) s := by
  have fresh : .interrupt i ∉ before := h
  cases move with
  | waits _ => simpa [Told] using fresh
  | finishes step =>
    rw [Told, ends.returns split hrun member step]
    exact .inl ⟨by simpa using fresh, rfl⟩
  | interrupted _ => exact .inr ⟨List.mem_concat_self, rfl⟩
  | breaks =>
    rw [Told, ends.panics split hrun member]
    exact .inl ⟨by simpa using fresh, rfl⟩

/-- **What the events tell of every member** is so, all along a fan-out over different nodes. -/
theorem told_of_run {own : String → Ending} (distinct : names.Nodup)
    (h : (start op names w).run op events = some f) (ends : EndsAs op own (start op names w) events)
    {i : Nat} {node : String} (hi : names[i]? = some node) :
    ∃ s, Stands f i node s ∧ Told own i node events s := by
  refine run_induction h (P := fun before g => ∃ s, Stands g i node s ∧ Told own i node before s)
    ?_ ?_
  · obtain ⟨_, task, -, hs⟩ := stands_start op w hi
    exact ⟨.running task, hs, List.not_mem_nil⟩
  · intro before e after g g' split hrun known hap
    obtain ⟨s, hs, told⟩ := known
    have distinct' : g.nodes.Nodup := by rwa [nodes_of_run hrun, nodes_start]
    rcases hs.happens distinct' hap with ⟨still, hs'⟩ | ⟨task, s', rfl, move, hs'⟩
    · exact ⟨s, hs', told.still still⟩
    · cases hs with
      | running member => exact ⟨s', hs', told.moves ends split hrun member move⟩

/-- An interruption comes after a cancellation. -/
theorem interrupted_of_run {f₀ : FanOut ω τ} (h : f₀.run op events = some f) {i : Nat}
    (interrupted : .interrupt i ∈ events) :
    ∃ before g, before <+: events ∧ f₀.run op before = some g ∧ op.isCancelled g.world = true := by
  obtain ⟨before, after, rfl⟩ := List.append_of_mem interrupted
  have hpre : before ++ [.interrupt i] <+: before ++ .interrupt i :: after := ⟨after, by simp⟩
  obtain ⟨g, _, hrun, hap, -⟩ := happens_of_prefix h hpre
  cases hap with
  | interrupt _ cancelled => exact ⟨before, g, List.prefix_append .., hrun, cancelled⟩

theorem Uncancelled.not_interrupted {f₀ : FanOut ω τ} (uncancelled : Uncancelled op f₀ events)
    (h : f₀.run op events = some f) (i : Nat) : .interrupt i ∉ events := by
  intro hmem
  obtain ⟨before, g, hpre, hrun, cancelled⟩ := interrupted_of_run h hmem
  exact Bool.false_ne_true ((uncancelled before g hpre hrun).symm.trans cancelled)

/-- A member that is over stays so, if its node is listed once. -/
theorem Stands.over_of_count {g : FanOut ω τ} {i : Nat} {node : String}
    {outcome : Except Error Unit} (hs : Stands g i node (.over outcome))
    (once : g.nodes.count node ≤ 1) (h : g.run op events = some f) :
    Stands f i node (.over outcome) := by
  refine run_induction h (P := fun _ f => Stands f i node (.over outcome)) hs ?_
  intro before e after f f' _ hrun ih hap
  have once' : f.nodes.count node ≤ 1 := by rwa [nodes_of_run hrun]
  rcases ih.happens_of_count once' hap with ⟨-, hs'⟩ | ⟨task, _, hrunning, -⟩
  · exact hs'
  · cases hrunning

/-- What a member came to is in the report at the end, if its node is listed once. -/
theorem Stands.recorded_of_count {g : FanOut ω τ} {i : Nat} {node : String}
    {outcome : Except Error Unit} (hs : Stands g i node (.over outcome))
    (once : g.nodes.count node ≤ 1) (h : g.run op events = some f) (isOver : f.isOver = true) :
    f.report.get? node = some outcome := by
  obtain ⟨_, heq, recorded⟩ := (hs.over_of_count once h).recorded isOver
  cases heq
  exact recorded

/-- A node whose task ended before the cancellation has its own outcome in the report. -/
theorem own_of_uncancelled {own : String → Ending} (distinct : names.Nodup)
    (h : (start op names w).run op events = some f) (isOver : f.isOver = true)
    (ends : EndsAs op own (start op names w) events) {before : List (Event ε)} {g : FanOut ω τ}
    (hpre : before <+: events) (hrun : (start op names w).run op before = some g)
    (uncancelled : Uncancelled op (start op names w) before) {i : Nat} {node : String}
    (hi : names[i]? = some node) (ended : ∀ task, g.members[i]? ≠ some ⟨node, .running task⟩) :
    f.report.get? node = some (own node).outcome := by
  obtain ⟨g', after, rfl, hrun', hrest⟩ := run_of_prefix h hpre
  obtain rfl : g = g' := Option.some.inj (hrun.symm.trans hrun')
  have ends' : EndsAs op own (start op names w) before :=
    ⟨fun split => ends.returns (by rw [split, List.append_assoc, List.cons_append]),
      fun split => ends.panics (by rw [split, List.append_assoc, List.cons_append])⟩
  obtain ⟨s, hs, told⟩ := told_of_run distinct hrun ends' hi
  obtain task | outcome := s
  · cases hs with
    | running member => exact absurd member (ended task)
  · obtain ⟨-, rfl⟩ : .interrupt i ∉ before ∧ outcome = (own node).outcome :=
      told.resolve_right fun hmem => uncancelled.not_interrupted hrun i hmem.1
    have distinct' : g.nodes.Nodup := by rwa [nodes_of_run hrun, nodes_start]
    exact hs.recorded_of_count (List.nodup_iff_count.1 distinct' node) hrest isOver

/-! ### How outcomes come about -/

/-- How the task of a member came to its outcome: by an event that found it running. -/
structure EndedBy (op : Operation ω τ ε) (f₀ : FanOut ω τ) (events : List (Event ε)) (i : Nat)
    (node : String) (e : Event ε) (g : FanOut ω τ) (outcome : Except Error Unit) : Prop where
  /-- Where the event stands among the events, and what the fan-out was before it. -/
  reached : ∃ before, before ++ [e] <+: events ∧ f₀.run op before = some g
  moved : ∃ task w', g.members[i]? = some ⟨node, .running task⟩ ∧
    Moves op i node g.world task e w' (.over outcome)

section

variable {f₀ g g' : FanOut ω τ} {before : List (Event ε)} {e : Event ε}

theorem EndedBy.mono {events' : List (Event ε)} {i : Nat} {node : String}
    {outcome : Except Error Unit} (h : EndedBy op f₀ events i node e g outcome)
    (hpre : events <+: events') : EndedBy op f₀ events' i node e g outcome := by
  obtain ⟨before, hbefore, hrun⟩ := h.reached
  exact ⟨⟨before, hbefore.trans hpre, hrun⟩, h.moved⟩

/-- That every outcome in a fan-out came about by the end of a task. -/
structure Originated (op : Operation ω τ ε) (f₀ : FanOut ω τ) (events : List (Event ε))
    (f : FanOut ω τ) : Prop where
  /-- Each that waits to be joined is what the task of its member came to. -/
  waiting : ∀ i node outcome, f.members[i]? = some ⟨node, .ended outcome⟩ →
    ∃ e g, EndedBy op f₀ events i node e g outcome
  /-- Each in the report is what some task at its node came to. -/
  reported : ∀ node outcome, f.report.get? node = some outcome →
    ∃ i e g, EndedBy op f₀ events i node e g outcome

theorem Originated.mono (h : Originated op f₀ events f) {events' : List (Event ε)}
    (hpre : events <+: events') : Originated op f₀ events' f where
  waiting i node outcome ended := by
    obtain ⟨e, g, ended⟩ := h.waiting i node outcome ended
    exact ⟨e, g, ended.mono hpre⟩
  reported node outcome recorded := by
    obtain ⟨i, e, g, ended⟩ := h.reported node outcome recorded
    exact ⟨i, e, g, ended.mono hpre⟩

/-- Whoever waits to be joined after a member changed did so before, unless this ended its task. -/
theorem Originated.setPhase (h : Originated op f₀ events f) {j : Nat} {node : String}
    {old phase : Phase τ} (w : ω) (member : f.members[j]? = some ⟨node, old⟩)
    (moved : ∀ outcome, phase = .ended outcome →
      ∃ e g, EndedBy op f₀ events j node e g outcome) :
    Originated op f₀ events ({ f with world := w }.setPhase j node phase) where
  waiting i node' outcome ended := by
    by_cases hij : j = i
    · subst hij
      rw [getElem?_setPhase_self (f := { f with world := w }) member] at ended
      obtain ⟨rfl, rfl⟩ : node = node' ∧ phase = .ended outcome := by simpa using ended
      exact moved outcome rfl
    · rw [getElem?_setPhase_ne hij] at ended
      exact h.waiting i node' outcome ended
  reported := h.reported

/-- What a member came to that was joined is in the report, with its origin. -/
theorem Originated.record (h : Originated op f₀ events f) {j : Nat} {node : String}
    {outcome : Except Error Unit} (member : f.members[j]? = some ⟨node, .ended outcome⟩) :
    Originated op f₀ events { f with report := f.report.record node outcome } where
  waiting := h.waiting
  reported node' outcome' recorded := by
    rw [Report.get?_record] at recorded
    split at recorded
    · next heq =>
      cases recorded
      obtain ⟨e, g, ended⟩ := h.waiting j node outcome member
      exact ⟨j, e, g, heq ▸ ended⟩
    · exact h.reported node' outcome' recorded

/-- An event leaves every outcome with its origin. -/
theorem Originated.happens (h : Originated op f₀ before g) (hrun : f₀.run op before = some g)
    (hap : Happens op g e g') : Originated op f₀ (before ++ [e]) g' := by
  have h' := h.mono (List.prefix_append before [e])
  have ends : ∀ {i node task w' outcome}, g.members[i]? = some ⟨node, .running task⟩ →
      Moves op i node g.world task e w' (.over outcome) →
      EndedBy op f₀ (before ++ [e]) i node e g outcome := fun member move =>
    ⟨⟨before, List.prefix_refl _, hrun⟩, _, _, member, move⟩
  cases hap with
  | cancel => exact ⟨h'.waiting, h'.reported⟩
  | waits member step => exact h'.setPhase _ member nofun
  | finishes member step =>
    refine h'.setPhase _ member fun outcome heq => ?_
    cases heq
    exact ⟨_, _, ends member (.finishes step)⟩
  | interrupt member cancelled =>
    refine h'.setPhase _ member fun outcome heq => ?_
    cases heq
    exact ⟨_, _, ends member (.interrupted cancelled)⟩
  | crash member =>
    refine h'.setPhase _ member fun outcome heq => ?_
    cases heq
    exact ⟨_, _, ends member .breaks⟩
  | join member => exact (h'.record member).setPhase _ member nofun

/-- **Every outcome came about by the end of a task**, all along a fan-out. -/
theorem originated_of_run (h : (start op names w).run op events = some f) :
    Originated op (start op names w) events f := by
  refine run_induction h (P := fun before f => Originated op (start op names w) before f)
    ⟨?_, nofun⟩ fun _ hrun originated hap => originated.happens hrun hap
  intro i node outcome member
  have hi : names[i]? = some node := nodes_start op names w ▸ getElem?_nodes member
  obtain ⟨_, task, -, hs⟩ := stands_start op w hi
  cases (hs.eq_ended member).2

/-- What moves a member moves no other one. -/
theorem Moves.mover {i : Nat} {node : String} {w w' : ω} {task : τ} {s : Standing τ}
    (h : Moves op i node w task e w' s) : e.mover? = some i := by
  cases h <;> rfl

/-- What happens to a task has one outcome. -/
theorem Moves.outcome_unique {i : Nat} {node : String} {w w₁ w₂ : ω} {task : τ}
    {outcome : Except Error Unit} {s : Standing τ} (h : Moves op i node w task e w₁ (.over outcome))
    (h' : Moves op i node w task e w₂ s) : s = .over outcome := by
  cases h with
  | finishes step =>
    cases h' with
    | waits step' => cases step.symm.trans step'
    | finishes step' =>
      cases step.symm.trans step'
      rfl
  | interrupted _ =>
    cases h'
    rfl
  | breaks =>
    cases h'
    rfl

/-- What a task came to is in the report, if the nodes are different. -/
theorem EndedBy.recorded {i : Nat} {node : String} {outcome : Except Error Unit} (distinct : names.Nodup)
    (h : (start op names w).run op events = some f) (isOver : f.isOver = true)
    (ended : EndedBy op (start op names w) events i node e g outcome) :
    f.report.get? node = some outcome := by
  obtain ⟨before, hpre, hrun⟩ := ended.reached
  obtain ⟨task, w', member, move⟩ := ended.moved
  obtain ⟨g₀, g', hrun₀, hap, hrun'⟩ := happens_of_prefix h hpre
  obtain rfl : g = g₀ := Option.some.inj (hrun.symm.trans hrun₀)
  have nodes : ∀ {past k}, (start op names w).run op past = some k → k.nodes.Nodup := by
    intro past k hk
    rwa [nodes_of_run hk, nodes_start]
  rcases (Stands.running member).happens (nodes hrun) hap with ⟨still, -⟩ | ⟨_, s, heq, move', hs⟩
  · exact absurd move.mover still
  · cases heq
    obtain rfl := move.outcome_unique move'
    obtain ⟨k, after, -, hrun₁, hrest⟩ := run_of_prefix h hpre
    obtain rfl : g' = k := Option.some.inj (hrun'.symm.trans hrun₁)
    exact hs.recorded_of_count (List.nodup_iff_count.1 (nodes hrun') node) hrest isOver

end

/-! ### Joining -/

/-- Whether an event is the joining of a member. -/
def Event.isJoin (i : Nat) : Event ε → Bool
  | .join j => j == i
  | _ => false

/-- How often a member was joined, by its number. -/
def joins (members : List (Member τ)) (i : Nat) : Nat :=
  match members[i]? with
  | some ⟨_, .joined⟩ => 1
  | _ => 0

theorem joins_set {members : List (Member τ)} {j : Nat} (hlt : j < members.length) (m : Member τ)
    (i : Nat) : joins (members.set j m) i = if j = i then joins [m] 0 else joins members i := by
  by_cases h : j = i
  · rw [if_pos h, ← h, joins, List.getElem?_set_self hlt]
    rfl
  · rw [if_neg h, joins, List.getElem?_set_ne h, joins]

theorem joins_of_run {f₀ : FanOut ω τ} (h : f₀.run op events = some f) (i : Nat)
    (fresh : joins f₀.members i = 0) : events.countP (·.isJoin i) = joins f.members i := by
  refine run_induction h (P := fun before g => before.countP (·.isJoin i) = joins g.members i)
    fresh.symm ?_
  intro before e after g g' _ _ ih hap
  rw [List.countP_append, ih]
  -- A member that moves was not joined, and is not joined then.
  have moved : ∀ {j : Nat} {m m' : Member τ}, g.members[j]? = some m → joins [m] 0 = 0 →
      joins [m'] 0 = 0 → joins (g.members.set j m') i = joins g.members i := by
    intro j m m' member hm hm'
    rw [joins_set (List.getElem?_eq_some_iff.1 member).1, hm']
    split
    · next hji => rw [← hji, joins, member]; exact hm.symm
    · rfl
  cases hap with
  | cancel => rfl
  | waits member _ => exact (moved member rfl rfl).symm
  | finishes member _ => exact (moved member rfl rfl).symm
  | interrupt member _ => exact (moved member rfl rfl).symm
  | crash member => exact (moved member rfl rfl).symm
  | @join j node outcome member =>
    have hlt := (List.getElem?_eq_some_iff.1 member).1
    refine Eq.trans ?_ (joins_set hlt ⟨node, .joined⟩ i).symm
    split
    · next hji => subst hji; simp [joins, member, Event.isJoin]
    · next hji => simp [Event.isJoin, hji]

/-- In a fan-out that is over, every task was joined once. -/
theorem countP_isJoin (h : (start op names w).run op events = some f) (isOver : f.isOver = true)
    {i : Nat} {node : String} (hi : names[i]? = some node) :
    events.countP (·.isJoin i) = 1 := by
  have fresh : joins (start op names w).members i = 0 := by
    obtain ⟨_, _, -, hs⟩ := stands_start op w hi
    cases hs with
    | running member => rw [joins, member]
  rw [joins_of_run h i fresh]
  have hnode : f.nodes[i]? = some node := by rw [nodes_of_run h, nodes_start]; exact hi
  rw [nodes, List.getElem?_map, Option.map_eq_some_iff] at hnode
  obtain ⟨⟨_, phase⟩, member, rfl⟩ := hnode
  have joined := List.all_eq_true.1 isOver _ (List.mem_of_getElem? member)
  cases phase with
  | joined => rw [joins, member]
  | running _ => cases joined
  | ended _ => cases joined

/-- How many members were not joined yet. -/
def unjoined (f : FanOut ω τ) : Nat := f.members.countP fun m => !Phase.isJoined m.phase

/-- A fan-out in which no task runs any more can be brought to its end, by joining. -/
theorem joins_of_idle (idle : ∀ node task, ⟨node, .running task⟩ ∉ f.members) :
    ∃ (order : List Nat) (last : FanOut ω τ),
      f.run op (order.map .join) = some last ∧ last.isOver = true := by
  induction hn : f.unjoined using Nat.strongRecOn generalizing f with
  | ind n ih =>
    by_cases isOver : f.isOver = true
    · exact ⟨[], f, rfl, isOver⟩
    · simp only [FanOut.isOver, List.all_eq_true, not_forall] at isOver
      obtain ⟨⟨node, phase⟩, hmem, unjoined⟩ := isOver
      obtain ⟨i, member⟩ := List.getElem?_of_mem hmem
      cases phase with
      | joined => exact absurd rfl unjoined
      | running task => exact absurd hmem (idle node task)
      | ended outcome =>
        let g : FanOut ω τ := { f with
          world := noteAll op f.world (Report.warning op.name node outcome)
          report := f.report.record node outcome }.setPhase i node .joined
        have happ : f.apply op (.join i) = some g := by simp only [apply, member]; rfl
        have idle' : ∀ node task, ⟨node, .running task⟩ ∉ g.members := by
          intro node' task h
          rcases List.mem_or_eq_of_mem_set h with h | h
          · exact idle node' task h
          · cases h
        have fewer : g.unjoined < n := by
          have counted : g.unjoined + 1 = f.unjoined :=
            countP_set member (fun m => !Phase.isJoined m.phase) ⟨node, .joined⟩
          omega
        obtain ⟨order, last, hrun, hlast⟩ := ih _ fewer idle' rfl
        refine ⟨i :: order, last, ?_, hlast⟩
        rw [List.map_cons, ← List.singleton_append, run_append]
        simpa [run, List.foldlM, happ] using hrun

end MonitorFleet.FanOut
