import MonitorFleet.Proofs.FanOut.Runs

/-!
# Where the members of a fan-out stand

A member's task runs until it has an outcome; whether the outcome was put into the report already
makes no difference to the member. `Stands` says where a member stands, and `Moves` what can happen
to one that still runs.

What is known of a member (`Knowledge`) may speak of its node, the events so far, the world and
where it stands. It is known all along a run if four things are shown (`Kept`): the member's own
moves keep it, and so do the moves of the others, the joining of a member, and the cancellation of
the run.

## What is proved

* `world_of_run`: what all moves keep of the world is kept by a fan-out.
* `stands_of_run`: in a fan-out over different nodes, what is kept is known of every member.
* `recorded_of_run`: once the fan-out is over, every node has an outcome in the report, and what is
  kept is known of the node with that outcome.
* `get?_report_eq_none`: the report speaks of no other nodes.
-/

namespace MonitorFleet.FanOut

variable {ω τ ε : Type} {op : Operation ω τ ε}

/-- Where a member stands. -/
inductive Standing (τ : Type) where
  | running (task : τ)
  | over (outcome : Except Error Unit)

/-- **Where a member of a fan-out stands.** -/
inductive Stands (f : FanOut ω τ) (i : Nat) (node : String) : Standing τ → Prop where
  /-- Its task runs. -/
  | running {task : τ} (member : f.members[i]? = some ⟨node, .running task⟩) :
      Stands f i node (.running task)
  /-- Its task has an outcome that is not in the report yet. -/
  | ended {outcome : Except Error Unit} (member : f.members[i]? = some ⟨node, .ended outcome⟩) :
      Stands f i node (.over outcome)
  /-- Its outcome is in the report. -/
  | joined {outcome : Except Error Unit} (member : f.members[i]? = some ⟨node, .joined⟩)
      (recorded : f.report.get? node = some outcome) : Stands f i node (.over outcome)

/-- What can happen to the task of a member: the event, the world afterwards and where the
member stands then. -/
inductive Moves (op : Operation ω τ ε) (i : Nat) (node : String) (w : ω) (task : τ) :
    Event ε → ω → Standing τ → Prop where
  /-- It goes on, and waits again. -/
  | waits {x : ε} {w' : ω} {task' : τ} (step : op.step node w task x = some (w', .waiting task')) :
      Moves op i node w task (.advance i x) w' (.running task')
  /-- It goes on, and is finished. -/
  | finishes {x : ε} {w' : ω} {outcome : Except Error Unit}
      (step : op.step node w task x = some (w', .finished outcome)) :
      Moves op i node w task (.advance i x) w' (.over outcome)
  /-- It is given up since the run was cancelled. -/
  | interrupted (cancelled : op.isCancelled w = true) :
      Moves op i node w task (.interrupt i) (op.drop w task) (.over (.error .cancelled))
  /-- It breaks down. -/
  | breaks {reason : String} :
      Moves op i node w task (.crash i reason) (op.drop w task) (.over (.error (.taskFailed reason)))

/-- What may be known of a member: of its number and node, the events so far, the world, and where
the member stands. -/
abbrev Knowledge (ω τ ε : Type) : Type :=
  Nat → String → List (Event ε) → ω → Standing τ → Prop

/-- What keeps the knowledge of a member in a fan-out over nodes, which these events happen to. -/
structure Kept (op : Operation ω τ ε) (names : List String) (events : List (Event ε))
    (K : Knowledge ω τ ε) : Prop where
  /-- A move of the member itself. -/
  own : ∀ {i node before e after w task w' s}, events = before ++ e :: after →
    names[i]? = some node → K i node before w (.running task) → Moves op i node w task e w' s →
      K i node (before ++ [e]) w' s
  /-- A move of another member. -/
  other : ∀ {i node s j node' before e after w task w' s'}, events = before ++ e :: after →
    names[i]? = some node → names[j]? = some node' → j ≠ i → node' ≠ node →
      K j node' before w (.running task) → Moves op j node' w task e w' s' →
        K i node before w s → K i node (before ++ [e]) w' s
  /-- A member is joined, which only writes to the log. -/
  join : ∀ {i node s j before w records}, names[i]? = some node → K i node before w s →
    K i node (before ++ [.join j]) (noteAll op w records) s
  /-- The run is cancelled. -/
  cancel : ∀ {i node s before after w}, events = before ++ .cancel :: after →
    names[i]? = some node → K i node before w s → K i node (before ++ [.cancel]) (op.cancel w) s

/-- What all moves keep of the world is kept by a fan-out. -/
theorem world_of_run {names : List String} {events : List (Event ε)} {w : ω} {f : FanOut ω τ}
    (h : (start op names w).run op events = some f) {P : ω → Prop} (begins : P (start op names w).world)
    (moves : ∀ {i node w task e w' s}, node ∈ names → P w → Moves op i node w task e w' s → P w')
    (join : ∀ {w records}, P w → P (noteAll op w records))
    (cancel : ∀ {w}, Event.cancel ∈ events → P w → P (op.cancel w)) : P f.world := by
  refine FanOut.run_induction h (P := fun _ g => P g.world) begins ?_
  intro before e after g g' split hrun ih hap
  have named : ∀ {j : Nat} {node : String} {phase : Phase τ},
      g.members[j]? = some ⟨node, phase⟩ → node ∈ names := by
    intro j node phase member
    rw [← nodes_start op names w, ← nodes_of_run hrun]
    exact List.mem_map.2 ⟨_, List.mem_of_getElem? member, rfl⟩
  cases hap with
  | cancel => exact cancel (by simp [split]) ih
  | @waits i _ _ _ _ _ member step => exact moves (i := i) (named member) ih (.waits step)
  | @finishes i _ _ _ _ _ member step => exact moves (i := i) (named member) ih (.finishes step)
  | @interrupt i _ _ member cancelled =>
    exact moves (i := i) (named member) ih (.interrupted cancelled)
  | @crash i node task reason member =>
    have move : Moves op i node g.world task (.crash i reason) _ _ := .breaks
    exact moves (named member) ih move
  | join _ => exact join ih

/-- A node that is listed once has one number. -/
theorem number_unique_of_count {names : List String} {node : String}
    (once : names.count node ≤ 1) {i j : Nat} (hi : names[i]? = some node)
    (hj : names[j]? = some node) : i = j := by
  induction names generalizing i j with
  | nil => cases hi
  | cons name names ih =>
    have later : ∀ {k : Nat}, names[k]? = some node → 0 < names.count node := fun h =>
      List.count_pos_iff.2 (List.mem_of_getElem? h)
    rw [List.count_cons] at once
    cases i with
    | zero =>
      cases j with
      | zero => rfl
      | succ j =>
        have hlater := later hj
        cases hi
        simp only [beq_self_eq_true, if_true] at once
        omega
    | succ i =>
      cases j with
      | zero =>
        have hlater := later hi
        cases hj
        simp only [beq_self_eq_true, if_true] at once
        omega
      | succ j => rw [ih (by omega) hi hj]

theorem number_unique {names : List String} (distinct : names.Nodup) {i j : Nat} {node : String}
    (hi : names[i]? = some node) (hj : names[j]? = some node) : i = j :=
  number_unique_of_count (List.nodup_iff_count.1 distinct node) hi hj

/-! ### Setting a phase -/

theorem getElem?_setPhase_self {f : FanOut ω τ} {i : Nat} {node : String} {old phase : Phase τ}
    (member : f.members[i]? = some ⟨node, old⟩) :
    (f.setPhase i node phase).members[i]? = some ⟨node, phase⟩ := by
  obtain ⟨hlt, -⟩ := List.getElem?_eq_some_iff.1 member
  simp [setPhase, hlt]

theorem getElem?_setPhase_ne {f : FanOut ω τ} {i j : Nat} {node : String} {phase : Phase τ}
    (h : j ≠ i) : (f.setPhase j node phase).members[i]? = f.members[i]? := by
  simp [setPhase, h]

theorem Stands.congr {f g : FanOut ω τ} {i : Nat} {node : String} {s : Standing τ}
    (h : Stands f i node s) (members : g.members[i]? = f.members[i]?)
    (report : g.report.get? node = f.report.get? node) : Stands g i node s := by
  cases h with
  | running member => exact .running (members.trans member)
  | ended member => exact .ended (members.trans member)
  | joined member recorded => exact .joined (members.trans member) (report.trans recorded)

/-- A member whose task runs stands nowhere else. -/
theorem Stands.eq_running {f : FanOut ω τ} {i : Nat} {node node' : String} {s : Standing τ}
    {task : τ} (h : Stands f i node s) (member : f.members[i]? = some ⟨node', .running task⟩) :
    node' = node ∧ s = .running task := by
  cases h with
  | running h =>
    rw [member] at h
    cases h
    exact ⟨rfl, rfl⟩
  | ended h => rw [member] at h; cases h
  | joined h _ => rw [member] at h; cases h

/-- A member whose task has an outcome that is not in the report stands nowhere else. -/
theorem Stands.eq_ended {f : FanOut ω τ} {i : Nat} {node node' : String} {s : Standing τ}
    {outcome : Except Error Unit} (h : Stands f i node s)
    (member : f.members[i]? = some ⟨node', .ended outcome⟩) : node' = node ∧ s = .over outcome := by
  cases h with
  | running h => rw [member] at h; cases h
  | ended h =>
    rw [member] at h
    cases h
    exact ⟨rfl, rfl⟩
  | joined h _ => rw [member] at h; cases h

/-! ### What an event does to a member -/

/-- The member that an event moves, if it moves one. -/
def Event.mover? : Event ε → Option Nat
  | .advance i _ => some i
  | .interrupt i => some i
  | .crash i _ => some i
  | _ => none

theorem getElem?_nodes {f : FanOut ω τ} {i : Nat} {node : String} {phase : Phase τ}
    (member : f.members[i]? = some ⟨node, phase⟩) : f.nodes[i]? = some node := by
  rw [nodes, List.getElem?_map, member]
  rfl

theorem Stands.node {f : FanOut ω τ} {i : Nat} {node : String} {s : Standing τ}
    (h : Stands f i node s) : f.nodes[i]? = some node := by
  cases h with
  | running member => exact getElem?_nodes member
  | ended member => exact getElem?_nodes member
  | joined member _ => exact getElem?_nodes member

theorem Stands.setPhase_ne {f : FanOut ω τ} {i j : Nat} {node node' : String} {phase : Phase τ}
    {s : Standing τ} {w : ω} (h : Stands f i node s) (hne : j ≠ i) :
    Stands ({ f with world := w }.setPhase j node' phase) i node s :=
  h.congr (getElem?_setPhase_ne hne) rfl

/-- An event leaves a member where it stands, or moves it, if its node is listed once. -/
theorem Stands.happens_of_count {f f' : FanOut ω τ} {e : Event ε} {i : Nat} {node : String}
    {s : Standing τ} (once : f.nodes.count node ≤ 1) (hap : Happens op f e f')
    (h : Stands f i node s) :
    (e.mover? ≠ some i ∧ Stands f' i node s) ∨
      ∃ task s', s = .running task ∧ Moves op i node f.world task e f'.world s' ∧
        Stands f' i node s' := by
  -- Whoever moves is either this member, which is running then, or another one.
  have moved : ∀ {j : Nat} {node' : String} {task : τ} {w : ω} {phase : Phase τ} {s' : Standing τ},
      e.mover? = some j → f.members[j]? = some ⟨node', .running task⟩ →
      Moves op j node' f.world task e w s' →
      Stands ({ f with world := w }.setPhase j node' phase) j node' s' →
      (e.mover? ≠ some i ∧ Stands ({ f with world := w }.setPhase j node' phase) i node s) ∨
        ∃ task s', s = .running task ∧ Moves op i node f.world task e w s' ∧
          Stands ({ f with world := w }.setPhase j node' phase) i node s' := by
    intro j node' task w phase s' mover member move stands
    by_cases hij : j = i
    · subst hij
      obtain ⟨rfl, rfl⟩ := h.eq_running member
      exact .inr ⟨task, s', rfl, move, stands⟩
    · refine .inl ⟨?_, h.setPhase_ne hij⟩
      rw [mover]
      exact fun heq => hij (Option.some.inj heq)
  cases hap with
  | cancel => exact .inl ⟨nofun, h.congr rfl rfl⟩
  | waits member step =>
    exact moved rfl member (.waits step)
      (.running (getElem?_setPhase_self (f := { f with world := _ }) member))
  | finishes member step =>
    exact moved rfl member (.finishes step)
      (.ended (getElem?_setPhase_self (f := { f with world := _ }) member))
  | interrupt member cancelled =>
    exact moved rfl member (.interrupted cancelled)
      (.ended (getElem?_setPhase_self (f := { f with world := _ }) member))
  | crash member =>
    exact moved rfl member .breaks
      (.ended (getElem?_setPhase_self (f := { f with world := _ }) member))
  | @join j node' outcome member =>
    refine .inl ⟨nofun, ?_⟩
    by_cases hij : j = i
    · subst hij
      obtain ⟨rfl, rfl⟩ := h.eq_ended member
      refine .joined (getElem?_setPhase_self (f := { f with world := _, report := _ }) member) ?_
      exact (Report.get?_record ..).trans (if_pos rfl)
    · have hne : node ≠ node' := by
        rintro rfl
        exact hij (number_unique_of_count once (getElem?_nodes member) h.node)
      exact h.congr (getElem?_setPhase_ne hij) ((Report.get?_record ..).trans (if_neg hne))

theorem Stands.happens {f f' : FanOut ω τ} {e : Event ε} {i : Nat} {node : String} {s : Standing τ}
    (distinct : f.nodes.Nodup) (hap : Happens op f e f') (h : Stands f i node s) :
    (e.mover? ≠ some i ∧ Stands f' i node s) ∨
      ∃ task s', s = .running task ∧ Moves op i node f.world task e f'.world s' ∧
        Stands f' i node s' :=
  h.happens_of_count (List.nodup_iff_count.1 distinct node) hap

/-! ### Along a run -/

variable {names : List String} {events : List (Event ε)} {K : Knowledge ω τ ε}

/-- What is kept stays known of all members of a fan-out over different nodes. -/
theorem Kept.happens (kept : Kept op names events K) (distinct : names.Nodup)
    {before after : List (Event ε)} {e : Event ε} {g g' : FanOut ω τ}
    (split : events = before ++ e :: after) (nodes : g.nodes = names)
    (known : ∀ i node, names[i]? = some node → ∃ s, Stands g i node s ∧ K i node before g.world s)
    (hap : Happens op g e g') :
    ∀ i node, names[i]? = some node →
      ∃ s, Stands g' i node s ∧ K i node (before ++ [e]) g'.world s := by
  intro i node hi
  obtain ⟨s, hs, hK⟩ := known i node hi
  rcases hs.happens (nodes ▸ distinct) hap with ⟨still, hs'⟩ | ⟨task, s', rfl, move, hs'⟩
  · refine ⟨s, hs', ?_⟩
    have other : ∀ {j : Nat} {node' : String} {task : τ} {w : ω} {s' : Standing τ},
        e.mover? = some j → g.members[j]? = some ⟨node', .running task⟩ →
        Moves op j node' g.world task e w s' → K i node (before ++ [e]) w s := by
      intro j node' task w s' mover member move
      have hj : names[j]? = some node' := nodes ▸ getElem?_nodes member
      have hij : j ≠ i := fun h => still (h ▸ mover)
      have hne : node' ≠ node := fun h => hij (number_unique distinct hj (h ▸ hi))
      obtain ⟨sj, hsj, hKj⟩ := known j node' hj
      obtain ⟨-, rfl⟩ := hsj.eq_running member
      exact kept.other split hi hj hij hne hKj move hK
    cases hap with
    | cancel => exact kept.cancel split hi hK
    | waits member step => exact other rfl member (.waits step)
    | finishes member step => exact other rfl member (.finishes step)
    | interrupt member cancelled => exact other rfl member (.interrupted cancelled)
    | crash member => exact other rfl member .breaks
    | join _ => exact kept.join hi hK
  · exact ⟨s', hs', kept.own split hi hK move⟩

/-- **What is kept is known of every member**, all along a fan-out over different nodes. -/
theorem stands_of_run {w : ω} {f : FanOut ω τ} (kept : Kept op names events K)
    (distinct : names.Nodup) (h : (start op names w).run op events = some f)
    (begins : ∀ i node, names[i]? = some node →
      ∃ s, Stands (start op names w) i node s ∧ K i node [] (start op names w).world s) :
    ∀ i node, names[i]? = some node → ∃ s, Stands f i node s ∧ K i node events f.world s := by
  refine run_induction h
    (P := fun before g => ∀ i node, names[i]? = some node →
      ∃ s, Stands g i node s ∧ K i node before g.world s) begins ?_
  intro before e after g g' split hrun known hap
  exact kept.happens distinct split ((nodes_of_run hrun).trans (nodes_start ..)) known hap

/-- In a fan-out that is over, a member stands at the outcome that the report has for its node. -/
theorem Stands.recorded {f : FanOut ω τ} {i : Nat} {node : String} {s : Standing τ}
    (h : Stands f i node s) (isOver : f.isOver = true) :
    ∃ outcome, s = .over outcome ∧ f.report.get? node = some outcome := by
  have joined : ∀ {phase : Phase τ},
      f.members[i]? = some ⟨node, phase⟩ → Phase.isJoined phase = true := by
    intro phase member
    exact List.all_eq_true.1 isOver _ (List.mem_of_getElem? member)
  cases h with
  | running member => exact absurd (joined member) Bool.false_ne_true
  | ended member => exact absurd (joined member) Bool.false_ne_true
  | joined member recorded => exact ⟨_, rfl, recorded⟩

/-- Every node of a fan-out that is over has an outcome in the report, and what is kept is known
of the node with that outcome. -/
theorem recorded_of_run {w : ω} {f : FanOut ω τ} (kept : Kept op names events K)
    (distinct : names.Nodup) (h : (start op names w).run op events = some f) (isOver : f.isOver = true)
    (begins : ∀ i node, names[i]? = some node →
      ∃ s, Stands (start op names w) i node s ∧ K i node [] (start op names w).world s)
    {i : Nat} {node : String} (hi : names[i]? = some node) :
    ∃ outcome, f.report.get? node = some outcome ∧ K i node events f.world (.over outcome) := by
  obtain ⟨s, hs, hK⟩ := stands_of_run kept distinct h begins i node hi
  obtain ⟨outcome, rfl, hr⟩ := hs.recorded isOver
  exact ⟨outcome, hr, hK⟩

/-- A task goes on only if it is that of a node. -/
theorem node_of_advance {w : ω} {f : FanOut ω τ} {i : Nat} {x : ε}
    (h : (start op names w).run op events = some f) (hmem : .advance i x ∈ events) :
    ∃ node, names[i]? = some node := by
  obtain ⟨before, after, rfl⟩ := List.append_of_mem hmem
  have hpre : before ++ [.advance i x] <+: before ++ .advance i x :: after := ⟨after, by simp⟩
  obtain ⟨g, _, hrun, hap, -⟩ := happens_of_prefix h hpre
  have listed : ∀ {node phase}, g.members[i]? = some ⟨node, phase⟩ → names[i]? = some node := by
    intro node phase member
    rw [← nodes_start op names w, ← nodes_of_run hrun]
    exact getElem?_nodes member
  cases hap with
  | waits member _ => exact ⟨_, listed member⟩
  | finishes member _ => exact ⟨_, listed member⟩

/-! ### The report -/

/-- The report of a fan-out speaks of its nodes only. -/
theorem get?_report_eq_none {w : ω} {f : FanOut ω τ}
    (h : (start op names w).run op events = some f) {node : String} (absent : node ∉ names) :
    f.report.get? node = none := by
  refine run_induction h (P := fun _ g => g.report.get? node = none) rfl ?_
  intro before e after g g' _ hrun ih hap
  cases hap with
  | @join j node' outcome member =>
    have hmem : node' ∈ names := by
      rw [← nodes_start op names w, ← nodes_of_run hrun]
      exact List.mem_map.2 ⟨_, List.mem_of_getElem? member, rfl⟩
    have hne : node ≠ node' := fun h => absent (h ▸ hmem)
    exact (Report.get?_record ..).trans ((if_neg hne).trans ih)
  | cancel => exact ih
  | waits _ _ => exact ih
  | finishes _ _ => exact ih
  | interrupt _ _ => exact ih
  | crash _ => exact ih

end MonitorFleet.FanOut
