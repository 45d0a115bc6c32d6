import MonitorFleet.Proofs.FanOut.Reports

/-!
# What a fan-out does itself

A fan-out makes the tasks of its nodes and writes a warning for each failure. The tasks act on the
same world, so that it does not show which part of it is the fan-out's doing. `Operation.traced` is
the operation that keeps a trace of this beside the world, and does nothing else in another way: a
fan-out of it is a fan-out of the operation once the trace is forgotten.

## What is proved

* `run_traced`: forgetting the trace gives the run of the operation itself.
* `started_of_run`: a task was made for each node, once and in order.
* `noted_of_run`: the records are the warnings of the failures in the report, in some order.
-/

namespace MonitorFleet

/-- What a fan-out did itself. -/
structure FanOut.Trace where
  /-- The nodes that a task was made for. -/
  started : List String
  /-- The records that the fan-out wrote. -/
  noted : List Record

/-- The operation with a trace of what the fan-out does itself. -/
def Operation.traced {ω τ ε : Type} (op : Operation ω τ ε) : Operation (ω × FanOut.Trace) τ ε where
  name := op.name
  spans := op.spans
  spawn w node :=
    (((op.spawn w.1 node).1, { w.2 with started := w.2.started ++ [node] }), (op.spawn w.1 node).2)
  step node w task x := (op.step node w.1 task x).map fun r => ((r.1, w.2), r.2)
  drop w task := (op.drop w.1 task, w.2)
  isCancelled w := op.isCancelled w.1
  cancel w := (op.cancel w.1, w.2)
  note w r := (op.note w.1 r, { w.2 with noted := w.2.noted ++ [r] })

namespace FanOut

variable {ω τ ε : Type} {op : Operation ω τ ε} {names : List String} {events : List (Event ε)}

/-- The trace of a fan-out that has just begun. -/
def Trace.empty : Trace := ⟨[], []⟩

/-- The fan-out without its trace. -/
def forget (f : FanOut (ω × Trace) τ) : FanOut ω τ := ⟨f.world.1, f.members, f.report⟩

theorem trace_of_step {w w' : ω × Trace} {node : String} {task : τ} {x : ε} {p : Progress τ Unit}
    (step : op.traced.step node w task x = some (w', p)) : w'.2 = w.2 := by
  obtain ⟨r, -, hr⟩ := Option.map_eq_some_iff.1 step
  cases hr
  rfl

/-! ### Forgetting the trace -/

variable (op) in
theorem noteAll_traced (w : ω × Trace) (records : List Record) :
    noteAll op.traced w records =
      (noteAll op w.1 records,
        { w.2 with noted := w.2.noted ++ records.map (Record.within op.spans) }) := by
  induction records generalizing w with
  | nil => simp [noteAll]
  | cons record records ih =>
    have step : noteAll op.traced w (record :: records) =
        noteAll op.traced (op.traced.note w (record.within op.spans)) records := rfl
    rw [step, ih]
    simp [Operation.traced, noteAll]

/-- Forgetting the trace commutes with an event. -/
theorem apply_traced (f : FanOut (ω × Trace) τ) (e : Event ε) :
    (f.apply op.traced e).map forget = f.forget.apply op e := by
  cases e with
  | cancel => rfl
  | advance i x =>
    simp only [apply, show f.forget.members = f.members from rfl]
    split
    · next node task _ =>
      have step : op.traced.step node f.world task x =
          (op.step node f.forget.world task x).map fun r => ((r.1, f.world.2), r.2) := rfl
      rw [step]
      cases op.step node f.forget.world task x with
      | none => rfl
      | some r => obtain ⟨w, _ | _⟩ := r <;> rfl
    · rfl
  | interrupt i =>
    simp only [apply, show f.forget.members = f.members from rfl]
    split
    · next node task _ =>
      rw [show op.traced.isCancelled f.world = op.isCancelled f.forget.world from rfl]
      split <;> rfl
    · rfl
  | crash i reason =>
    simp only [apply, show f.forget.members = f.members from rfl]
    split <;> rfl
  | join i =>
    simp only [apply, show f.forget.members = f.members from rfl]
    split
    · simp only [Option.map_some, forget, noteAll_traced]
      rfl
    · rfl

/-- Forgetting the trace gives the run of the operation itself. -/
theorem run_traced (f : FanOut (ω × Trace) τ) (events : List (Event ε)) :
    (f.run op.traced events).map forget = f.forget.run op events := by
  induction events generalizing f with
  | nil => rfl
  | cons e events ih =>
    have first : f.run op.traced (e :: events) =
        (f.apply op.traced e).bind fun g => g.run op.traced events := rfl
    have first' : f.forget.run op (e :: events) =
        (f.forget.apply op e).bind fun g => g.run op events := rfl
    rw [first, first', ← apply_traced]
    cases f.apply op.traced e with
    | none => rfl
    | some g => exact ih g

theorem spawnAll_traced (w : ω × Trace) (names : List String) :
    spawnAll op.traced w names =
      (((spawnAll op w.1 names).1, { w.2 with started := w.2.started ++ names }),
        (spawnAll op w.1 names).2) := by
  induction names generalizing w with
  | nil => simp [spawnAll]
  | cons node names ih =>
    simp only [spawnAll, ih]
    simp [Operation.traced]

theorem start_traced (names : List String) (w : ω) :
    (start op.traced names (w, .empty)).forget = start op names w := by
  simp only [start, spawnAll_traced, forget]
  rfl

theorem traced_of_run {w : ω} {f : FanOut ω τ} (h : (start op names w).run op events = some f) :
    ∃ g, (start op.traced names (w, .empty)).run op.traced events = some g ∧ g.forget = f := by
  rw [← start_traced, ← run_traced, Option.map_eq_some_iff] at h
  exact h

/-! ### What the trace shows -/

/-- A task was made for each node, once and in order. -/
theorem started_of_run {w : ω} {g : FanOut (ω × Trace) τ}
    (h : (start op.traced names (w, .empty)).run op.traced events = some g) :
    g.world.2.started = names := by
  refine run_induction h (P := fun _ g => g.world.2.started = names) ?_ ?_
  · simp only [start, spawnAll_traced]
    rfl
  · intro before e after g g' _ _ ih hap
    cases hap with
    | cancel => exact ih
    | waits _ step => exact (congrArg Trace.started (trace_of_step step)).trans ih
    | finishes _ step => exact (congrArg Trace.started (trace_of_step step)).trans ih
    | interrupt _ _ => exact ih
    | crash _ => exact ih
    | @join _ node outcome _ =>
      have same := noteAll_traced op g.world (Report.warning op.name node outcome)
      exact (congrArg (fun w => w.2.started) same).trans ih

/-- A node whose outcome was not joined yet is not in the report. -/
theorem unrecorded_of_run {w : ω} {f : FanOut ω τ} (distinct : names.Nodup)
    (h : (start op names w).run op events = some f) :
    ∀ (i : Nat) (m : Member τ), f.members[i]? = some m → Phase.isJoined m.phase = false →
      f.report.get? m.node = none := by
  refine run_induction h (P := fun _ g => ∀ (i : Nat) (m : Member τ), g.members[i]? = some m →
    Phase.isJoined m.phase = false → g.report.get? m.node = none) (fun _ _ _ _ => rfl) ?_
  intro before e after g g' _ hrun ih hap
  -- A member that moves was unjoined before.
  have moved : ∀ {j : Nat} {node : String} {phase phase' : Phase τ},
      g.members[j]? = some ⟨node, phase⟩ → Phase.isJoined phase = false →
      ∀ (i : Nat) (m : Member τ), (g.members.set j ⟨node, phase'⟩)[i]? = some m →
        Phase.isJoined m.phase = false → g.report.get? m.node = none := by
    intro j node phase phase' member unjoined i m hi hun
    by_cases hji : j = i
    · subst hji
      have same : m = ⟨node, phase'⟩ :=
        Option.some.inj (hi.symm.trans (getElem?_setPhase_self (f := g) member))
      rw [same]
      exact ih j ⟨node, phase⟩ member unjoined
    · exact ih i m ((getElem?_setPhase_ne (f := g) hji).symm.trans hi) hun
  cases hap with
  | cancel => exact ih
  | waits member _ => exact moved member rfl
  | finishes member _ => exact moved member rfl
  | interrupt member _ => exact moved member rfl
  | crash member => exact moved member rfl
  | @join j node outcome member =>
    intro i m hi hun
    have hji : j ≠ i := by
      rintro rfl
      have joined : m = ⟨node, .joined⟩ :=
        Option.some.inj (hi.symm.trans (getElem?_setPhase_self (f := g) member))
      rw [joined] at hun
      cases hun
    have hi' : g.members[i]? = some m := (getElem?_setPhase_ne hji).symm.trans hi
    have distinct' : g.nodes.Nodup := by rwa [nodes_of_run hrun, nodes_start]
    have hne : m.node ≠ node := by
      rintro rfl
      exact hji (number_unique distinct' (getElem?_nodes member) (getElem?_nodes hi'))
    exact (Report.get?_record ..).trans ((if_neg hne).trans (ih i m hi' hun))

/-- The warnings of the failures in a report. -/
def warnings (op : Operation ω τ ε) (r : Report) : List Record :=
  r.failures.entries.flatMap fun e =>
    (Report.warning op.name e.1 (.error e.2)).map (Record.within op.spans)

theorem perm_insertEntry {α : Type} {name : String} (value : α) {es : List (String × α)}
    (fresh : ∀ e ∈ es, e.1 ≠ name) :
    (NameMap.insertEntry name value es).Perm ((name, value) :: es) := by
  induction es with
  | nil => exact .refl _
  | cons e es ih =>
    obtain ⟨he, hes⟩ := List.forall_mem_cons.1 fresh
    rw [NameMap.insertEntry, if_neg he]
    split
    · exact ((ih hes).cons e).trans (.swap ..)
    · exact .refl _

/-- Recording the outcome of a new node adds its warning. -/
theorem warnings_record {r : Report} {node : String} (outcome : Except Error Unit)
    (fresh : r.get? node = none) :
    (warnings op (r.record node outcome)).Perm
      (warnings op r ++ (Report.warning op.name node outcome).map (Record.within op.spans)) := by
  have absent : ∀ e ∈ r.failures.entries, e.1 ≠ node := by
    rintro ⟨name, error⟩ hmem rfl
    rw [Report.mem_entries_failures, fresh] at hmem
    cases hmem
  cases outcome with
  | ok _ =>
    have same : (r.failures.erase node).entries = r.failures.entries :=
      List.filter_eq_self.2 fun e he => bne_iff_ne.2 (absent e he)
    simp [warnings, Report.record, Report.warning, same]
  | error error =>
    refine ((perm_insertEntry error absent).flatMap_right _).trans ?_
    rw [List.flatMap_cons]
    exact List.perm_append_comm

/-- The records are the warnings of the failures in the report, in some order. -/
theorem noted_of_run {w : ω} {g : FanOut (ω × Trace) τ} (distinct : names.Nodup)
    (h : (start op.traced names (w, .empty)).run op.traced events = some g) :
    g.world.2.noted.Perm (warnings op g.report) := by
  refine run_induction h (P := fun _ g => g.world.2.noted.Perm (warnings op g.report)) ?_ ?_
  · simp only [start, spawnAll_traced]
    exact .refl _
  · intro before e after g g' _ hrun ih hap
    cases hap with
    | cancel => exact ih
    | waits _ step =>
      have same := congrArg Trace.noted (trace_of_step step)
      exact (List.Perm.of_eq same).trans ih
    | finishes _ step =>
      have same := congrArg Trace.noted (trace_of_step step)
      exact (List.Perm.of_eq same).trans ih
    | interrupt _ _ => exact ih
    | crash _ => exact ih
    | @join i node outcome member =>
      have noted := congrArg (fun w => w.2.noted)
        (noteAll_traced op g.world (Report.warning op.name node outcome))
      have fresh := unrecorded_of_run distinct hrun i _ member rfl
      exact (List.Perm.of_eq noted).trans
        ((ih.append_right _).trans (warnings_record outcome fresh).symm)

end FanOut

end MonitorFleet
