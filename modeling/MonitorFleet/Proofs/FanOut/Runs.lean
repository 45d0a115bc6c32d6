import Mathlib.Data.List.Induction
import MonitorFleet.FanOut

/-!
# Runs of a fan-out

A fan-out is driven by events in whatever order they come, so what is said of it has to hold for
every list of events. This module gives the two ways to say such things.

`Happens` lists what an event can do to a fan-out, and `happens_of_apply` says that it does nothing
else. `run_induction` carries a statement along a run; the statement may speak of the events so far,
and the step may use that these are the first of all the events.

## What is proved

* `happens_of_apply`: every event that can happen is one of the six kinds of `Happens`.
* `run_induction`: what holds at the start and is kept by every event holds at the end.
* `nodes_of_run`: the members of a fan-out stay the nodes that it was started on.
-/

namespace MonitorFleet.FanOut

variable {ω τ ε : Type} {op : Operation ω τ ε}

/-! ### Events -/

/-- What an event does to a fan-out. -/
inductive Happens (op : Operation ω τ ε) (f : FanOut ω τ) : Event ε → FanOut ω τ → Prop where
  /-- The run is cancelled. -/
  | cancel : Happens op f .cancel { f with world := op.cancel f.world }
  /-- A task goes on, and waits again. -/
  | waits {i : Nat} {node : String} {task task' : τ} {x : ε} {w : ω}
      (member : f.members[i]? = some ⟨node, .running task⟩)
      (step : op.step node f.world task x = some (w, .waiting task')) :
      Happens op f (.advance i x) ({ f with world := w }.setPhase i node (.running task'))
  /-- A task goes on, and is finished. -/
  | finishes {i : Nat} {node : String} {task : τ} {x : ε} {w : ω} {outcome : Except Error Unit}
      (member : f.members[i]? = some ⟨node, .running task⟩)
      (step : op.step node f.world task x = some (w, .finished outcome)) :
      Happens op f (.advance i x) ({ f with world := w }.setPhase i node (.ended outcome))
  /-- A member notices the cancellation, and its task is given up. -/
  | interrupt {i : Nat} {node : String} {task : τ}
      (member : f.members[i]? = some ⟨node, .running task⟩)
      (cancelled : op.isCancelled f.world = true) :
      Happens op f (.interrupt i)
        ({ f with world := op.drop f.world task }.setPhase i node (.ended (.error .cancelled)))
  /-- A task breaks down. -/
  | crash {i : Nat} {node : String} {task : τ} {reason : String}
      (member : f.members[i]? = some ⟨node, .running task⟩) :
      Happens op f (.crash i reason)
        ({ f with world := op.drop f.world task }.setPhase i node
          (.ended (.error (.taskFailed reason))))
  /-- An outcome is put into the report. -/
  | join {i : Nat} {node : String} {outcome : Except Error Unit}
      (member : f.members[i]? = some ⟨node, .ended outcome⟩) :
      Happens op f (.join i)
        ({ f with
          world := noteAll op f.world (Report.warning op.name node outcome)
          report := f.report.record node outcome }.setPhase i node .joined)

theorem happens_of_apply {f f' : FanOut ω τ} {e : Event ε} (h : f.apply op e = some f') :
    Happens op f e f' := by
  cases e with
  | cancel =>
    cases h
    exact .cancel
  | advance i x =>
    simp only [apply] at h
    split at h
    · next node task member =>
      split at h
      · cases h
      · next step => cases h; exact .waits member step
      · next step => cases h; exact .finishes member step
    · cases h
  | interrupt i =>
    simp only [apply] at h
    split at h
    · next node task member =>
      split at h
      · next cancelled => cases h; exact .interrupt member cancelled
      · cases h
    · cases h
  | crash i reason =>
    simp only [apply] at h
    split at h
    · next node task member => cases h; exact .crash member
    · cases h
  | join i =>
    simp only [apply] at h
    split at h
    · next node outcome member => cases h; exact .join member
    · cases h

/-! ### Runs -/

@[simp] theorem run_nil (f : FanOut ω τ) : f.run op [] = some f := rfl

theorem run_append (f : FanOut ω τ) (first second : List (Event ε)) :
    f.run op (first ++ second) = (f.run op first).bind fun g => g.run op second := by
  simp only [run, List.foldlM_append]
  rfl

theorem run_concat (f : FanOut ω τ) (events : List (Event ε)) (e : Event ε) :
    f.run op (events ++ [e]) = (f.run op events).bind fun g => g.apply op e := by
  rw [run_append]
  congr 1
  funext g
  simp [run, List.foldlM]

theorem run_of_prefix {f₀ f : FanOut ω τ} {before events : List (Event ε)}
    (h : f₀.run op events = some f) (hpre : before <+: events) :
    ∃ g after, before ++ after = events ∧ f₀.run op before = some g ∧ g.run op after = some f := by
  obtain ⟨after, rfl⟩ := hpre
  rw [run_append, Option.bind_eq_some_iff] at h
  obtain ⟨g, hg, hrest⟩ := h
  exact ⟨g, after, rfl, hg, hrest⟩

/-- A run goes through what each of its events does. -/
theorem happens_of_prefix {f₀ f : FanOut ω τ} {before events : List (Event ε)} {e : Event ε}
    (h : f₀.run op events = some f) (hpre : before ++ [e] <+: events) :
    ∃ g g', f₀.run op before = some g ∧ Happens op g e g' ∧ f₀.run op (before ++ [e]) = some g' := by
  obtain ⟨g', after, -, hrun, -⟩ := run_of_prefix h hpre
  have hlast := hrun
  rw [run_concat, Option.bind_eq_some_iff] at hlast
  obtain ⟨g, hg, happ⟩ := hlast
  exact ⟨g, g', hg, happens_of_apply happ, hrun⟩

/-- **Induction along a run.** `P` may speak of the events so far. -/
theorem run_induction {f₀ f : FanOut ω τ} {events : List (Event ε)}
    (h : f₀.run op events = some f) {P : List (Event ε) → FanOut ω τ → Prop} (start : P [] f₀)
    (step : ∀ {before e after g g'}, events = before ++ e :: after → f₀.run op before = some g →
      P before g → Happens op g e g' → P (before ++ [e]) g') :
    P events f := by
  -- The induction is on the events so far, from the back, since the last of them makes the step.
  suffices along : ∀ before, ∀ after f, events = before ++ after → f₀.run op before = some f →
      P before f from along events [] f (List.append_nil _).symm h
  intro before
  induction before using List.reverseRecOn with
  | nil =>
    intro after f _ hrun
    cases hrun
    exact start
  | append_singleton before e ih =>
    intro after f hsplit hrun
    rw [run_concat, Option.bind_eq_some_iff] at hrun
    obtain ⟨g, hg, hlast⟩ := hrun
    have hsplit' : events = before ++ e :: after := by rw [hsplit, List.append_assoc]; rfl
    exact step hsplit' hg (ih (e :: after) g hsplit' hg) (happens_of_apply hlast)

/-! ### Members -/

/-- The nodes of a fan-out. -/
def nodes (f : FanOut ω τ) : List String := f.members.map Member.node

theorem nodes_setPhase {f : FanOut ω τ} {i : Nat} {node : String} {old phase : Phase τ}
    (member : f.members[i]? = some ⟨node, old⟩) : (f.setPhase i node phase).nodes = f.nodes := by
  obtain ⟨hlt, heq⟩ := List.getElem?_eq_some_iff.1 member
  refine List.ext_getElem? fun j => ?_
  simp only [nodes, setPhase, List.map_set, List.getElem?_set, List.length_map]
  by_cases hij : i = j
  · subst hij
    simp [hlt, heq]
  · simp [hij]

theorem nodes_of_happens {f f' : FanOut ω τ} {e : Event ε} (h : Happens op f e f') :
    f'.nodes = f.nodes := by
  cases h with
  | cancel => rfl
  | waits member _ => exact nodes_setPhase (f := { f with world := _ }) member
  | finishes member _ => exact nodes_setPhase (f := { f with world := _ }) member
  | interrupt member _ => exact nodes_setPhase (f := { f with world := _ }) member
  | crash member => exact nodes_setPhase (f := { f with world := _ }) member
  | join member => exact nodes_setPhase (f := { f with world := _, report := _ }) member

/-- The members of a fan-out stay the nodes that it was started on. -/
theorem nodes_of_run {f₀ f : FanOut ω τ} {events : List (Event ε)}
    (h : f₀.run op events = some f) : f.nodes = f₀.nodes :=
  run_induction h (P := fun _ g => g.nodes = f₀.nodes) rfl
    fun _ _ ih hap => (nodes_of_happens hap).trans ih

/-- A member that is replaced is counted as what it is then, and no more as what it was. -/
theorem countP_set {members : List (Member τ)} {i : Nat} {old : Member τ}
    (member : members[i]? = some old) (kind : Member τ → Bool) (new : Member τ) :
    (members.set i new).countP kind + (kind old).toNat =
      members.countP kind + (kind new).toNat := by
  obtain ⟨hlt, heq⟩ := List.getElem?_eq_some_iff.1 member
  have counted : kind old = true → 0 < members.countP kind := fun h =>
    List.countP_pos_iff.2 ⟨_, List.mem_of_getElem? member, h⟩
  rw [List.countP_set hlt, heq]
  cases hold : kind old with
  | true =>
    have := counted hold
    cases kind new <;> simp <;> omega
  | false => cases kind new <;> simp

theorem members_spawnAll (op : Operation ω τ ε) (w : ω) (names : List String) :
    (spawnAll op w names).2.map Member.node = names := by
  induction names generalizing w with
  | nil => rfl
  | cons node names ih => simp [spawnAll, ih]

@[simp] theorem nodes_start (op : Operation ω τ ε) (names : List String) (w : ω) :
    (start op names w).nodes = names := members_spawnAll op w names

end MonitorFleet.FanOut
