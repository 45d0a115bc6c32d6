import MonitorFleet.Proofs.FanOut.Tracing

/-!
# What adds up along a fan-out

Some things are counted over a whole fan-out: how often something happened to its tasks (`happened`),
what was seen as it went on (`observed`), and how many of its members stand somewhere. Each of these
is said for one more event here, so that an equation between them can be carried along a run.

## What is proved

* `happened_concat`, `observed_concat`: what one more event adds.
* `mem_observed`: what was observed, was observed of an event that happened.
* `running_waits`, `running_ends`, `running_join`: how many tasks run that stand somewhere.
* `successes_waits`, `successes_ends`, `successes_join`: how many succeeded.
-/

namespace MonitorFleet

/-- Recording the outcome of a new node adds to those that succeeded, if it is a success. -/
theorem Report.size_succeeded_record {r : Report} {node : String} (outcome : Except Error Unit)
    (fresh : r.get? node = none) :
    (r.record node outcome).succeeded.size = r.succeeded.size + outcome.isOk.toNat := by
  have absent : ∀ e ∈ r.succeeded.entries, e.1 ≠ node := by
    rintro ⟨name, value⟩ hmem rfl
    rw [NameMap.mem_entries] at hmem
    unfold get? at fresh
    rw [hmem] at fresh
    split at fresh <;> cases fresh
  cases outcome with
  | ok _ => exact (FanOut.perm_insertEntry () absent).length_eq
  | error error =>
    exact congrArg List.length (List.filter_eq_self.2 fun e he => bne_iff_ne.2 (absent e he))

/-- Whether the task of a member runs, and stands somewhere of a kind. -/
def Member.runsIn {τ : Type} (kind : τ → Bool) : Member τ → Bool
  | ⟨_, .running task⟩ => kind task
  | _ => false

/-- Whether the task of a member succeeded, which is not in the report yet. -/
def Member.hasSucceeded {τ : Type} : Member τ → Bool
  | ⟨_, .ended outcome⟩ => outcome.isOk
  | _ => false

namespace FanOut

variable {ω τ ε α : Type} {op : Operation ω τ ε} {f₀ f g : FanOut ω τ}
  {before events : List (Event ε)} {e : Event ε}

/-! ### Events of a kind -/

/-- Whether an event is something of a kind that happens to a task. -/
def Event.isOf (kind : ε → Bool) : Event ε → Bool
  | advance _ x => kind x
  | _ => false

/-- How often something of a kind happened to the tasks of a fan-out. -/
def happened (kind : ε → Bool) (events : List (Event ε)) : Nat := events.countP (·.isOf kind)

theorem happened_concat (kind : ε → Bool) (before : List (Event ε)) (e : Event ε) :
    happened kind (before ++ [e]) = happened kind before + (e.isOf kind).toNat := by
  rw [happened, List.countP_append, List.countP_singleton]
  cases e.isOf kind <;> rfl

/-! ### Observations -/

/-- What is observed along a run, if `see` tells what is seen of an event. -/
def observed (op : Operation ω τ ε) (see : FanOut ω τ → Event ε → List α) :
    FanOut ω τ → List (Event ε) → List α
  | _, [] => []
  | f, e :: events =>
    see f e ++ match f.apply op e with
      | some g => observed op see g events
      | none => []

variable {see : FanOut ω τ → Event ε → List α}

theorem observed_concat (h : f.run op before = some g) (e : Event ε) :
    observed op see f (before ++ [e]) = observed op see f before ++ see g e := by
  induction before generalizing f with
  | nil =>
    cases h
    simp only [List.nil_append, observed]
    split <;> exact List.append_nil _
  | cons first before ih =>
    have hsplit : f.run op ([first] ++ before) = some g := h
    rw [run_append, Option.bind_eq_some_iff] at hsplit
    obtain ⟨f', hfirst, hrest⟩ := hsplit
    have happ : f.apply op first = some f' := by simpa [run, List.foldlM] using hfirst
    simp only [List.cons_append, observed, happ]
    rw [ih hrest, List.append_assoc]

/-- What was observed, was observed of an event that happened. -/
theorem mem_observed {x : α} (h : f₀.run op events = some f)
    (hx : x ∈ observed op see f₀ events) :
    ∃ before e g g', before ++ [e] <+: events ∧ f₀.run op before = some g ∧ Happens op g e g' ∧
      x ∈ see g e := by
  refine run_induction h
    (P := fun past _ => x ∈ observed op see f₀ past → ∃ before e g g', before ++ [e] <+: past ∧
      f₀.run op before = some g ∧ Happens op g e g' ∧ x ∈ see g e) nofun ?_ hx
  intro before e after g g' _ hrun ih hap hmem
  rw [observed_concat hrun, List.mem_append] at hmem
  rcases hmem with earlier | now
  · obtain ⟨b, e', f', g', hpre, rest⟩ := ih earlier
    exact ⟨b, e', f', g', hpre.trans (List.prefix_append ..), rest⟩
  · exact ⟨before, e, g, g', List.prefix_refl _, hrun, hap, now⟩

/-! ### Members that stand somewhere -/

/-- Of the members of a fan-out that is over, none is of a kind that those are not which were
joined. -/
theorem countP_of_isOver (isOver : f.isOver = true) {kind : Member τ → Bool}
    (other : ∀ node, kind ⟨node, .joined⟩ = false) : f.members.countP kind = 0 := by
  refine List.countP_eq_zero.2 fun m hmem => ?_
  obtain ⟨node, phase⟩ := m
  have joined := List.all_eq_true.1 isOver _ hmem
  cases phase with
  | joined => simp [other]
  | running _ => cases joined
  | ended _ => cases joined

/-- How many tasks run and stand somewhere of a kind. -/
def running (f : FanOut ω τ) (kind : τ → Bool) : Nat := f.members.countP (Member.runsIn kind)

section

variable (kind : τ → Bool) {i : Nat} {node : String} {task : τ}

theorem running_waits (w : ω) (member : f.members[i]? = some ⟨node, .running task⟩) (task' : τ) :
    ({ f with world := w }.setPhase i node (.running task')).running kind + (kind task).toNat =
      f.running kind + (kind task').toNat := countP_set member _ _

theorem running_ends (w : ω) (member : f.members[i]? = some ⟨node, .running task⟩)
    (outcome : Except Error Unit) :
    ({ f with world := w }.setPhase i node (.ended outcome)).running kind + (kind task).toNat =
      f.running kind := countP_set member _ _

theorem running_join (w : ω) {outcome : Except Error Unit}
    (member : f.members[i]? = some ⟨node, .ended outcome⟩) :
    ({ f with world := w, report := f.report.record node outcome }.setPhase i node .joined).running
      kind = f.running kind := countP_set member (Member.runsIn kind) ⟨node, .joined⟩

theorem running_of_isOver (isOver : f.isOver = true) : f.running kind = 0 :=
  countP_of_isOver isOver fun _ => rfl

theorem not_kind_of_running {kind : τ → Bool} (none : f.running kind = 0)
    (member : f.members[i]? = some ⟨node, .running task⟩) : kind task = false :=
  Bool.eq_false_iff.2 (List.countP_eq_zero.1 none _ (List.mem_of_getElem? member))

end

/-! ### Successes -/

/-- How many tasks succeeded, be they in the report or not. -/
def successes (f : FanOut ω τ) : Nat :=
  f.report.succeeded.size + f.members.countP Member.hasSucceeded

section

variable {i : Nat} {node : String} {task : τ}

theorem successes_waits (w : ω) (member : f.members[i]? = some ⟨node, .running task⟩) (task' : τ) :
    ({ f with world := w }.setPhase i node (.running task')).successes = f.successes :=
  congrArg (f.report.succeeded.size + ·) (countP_set member Member.hasSucceeded ⟨node, .running task'⟩)

theorem successes_ends (w : ω) (member : f.members[i]? = some ⟨node, .running task⟩)
    (outcome : Except Error Unit) :
    ({ f with world := w }.setPhase i node (.ended outcome)).successes =
      f.successes + outcome.isOk.toNat := by
  have counted := countP_set member Member.hasSucceeded ⟨node, .ended outcome⟩
  exact (congrArg (f.report.succeeded.size + ·) counted).trans (Nat.add_assoc ..).symm

/-- Joining a member leaves the number of successes as it is, if its node is new to the report. -/
theorem successes_join (w : ω) {outcome : Except Error Unit}
    (member : f.members[i]? = some ⟨node, .ended outcome⟩) (fresh : f.report.get? node = none) :
    ({ f with world := w, report := f.report.record node outcome }.setPhase i node .joined).successes =
      f.successes := by
  have counted := countP_set member Member.hasSucceeded ⟨node, .joined⟩
  have recorded := Report.size_succeeded_record outcome fresh
  simp only [successes, setPhase, Member.hasSucceeded, Bool.toNat_false] at counted ⊢
  omega

theorem successes_of_isOver (isOver : f.isOver = true) :
    f.successes = f.report.succeeded.size := by
  rw [successes, countP_of_isOver isOver fun _ => rfl, Nat.add_zero]

end

end FanOut

end MonitorFleet
