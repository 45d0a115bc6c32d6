import Mathlib.Logic.Function.Basic
import MonitorFleet.Proofs.Tunnel.Handling

/-!
# Who holds the tunnels of a fan-out

The tunnels that a fan-out opens are in the custody of its members: `Custody` says which of them are
held and by whom, against the world in which the fan-out began. What a member does with a tunnel
(`Handling`) keeps the custody, so it holds at every moment of every run.

## What is proved

* `Custody.handling`: the custody is kept by what a member does with its tunnel.
* `custody_of_run`: it holds after any events, with what the members hold then.
-/

namespace MonitorFleet

/-- The custody of tunnels in a fan-out over nodes, for a run, since a world: `hold` has what
each member holds. -/
structure Custody (run : RunToken) (names : List String) (base w : World)
    (hold : Nat → Option TunnelToken) : Prop where
  /-- No tunnel is lost. -/
  grows : base.tokens.tunnels.length ≤ w.tokens.tunnels.length
  /-- The tunnels from before are left alone. -/
  old : ∀ t < base.tokens.tunnels.length, w.tokens.tunnels[t]? = base.tokens.tunnels[t]?
  /-- The tunnels that were handed to the cluster are the new ones, each once. -/
  handed : w.handed = base.handed ++ List.range' base.tokens.tunnels.length
    (w.tokens.tunnels.length - base.tokens.tunnels.length)
  /-- What a member holds is a new tunnel, to its node and for its run, that was not released. -/
  held : ∀ {i t}, hold i = some t → base.tokens.tunnels.length ≤ t ∧
    ∃ node pod, names[i]? = some node ∧ w.tokens.tunnels[t]? = some ⟨node, pod, run, false⟩
  /-- No tunnel is held by two members. -/
  alone : ∀ {i j t}, hold i = some t → hold j = some t → i = j
  /-- Each new tunnel that was not released is held. -/
  kept : ∀ {t x}, base.tokens.tunnels.length ≤ t → w.tokens.tunnels[t]? = some x →
    x.released = false → ∃ i, hold i = some t

variable {run : RunToken} {names : List String} {base w w' : World}
  {hold : Nat → Option TunnelToken} {i : Nat} {node : String} {after : Option TunnelToken}

theorem custody_start (run : RunToken) (names : List String) (base : World) :
    Custody run names base base fun _ => none where
  grows := Nat.le_refl _
  old _ _ := rfl
  handed := by simp
  held h := by cases h
  alone h := by cases h
  kept hle hx _ := absurd (List.getElem?_eq_some_iff.1 hx).1 (Nat.not_lt.2 hle)

/-- The custody only looks at the tunnels and at what was handed over. -/
theorem Custody.congr (h : Custody run names base w hold)
    (tunnels : w'.tokens.tunnels = w.tokens.tunnels) (handed : w'.handed = w.handed) :
    Custody run names base w' hold where
  grows := by rw [tunnels]; exact h.grows
  old := by rw [tunnels]; exact h.old
  handed := by rw [tunnels, handed]; exact h.handed
  held := by rw [tunnels]; exact h.held
  alone := h.alone
  kept := by rw [tunnels]; exact h.kept

/-- The custody after a member that held nothing opened a tunnel. -/
theorem Custody.opened (h : Custody run names base w hold) (hi : names[i]? = some node)
    (free : hold i = none) {pod : PodRef}
    (tunnels : w'.tokens.tunnels = w.tokens.tunnels ++ [⟨node, pod, run, false⟩])
    (handed : w'.handed = w.handed ++ [w.tokens.tunnels.length]) :
    Custody run names base w' (Function.update hold i (some w.tokens.tunnels.length)) := by
  have below : ∀ {j t}, hold j = some t → t < w.tokens.tunnels.length := by
    intro j t hj
    obtain ⟨-, _, _, -, hx⟩ := h.held hj
    exact (List.getElem?_eq_some_iff.1 hx).1
  have length : w'.tokens.tunnels.length = w.tokens.tunnels.length + 1 := by simp [tunnels]
  have grows := h.grows
  refine ⟨by omega, ?_, ?_, ?_, ?_, ?_⟩
  · intro t ht
    rw [tunnels, List.getElem?_append_left (by omega)]
    exact h.old t ht
  · rw [handed, h.handed, length, Nat.sub_add_comm grows, List.range'_concat, List.append_assoc]
    simp [Nat.add_sub_cancel' grows]
  · intro j t hj
    by_cases hij : j = i
    · subst hij
      obtain rfl : w.tokens.tunnels.length = t := by simpa using hj
      exact ⟨grows, node, pod, hi, by simp [tunnels]⟩
    · rw [Function.update_of_ne hij] at hj
      obtain ⟨hle, node', pod', hn, hx⟩ := h.held hj
      refine ⟨hle, node', pod', hn, ?_⟩
      rw [tunnels, List.getElem?_append_left (below hj)]
      exact hx
  · intro j k t hj hk
    by_cases hji : j = i <;> by_cases hki : k = i
    · rw [hji, hki]
    · subst hji
      rw [Function.update_of_ne hki] at hk
      obtain rfl : w.tokens.tunnels.length = t := by simpa using hj
      exact absurd (below hk) (Nat.lt_irrefl _)
    · subst hki
      rw [Function.update_of_ne hji] at hj
      obtain rfl : w.tokens.tunnels.length = t := by simpa using hk
      exact absurd (below hj) (Nat.lt_irrefl _)
    · rw [Function.update_of_ne hji] at hj
      rw [Function.update_of_ne hki] at hk
      exact h.alone hj hk
  · intro t x hle hx unreleased
    rcases Nat.lt_or_ge t w.tokens.tunnels.length with hlt | hge
    · rw [tunnels, List.getElem?_append_left hlt] at hx
      obtain ⟨j, hj⟩ := h.kept hle hx unreleased
      have hji : j ≠ i := by
        rintro rfl
        rw [free] at hj
        cases hj
      exact ⟨j, by rw [Function.update_of_ne hji]; exact hj⟩
    · have ht : t = w.tokens.tunnels.length := by
        have := (List.getElem?_eq_some_iff.1 hx).1
        omega
      exact ⟨i, by rw [Function.update_self, ht]⟩

/-- The custody after a member released what it held. -/
theorem Custody.released (h : Custody run names base w hold)
    (tunnels : w'.tokens.tunnels = (w.release (hold i)).tokens.tunnels)
    (handed : w'.handed = w.handed) :
    Custody run names base w' (Function.update hold i none) := by
  cases hheld : hold i with
  | none =>
    rw [hheld] at tunnels
    rw [← hheld, Function.update_eq_self]
    exact h.congr tunnels handed
  | some t₀ =>
    rw [hheld, World.tokens_release_some] at tunnels
    have length : w'.tokens.tunnels.length = w.tokens.tunnels.length := by simp [tunnels]
    have elsewhere : ∀ {t}, t ≠ t₀ → w'.tokens.tunnels[t]? = w.tokens.tunnels[t]? := by
      intro t ht
      rw [tunnels]
      exact Tokens.getElem?_release_of_ne _ ht
    -- A member that still holds a tunnel is another one, and so is its tunnel.
    have others : ∀ {j t}, Function.update hold i none j = some t → hold j = some t ∧ t ≠ t₀ := by
      intro j t hj
      by_cases hji : j = i
      · rw [hji, Function.update_self] at hj
        cases hj
      · rw [Function.update_of_ne hji] at hj
        exact ⟨hj, fun ht => hji (h.alone (ht ▸ hj) hheld)⟩
    refine ⟨length ▸ h.grows, ?_, ?_, ?_, ?_, ?_⟩
    · intro t ht
      have hle := (h.held hheld).1
      rw [elsewhere (Nat.ne_of_lt (Nat.lt_of_lt_of_le ht hle))]
      exact h.old t ht
    · rw [handed, length]
      exact h.handed
    · intro j t hj
      obtain ⟨hj, ht⟩ := others hj
      rw [elsewhere ht]
      exact h.held hj
    · intro j k t hj hk
      exact h.alone (others hj).1 (others hk).1
    · intro t x hle hx unreleased
      have ht : t ≠ t₀ := by
        rintro rfl
        rw [tunnels] at hx
        rw [Tokens.released_of_release hx] at unreleased
        cases unreleased
      rw [elsewhere ht] at hx
      obtain ⟨j, hj⟩ := h.kept hle hx unreleased
      have hji : j ≠ i := by
        rintro rfl
        exact ht (Option.some.inj (hj.symm.trans hheld))
      exact ⟨j, by rw [Function.update_of_ne hji]; exact hj⟩

/-- What a member does with its tunnel keeps the custody. -/
theorem Custody.handling (h : Custody run names base w hold) (hi : names[i]? = some node)
    (handling : Handling run node w w' (hold i) after) :
    Custody run names base w' (Function.update hold i after) := by
  generalize hheld : hold i = before at handling
  cases handling with
  | kept tunnels handed =>
    rw [← hheld, Function.update_eq_self]
    exact h.congr tunnels handed
  | opened tunnels handed => exact h.opened hi hheld tunnels handed
  | released tunnels handed =>
    rw [← hheld] at tunnels
    exact h.released tunnels handed

/-! ### Along a fan-out -/

/-- What a member of a fan-out holds, by its phase. -/
def Phase.held : Phase Task → Option TunnelToken
  | .running task => task.held
  | _ => none

namespace FanOut

/-- What a member of a fan-out holds, by its number. -/
def held (f : FanOut World Task) (i : Nat) : Option TunnelToken :=
  f.members[i]?.bind fun m => m.phase.held

variable {work : Work} {spans : List Span} {events : List (Event Happening)}
  {f : FanOut World Task}

theorem held_of_member {phase : Phase Task} (member : f.members[i]? = some ⟨node, phase⟩) :
    f.held i = phase.held := by
  unfold held
  rw [member]
  rfl

theorem held_setPhase {old : Phase Task} (phase : Phase Task)
    (member : f.members[i]? = some ⟨node, old⟩) :
    (f.setPhase i node phase).held = Function.update f.held i phase.held := by
  funext j
  by_cases hji : j = i
  · subst hji
    rw [held_of_member (getElem?_setPhase_self member), Function.update_self]
  · unfold held
    rw [getElem?_setPhase_ne (Ne.symm hji), Function.update_of_ne hji]

theorem held_start (work : Work) (spans : List Span) (names : List String) (w : World) :
    (start (work.fanOut spans) names w).held = fun _ => none := by
  funext i
  simp only [held, start, Work.spawnAll_eq, List.getElem?_map]
  cases names[i]? <;> rfl

/-- The custody is kept by an event that moves a member. -/
theorem custody_setPhase {task : Task} {e : Event Happening} {s : Standing Task}
    {phase : Phase Task} (h : Custody work.run names base f.world f.held)
    (hi : names[i]? = some node) (member : f.members[i]? = some ⟨node, .running task⟩)
    (move : work.Moves i node f.world task e w' s) (hs : s.held = phase.held) :
    Custody work.run names base w' ({ f with world := w' }.setPhase i node phase).held := by
  have handling := move.handling
  have before : f.held i = task.held := held_of_member member
  rw [held_setPhase (f := { f with world := w' }) phase member, ← hs]
  rw [← before] at handling
  exact h.handling hi handling

/-- The custody is kept when a member is joined. -/
theorem custody_join {outcome : Except Error Unit} {records : List Record} {report : Report}
    (h : Custody work.run names base f.world f.held)
    (member : f.members[i]? = some ⟨node, .ended outcome⟩) :
    Custody work.run names base (noteAll (work.fanOut spans) f.world records)
      ({ f with world := noteAll (work.fanOut spans) f.world records, report }.setPhase i node
        .joined).held := by
  obtain ⟨log, hlog⟩ := work.noteAll_eq spans f.world records
  have free : f.held i = none := held_of_member member
  have same : Function.update f.held i none = f.held := by rw [← free, Function.update_eq_self]
  have joined := (held_setPhase (f := { f with world := { f.world with log }, report })
    .joined member).trans same
  rw [hlog, joined]
  exact h.congr rfl rfl

/-- **The tunnels of a fan-out are in custody** after any events that happen to it. -/
theorem custody_of_run
    (h : (start (work.fanOut spans) names w).run (work.fanOut spans) events = some f) :
    Custody work.run names w f.world f.held := by
  refine run_induction h (P := fun _ g => Custody work.run names w g.world g.held) ?_ ?_
  · rw [held_start, Work.world_start]
    exact custody_start ..
  · intro before e after g g' split hrun ih hap
    have named : ∀ {j : Nat} {node : String} {phase : Phase Task},
        g.members[j]? = some ⟨node, phase⟩ → names[j]? = some node := by
      intro j node phase member
      rw [← nodes_start (work.fanOut spans) names w, ← nodes_of_run hrun, nodes,
        List.getElem?_map, member]
      rfl
    cases hap with
    | cancel => exact ih.congr rfl rfl
    | @waits i _ _ _ _ _ member step =>
      exact custody_setPhase ih (named member) member
        (Work.moves_of_moves (i := i) (.waits step)) rfl
    | @finishes i _ _ _ _ _ member step =>
      exact custody_setPhase ih (named member) member
        (Work.moves_of_moves (i := i) (.finishes step)) rfl
    | @interrupt i _ _ member cancelled =>
      exact custody_setPhase ih (named member) member
        (Work.moves_of_moves (i := i) (.interrupted cancelled)) rfl
    | @crash i node task reason member =>
      have move : work.Moves i node g.world task (.crash i reason) _ _ := .breaks
      exact custody_setPhase ih (named member) member move rfl
    | join member => exact custody_join ih member

end FanOut

end MonitorFleet
