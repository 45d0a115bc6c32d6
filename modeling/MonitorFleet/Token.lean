/-!
# Cancellation

A run can be cancelled, and everything that is done for it then comes to an end. A tunnel belongs
to a run: it is closed when it is released, or when its run is cancelled, whichever comes first.
Releasing a tunnel leaves its run and all other tunnels alone (`isCancelled_release`,
`getElem?_release_of_ne`).
-/

namespace MonitorFleet

/-- A pod, by the namespace that it lives in and its name. -/
structure PodRef where
  namespaceName : String
  name : String
  deriving DecidableEq, Repr

/-- A run, by its number. -/
abbrev RunToken := Nat

/-- A tunnel, by its number. -/
abbrev TunnelToken := Nat

/-- A tunnel to the monitor of a node. -/
structure Tunnel where
  node : String
  pod : PodRef
  run : RunToken
  released : Bool
  deriving DecidableEq, Repr

/-- All runs and tunnels so far. -/
structure Tokens where
  /-- For each run, whether it was cancelled. -/
  runs : List Bool := []
  tunnels : List Tunnel := []
  deriving DecidableEq, Repr

namespace Tokens

/-- A new run. -/
def newRun (t : Tokens) : RunToken × Tokens :=
  (t.runs.length, { t with runs := t.runs ++ [false] })

def isCancelled (t : Tokens) (run : RunToken) : Bool := t.runs.getD run false

/-- The tokens with a run cancelled. -/
def cancel (t : Tokens) (run : RunToken) : Tokens := { t with runs := t.runs.set run true }

/-- A new tunnel, for a run. -/
def newTunnel (t : Tokens) (node : String) (pod : PodRef) (run : RunToken) : TunnelToken × Tokens :=
  (t.tunnels.length, { t with tunnels := t.tunnels ++ [⟨node, pod, run, false⟩] })

/-- The tokens with a tunnel released. -/
def release (t : Tokens) (tunnel : TunnelToken) : Tokens :=
  { t with tunnels := t.tunnels.modify tunnel fun x => { x with released := true } }

/-- Whether a tunnel is closed; one that was never opened is. -/
def isClosed (t : Tokens) (tunnel : TunnelToken) : Bool :=
  match t.tunnels[tunnel]? with
  | some x => x.released || t.isCancelled x.run
  | none => true

@[simp] theorem runs_newTunnel (t : Tokens) (node : String) (pod : PodRef) (run : RunToken) :
    (t.newTunnel node pod run).2.runs = t.runs := rfl

@[simp] theorem runs_release (t : Tokens) (tunnel : TunnelToken) :
    (t.release tunnel).runs = t.runs := rfl

@[simp] theorem isCancelled_release (t : Tokens) (tunnel : TunnelToken) (run : RunToken) :
    (t.release tunnel).isCancelled run = t.isCancelled run := rfl

/-- A new run is not cancelled. -/
theorem isCancelled_newRun (t : Tokens) : t.newRun.2.isCancelled t.newRun.1 = false := by
  simp [newRun, isCancelled]

theorem isCancelled_cancel {t : Tokens} {run : RunToken} (h : t.isCancelled run = true)
    (other : RunToken) : (t.cancel other).isCancelled run = true := by
  simp only [isCancelled, cancel, List.getD_eq_getElem?_getD, List.getElem?_set] at h ⊢
  split
  · split
    · rfl
    · next hlt => simp_all
  · exact h

theorem isCancelled_of_cancel {t : Tokens} {run other : RunToken}
    (h : (t.cancel run).isCancelled other = true) : t.isCancelled other = true ∨ other = run := by
  by_cases ho : run = other
  · exact .inr ho.symm
  · refine .inl ?_
    simpa [isCancelled, cancel, List.getD_eq_getElem?_getD, List.getElem?_set_ne ho] using h

@[simp] theorem length_release (t : Tokens) (tunnel : TunnelToken) :
    (t.release tunnel).tunnels.length = t.tunnels.length := List.length_modify ..

theorem getElem?_release_of_ne (t : Tokens) {tunnel other : TunnelToken} (h : other ≠ tunnel) :
    (t.release tunnel).tunnels[other]? = t.tunnels[other]? := by
  simp [release, Ne.symm h]

theorem released_of_release {t : Tokens} {tunnel : TunnelToken} {x : Tunnel}
    (h : (t.release tunnel).tunnels[tunnel]? = some x) : x.released = true := by
  simp only [release, List.getElem?_modify_eq, Option.map_eq_map, Option.map_eq_some_iff] at h
  obtain ⟨y, -, rfl⟩ := h
  rfl

end Tokens

end MonitorFleet
