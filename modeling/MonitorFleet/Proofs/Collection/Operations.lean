import MonitorFleet.Proofs.FanOut.Reports
import MonitorFleet.Proofs.Task.Frames

/-!
# Whole collections

To start a run and to end it are operations of several parts: the directory is made and the nodes
are asked for, a fan-out goes its way, and its report becomes the result. Here the parts are put
together. What the cluster answers and what happens to the fan-out is left open: `startWith` and
`endWith` take the answer and the events, so that what is said for all of them is said for every
cluster, every order of steps and every moment of a cancellation.

## What is proved

* `startWith_ok`: a run that was started comes of a fan-out over the nodes that the cluster listed.
* `endWith_some`: a run is ended by a fan-out over its participants.
-/

namespace MonitorFleet.Collector

open FanOut (Event)

variable {c : Collector} {run : String} {token : RunToken} {answer : Except Error NameSet}
  {events : List (Event Happening)} {w w' : World}

/-- Starts a run. The cluster gives this answer when it is asked for the nodes, and these events
happen to the fan-out; `none` if they cannot happen, or do not bring it to its end. -/
def startWith (c : Collector) (run : String) (token : RunToken) (answer : Except Error NameSet)
    (events : List (Event Happening)) (w : World) : Option (Except Error CollectionRun × World) :=
  match c.prepare run w with
  | (.error error, w) => some (.error error, w)
  | (.ok dir, w) =>
    match answer with
    | .error error => some (.error error, w)
    | .ok nodes =>
      match (c.launch run token nodes w).run (c.startOperation run token) events with
      | none => none
      | some f =>
        if f.isOver then some (.ok (started run dir f).1, (started run dir f).2) else none

/-- Ends a run. These events happen to the fan-out; `none` if they cannot happen, or do not
bring it to its end. -/
def endWith (c : Collector) (run : CollectionRun) (token : RunToken)
    (events : List (Event Happening)) (w : World) : Option (Report × World) :=
  match (c.collect run token w).run (c.endOperation run token) events with
  | none => none
  | some f => if f.isOver then some (ended run f) else none

/-- What is done before a run is started on its nodes. -/
theorem prepare_ok {dir : String} {w₁ : World} (h : c.prepare run w = (.ok dir, w₁)) :
    w₁.tokens = w.tokens ∧ w₁.called = w.called ∧
      w₁.asked = w.asked ++ [.sessionNodes c.session.workloadSelector] := by
  unfold prepare at h
  split at h
  · cases h
  · cases h
    exact ⟨rfl, rfl, rfl⟩

/-- A run that was started comes of a fan-out over the nodes that the cluster listed. -/
theorem startWith_ok {r : CollectionRun}
    (h : c.startWith run token answer events w = some (.ok r, w')) :
    ∃ dir nodes w₁ f, c.prepare run w = (.ok dir, w₁) ∧ answer = .ok nodes ∧
      (c.launch run token nodes w₁).run (c.startOperation run token) events = some f ∧
      f.isOver = true ∧ (r, w') = started run dir f := by
  unfold startWith at h
  split at h
  · cases h
  · next dir w₁ hp =>
    split at h
    · cases h
    · next nodes =>
      split at h
      · cases h
      · next f hf =>
        split at h
        · next isOver =>
          cases h
          exact ⟨dir, nodes, w₁, f, hp, rfl, hf, isOver, rfl⟩
        · cases h

/-- A run is ended by a fan-out over its participants. -/
theorem endWith_some {r : CollectionRun} {report : Report}
    (h : c.endWith r token events w = some (report, w')) :
    ∃ f, (c.collect r token w).run (c.endOperation r token) events = some f ∧
      f.isOver = true ∧ (report, w') = ended r f := by
  unfold endWith at h
  split at h
  · cases h
  · next f hf =>
    split at h
    · next isOver => exact ⟨f, hf, isOver, (Option.some.inj h).symm⟩
    · cases h

end MonitorFleet.Collector
