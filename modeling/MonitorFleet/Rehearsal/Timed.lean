import MonitorFleet.Duration
import MonitorFleet.FanOut
import MonitorFleet.Text.Quoted

/-!
# Fan-outs on a clock

Tasks that take a given time each and then end in a given way, run side by side on a clock that
starts at zero, with a cancellation at a given time.
-/

namespace MonitorFleet.Rehearsal

/-- How a timed task ends. -/
inductive TimedEnd where
  | outcome (result : Except Error Unit)
  | panic (message : String)
  | never

/-- A task that takes a while. -/
structure TimedTask where
  takes : Duration
  finish : TimedEnd

/-- What timed tasks share. -/
structure TimedWorld where
  /-- The nodes whose tasks were made. -/
  called : List String := []
  cancelled : Bool := false
  log : List Record := []

/-- An operation of timed tasks, which are given node by node. Their time being up is all that can
happen to them. -/
def timedOperation (name : String) : Operation TimedWorld Unit (Except Error Unit) where
  name := name
  spans := []
  spawn w node := ({ w with called := w.called ++ [node] }, ())
  step _ w _ result := some (w, .finished result)
  drop w _ := w
  isCancelled w := w.cancelled
  cancel w := { w with cancelled := true }
  note w r := { w with log := w.log ++ [r] }

/-- Why a task that panicked failed. -/
def panicReason (message : String) : String := s!"task N panicked with message {Text.quote message}"

/-- What happens at the end of a timed task, if it ends. -/
def TimedTask.events (i : Nat) (t : TimedTask) :
    List (FanOut.Event (Except Error Unit)) :=
  match t.finish with
  | .outcome result => [.advance i result, .join i]
  | .panic message => [.crash i (panicReason message), .join i]
  | .never => []

/-- Whether a task ends before a cancellation. -/
def TimedTask.endsBefore (cancelAt : Option Duration) (t : TimedTask) : Bool :=
  match t.finish, cancelAt with
  | .never, _ => false
  | _, some c => t.takes.nanos < c.nanos
  | _, none => true

/-- What happens when the run is cancelled, to the members that still run. -/
def cancellation (running : List Nat) : List (FanOut.Event (Except Error Unit)) :=
  .cancel :: running.flatMap fun i => [.interrupt i, .join i]

/-- A fan-out of timed tasks and how long it took. -/
def runTimed (name : String) (tasks : List (String × TimedTask)) (cancelAt : Option Duration) :
    FanOut TimedWorld Unit × Duration :=
  let op := timedOperation name
  let start := FanOut.start op (tasks.map (·.1)) {}
  let numbered := tasks.zipIdx.map fun t => (t.2, t.1.2)
  let early := (numbered.filter fun t => t.2.endsBefore cancelAt).mergeSort
    fun a b => a.2.takes.nanos ≤ b.2.takes.nanos
  let late := numbered.filter fun t => !t.2.endsBefore cancelAt
  let events := early.flatMap (fun t => t.2.events t.1) ++
    if late.isEmpty then [] else cancellation (late.map (·.1))
  let last := (early.getLast?.map (·.2.takes)).getD .zero
  ((start.run op events).getD start, if late.isEmpty then last else cancelAt.getD last)

end MonitorFleet.Rehearsal
