import MonitorFleet.Attempt

/-!
# Tasks

A task does a job on one node, in one attempt or under a retry policy.
-/

namespace MonitorFleet

/-- What the tasks of an operation have in common. -/
structure Work where
  monitors : Monitors
  run : RunToken
  operation : String
  /-- How failed attempts are repeated, if they are. -/
  policy : Option RetryPolicy
  job : String → Job

/-- Where a task stands. -/
inductive Task where
  /-- It did not begin. -/
  | idle
  /-- An attempt is under way; attempts count from one. -/
  | attempting (n : UInt32) (stage : Attempt)
  /-- It pauses after an attempt. -/
  | pausing (n : UInt32)
  deriving DecidableEq, Repr

namespace Task

/-- Begins an attempt. -/
def attempt (work : Work) (node : String) (n : UInt32) (w : World) : World × Task :=
  let w := match work.policy with
    | none => w
    | some policy =>
      (w.count (.retryAttempts work.operation) 1).note (policy.announcement work.operation node n)
  let (w, stage) := Attempt.start work.monitors node w
  (w, attempting n stage)

/-- Goes on from the end of an attempt. -/
def attempted (work : Work) (node : String) (n : UInt32) (w : World)
    (result : Except Error UInt64) : World × Progress Task UInt64 :=
  match work.policy with
  | none => (w, .finished result)
  | some policy =>
    match policy.judge work.operation node n result with
    | .over result => (w, .finished result)
    | .again warning => (w.note warning, .waiting (pausing n))

/-- What is waited for. -/
def question? (work : Work) (node : String) : Task → Option Question
  | idle => none
  | attempting _ stage => some (stage.question work.monitors (work.job node) node)
  | pausing _ => work.policy.map fun policy => .pause policy.delay

/-- The tunnel that is held. -/
def held : Task → Option TunnelToken
  | attempting _ stage => stage.held
  | _ => none

/-- Gives the task up. -/
def drop (w : World) (task : Task) : World := w.release task.held

/-- Whether the task itself looks out for the cancellation of its run: a task under a policy always
does. -/
def heedsCancellation (work : Work) : Task → Bool
  | idle => false
  | attempting _ stage => work.policy.isSome || stage.heedsCancellation
  | pausing _ => true

/-- Goes on with what happens; `none` if that cannot happen to the task. -/
def step (work : Work) (node : String) (w : World) (task : Task) :
    Happening → Option (World × Progress Task UInt64)
  | .begun =>
    match task with
    | idle => some ((attempt work node 1 w).map id .waiting)
    | _ => none
  | .withdrawn =>
    if task.heedsCancellation work && w.isCancelled work.run then
      some (drop w task, .finished (.error .cancelled))
    else none
  | .answer answer =>
    match task with
    | idle => none
    | pausing n =>
      match answer with
      | .elapsed => some ((attempt work node (n + 1) w).map id .waiting)
      | _ => none
    | attempting n stage =>
      match stage.step work.monitors work.run (work.job node) node w answer with
      | none => none
      | some (w, .waiting stage) => some (w, .waiting (attempting n stage))
      | some (w, .finished result) => some (attempted work node n w result)

end Task

end MonitorFleet
