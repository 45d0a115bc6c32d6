import MonitorFleet.Counters
import MonitorFleet.Duration
import MonitorFleet.Error
import MonitorFleet.Log.Record

/-!
# Retrying

A policy says how often an operation is attempted and how long to pause between two attempts.
After each attempt `RetryPolicy.judge` decides: a success and a cancellation stand, any other
failure is followed by another attempt as long as there are some left.

`RetryPolicy.run` carries a whole run out on a clock that starts at zero: the attempts are a
script, and the run may be cancelled at a given time.
-/

namespace MonitorFleet

structure RetryPolicy where
  /-- How many attempts there are in all. -/
  maxAttempts : UInt32
  /-- The pause between two attempts. -/
  delay : Duration
  deriving DecidableEq, Repr

namespace RetryPolicy

/-- A policy with one attempt at least. -/
def new (maxAttempts : UInt32) (delay : Duration) : RetryPolicy := ⟨max maxAttempts 1, delay⟩

/-- A single attempt. -/
def once : RetryPolicy := .new 1 .zero

/-- What follows an attempt. -/
inductive Verdict (α : Type) where
  /-- The run is over. -/
  | over (result : Except Error α)
  /-- There is another attempt after the pause. -/
  | again (warning : Record)

/-- The module that retries name as their writer. -/
def target : String := "knb_core::retry"

/-- The record at the start of an attempt. -/
def announcement (p : RetryPolicy) (operation node : String) (attempt : UInt32) : Record :=
  ⟨.debug, target, [], s!"calling {operation} on {node} " ++
    s!"(remaining retries: {p.maxAttempts.toNat - attempt.toNat})"⟩

/-- The record of a failed attempt that another one follows. -/
def warning (p : RetryPolicy) (operation node : String) (attempt : UInt32) (error : Error) :
    Record :=
  ⟨.warn, target, [],
    s!"{operation} on {node} failed (attempt {attempt}/{p.maxAttempts}): {error.message}"⟩

/-- What follows the outcome of an attempt; attempts count from one. -/
def judge {α : Type} (p : RetryPolicy) (operation node : String) (attempt : UInt32) :
    Except Error α → Verdict α
  | .ok a => .over (.ok a)
  | .error error =>
    if error.isCancelled then .over (.error .cancelled)
    else if p.maxAttempts ≤ attempt then
      .over (.error (.retryExhausted operation node attempt error))
    else .again (p.warning operation node attempt error)

/-! ### Runs on a clock -/

/-- What an attempt does: it takes a while and has an outcome. -/
structure Attempt (α : Type) where
  takes : Duration
  outcome : Except Error α

/-- What became of a run. -/
structure Run (α : Type) where
  result : Except Error α
  /-- When each attempt began. -/
  begun : List Duration
  /-- When the run was over. -/
  elapsed : Duration
  log : List Record
  counters : Counters

/-- Whether a cancellation comes before a time. -/
def cancelledBefore (cancelAt : Option Duration) (time : Duration) : Bool :=
  match cancelAt with
  | some c => c.nanos < time.nanos
  | none => false

/-- The run cut off by its cancellation. -/
def Run.cut {α : Type} (run : Run α) (cancelAt : Option Duration) : Run α :=
  { run with
    result := .error .cancelled
    elapsed := match cancelAt with
      | some c => if run.elapsed.nanos < c.nanos then c else run.elapsed
      | none => run.elapsed }

/-- Carries out the attempts from one on; `left` bounds how many there still are. -/
def runFrom {α : Type} (p : RetryPolicy) (operation node : String) (script : Nat → Attempt α)
    (cancelAt : Option Duration) (attempt : UInt32) (run : Run α) : (left : Nat) → Run α
  | 0 => run
  | left + 1 =>
    let start := run.elapsed
    let begun : Run α := { run with
      begun := run.begun ++ [start]
      log := run.log ++ [p.announcement operation node attempt]
      counters := run.counters.add (.retryAttempts operation) 1 }
    let this := script run.begun.length
    let finish := start + this.takes
    if cancelledBefore cancelAt finish then begun.cut cancelAt
    else match p.judge operation node attempt this.outcome with
      | .over result => { begun with result := result, elapsed := finish }
      | .again warning =>
        let next := finish + p.delay
        let warned : Run α := { begun with elapsed := finish, log := begun.log ++ [warning] }
        if cancelledBefore cancelAt next then warned.cut cancelAt
        else runFrom p operation node script cancelAt (attempt + 1) { warned with elapsed := next }
          left

/-- A run of scripted attempts; the script gives each attempt by its number, from zero. -/
def run {α : Type} (p : RetryPolicy) (operation node : String) (script : Nat → Attempt α)
    (cancelAt : Option Duration) : Run α :=
  p.runFrom operation node script cancelAt 1 ⟨.error .cancelled, [], .zero, [], {}⟩
    (max 1 p.maxAttempts.toNat)

end RetryPolicy

end MonitorFleet
