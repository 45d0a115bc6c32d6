import MonitorFleet.Error
import MonitorFleet.Log.Record
import MonitorFleet.NameMap

/-!
# Reports

What became of an operation on each of several nodes: the nodes that succeeded and the failures
of the others. A node is kept with its last outcome: recording it anew takes its earlier outcome
away (`get?_record`).
-/

namespace MonitorFleet

/-- The outcome of an operation at each node. -/
structure Report where
  operation : String
  succeeded : NameSet
  failures : NameMap Error

namespace Report

/-- A report without nodes. -/
def new (operation : String) : Report := ⟨operation, .empty, .empty⟩

/-- The report with the outcome of one more node. -/
def record (r : Report) (node : String) : Except Error Unit → Report
  | .ok () => { r with succeeded := r.succeeded.add node, failures := r.failures.erase node }
  | .error error =>
    { r with succeeded := r.succeeded.erase node, failures := r.failures.insert node error }

/-- How many nodes are in the report. -/
def attempted (r : Report) : Nat := r.succeeded.size + r.failures.size

def isSuccess (r : Report) : Bool := r.failures.isEmpty

/-- The report as a result: the nodes if all succeeded, else the failures. -/
def result (r : Report) : Except Error NameSet :=
  if r.isSuccess then .ok r.succeeded
  else .error (.nodesFailed r.operation r.failures.entries)

/-- The outcome of a node. -/
def get? (r : Report) (node : String) : Option (Except Error Unit) :=
  match r.failures.get? node with
  | some error => some (.error error)
  | none => (r.succeeded.get? node).map fun _ => .ok ()

theorem get?_record (r : Report) (node other : String) (outcome : Except Error Unit) :
    (r.record node outcome).get? other = if other = node then some outcome else r.get? other := by
  cases outcome <;> by_cases h : other = node <;>
    simp [record, get?, NameSet.add, NameMap.get?_insert, NameMap.get?_erase, h]

/-! ### Log records -/

/-- The module that reports name as their writer. -/
def target : String := "knb_core::fanout"

/-- The record of an outcome: a warning for a failure, nothing for a success. -/
def warning (operation node : String) : Except Error Unit → List Record
  | .ok () => []
  | .error error => [⟨.warn, target, [], s!"{operation} on {node} failed: {error.message}"⟩]

/-- One line about all nodes: a warning if any failed. -/
def summary (r : Report) : Record :=
  if r.isSuccess then
    ⟨.info, target, [], s!"{r.operation}: {r.succeeded.size} node(s) succeeded"⟩
  else
    ⟨.warn, target, [], s!"{r.operation}: {r.failures.size} of {r.attempted} node(s) failed: " ++
      ", ".intercalate r.failures.names⟩

end Report

end MonitorFleet
