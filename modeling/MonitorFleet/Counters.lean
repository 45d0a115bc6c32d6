/-!
# Counters

Counts of what happened, kept under a name and labels and wrapping at 2^64. A counter exists from
the first time it is touched, be it with zero.
-/

namespace MonitorFleet

/-- What is counted. -/
inductive Counter where
  | monitorCalls (call : String) (accepted : Bool)
  | transferBytes
  | retryAttempts (operation : String)
  deriving DecidableEq, Repr

namespace Counter

def name : Counter → String
  | monitorCalls .. => "knb_monitor_calls_total"
  | transferBytes => "knb_transfer_bytes_total"
  | retryAttempts _ => "knb_retry_attempts_total"

/-- The labels of a counter, by name. -/
def labels : Counter → List (String × String)
  | monitorCalls call accepted => [("call", call), ("outcome", if accepted then "ok" else "error")]
  | transferBytes => []
  | retryAttempts operation => [("operation", operation)]

/-- The name with the labels behind it. -/
def text (c : Counter) : String :=
  match c.labels with
  | [] => c.name
  | labels =>
    c.name ++ "\x7b" ++ ",".intercalate (labels.map fun l => l.1 ++ "=" ++ l.2) ++ "\x7d"

/-- What the counters of a name count. -/
def descriptions : List (String × String) := [
  ("knb_monitor_calls_total", "Total number of monitor RPCs issued (by call, outcome)"),
  ("knb_transfer_bytes_total", "Total bytes streamed from monitors to local files"),
  ("knb_retry_attempts_total",
    "Total number of attempts made by retried operations (by operation)")]

end Counter

/-- The counters touched so far. -/
structure Counters where
  counts : List (Counter × UInt64) := []

namespace Counters

/-- The value of a counter, if it was touched. -/
def get? (cs : Counters) (c : Counter) : Option UInt64 :=
  (cs.counts.find? fun e => e.1 == c).map (·.2)

/-- The value of a counter, which is zero as long as it was not touched. -/
def value (cs : Counters) (c : Counter) : UInt64 := (cs.get? c).getD 0

/-- The counters after one of them grew. -/
def add (cs : Counters) (c : Counter) (n : UInt64) : Counters :=
  { counts := (c, (cs.get? c).getD 0 + n) :: cs.counts.filter fun e => e.1 != c }

theorem get?_add (cs : Counters) (c other : Counter) (n : UInt64) :
    (cs.add c n).get? other =
      if other = c then some ((cs.get? c).getD 0 + n) else cs.get? other := by
  by_cases h : other = c
  · subst h
    simp [get?, add]
  · have hne : (c == other) = false := by simpa using Ne.symm h
    simp only [get?, add, List.find?_cons, hne, h, if_false, List.find?_filter]
    congr 2
    funext e
    by_cases he : e.1 = other <;> simp [he, h]

theorem value_add (cs : Counters) (c other : Counter) (n : UInt64) :
    (cs.add c n).value other = cs.value other + if other = c then n else 0 := by
  rw [value, get?_add]
  split
  · next same => rw [same]; rfl
  · exact (UInt64.add_zero _).symm

end Counters

end MonitorFleet
