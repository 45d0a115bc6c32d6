import MonitorFleet.Cluster
import MonitorFleet.Counters
import MonitorFleet.Log.Record
import MonitorFleet.Tree.Basic

/-!
# What the tasks share

The tasks of a run work side by side on one world: the files, the tokens, the counters and the log.
The world also remembers what the cluster was asked and which calls were made, in order.
-/

namespace MonitorFleet

structure World where
  tree : Tree
  tokens : Tokens := {}
  counters : Counters := {}
  log : List Record := []
  /-- What the cluster was asked. -/
  asked : List Query := []
  /-- The calls that were made, each with the node whose monitor it went to. -/
  called : List (String × Call) := []

namespace World

/-- The world with another record in its log. -/
def note (w : World) (r : Record) : World := { w with log := w.log ++ [r] }

/-- The world with a question put to the cluster. -/
def ask (w : World) (q : Query) : World := { w with asked := w.asked ++ [q] }

/-- The world with a call made to the monitor of a node. -/
def call (w : World) (node : String) (c : Call) : World :=
  { w with called := w.called ++ [(node, c)] }

/-- The world with a counter grown. -/
def count (w : World) (c : Counter) (n : UInt64) : World :=
  { w with counters := w.counters.add c n }

/-- The world with a tunnel released, if there is one. -/
def release (w : World) : Option TunnelToken → World
  | some tunnel => { w with tokens := w.tokens.release tunnel }
  | none => w

def isCancelled (w : World) (run : RunToken) : Bool := w.tokens.isCancelled run

/-- The world with a run cancelled. -/
def cancel (w : World) (run : RunToken) : World := { w with tokens := w.tokens.cancel run }

/-! ### What each of them leaves alone -/

section

variable (w : World) (r : Record) (q : Query) (node : String) (c : Call) (k : Counter) (n : UInt64)
  (t : Option TunnelToken) (run : RunToken)

@[simp] theorem tree_note : (w.note r).tree = w.tree := rfl
@[simp] theorem tokens_note : (w.note r).tokens = w.tokens := rfl
@[simp] theorem counters_note : (w.note r).counters = w.counters := rfl
@[simp] theorem asked_note : (w.note r).asked = w.asked := rfl
@[simp] theorem called_note : (w.note r).called = w.called := rfl

/-- A list of records adds to the log alone. -/
theorem foldl_note (records : List Record) (w : World) :
    ∃ log, records.foldl note w = { w with log } := by
  induction records generalizing w with
  | nil => exact ⟨w.log, rfl⟩
  | cons r records ih => exact ih (w.note r)

@[simp] theorem tree_ask : (w.ask q).tree = w.tree := rfl
@[simp] theorem tokens_ask : (w.ask q).tokens = w.tokens := rfl
@[simp] theorem counters_ask : (w.ask q).counters = w.counters := rfl
@[simp] theorem asked_ask : (w.ask q).asked = w.asked ++ [q] := rfl
@[simp] theorem called_ask : (w.ask q).called = w.called := rfl

@[simp] theorem tree_call : (w.call node c).tree = w.tree := rfl
@[simp] theorem tokens_call : (w.call node c).tokens = w.tokens := rfl
@[simp] theorem counters_call : (w.call node c).counters = w.counters := rfl
@[simp] theorem asked_call : (w.call node c).asked = w.asked := rfl
@[simp] theorem called_call : (w.call node c).called = w.called ++ [(node, c)] := rfl

@[simp] theorem tree_count : (w.count k n).tree = w.tree := rfl
@[simp] theorem tokens_count : (w.count k n).tokens = w.tokens := rfl
@[simp] theorem counters_count : (w.count k n).counters = w.counters.add k n := rfl
@[simp] theorem asked_count : (w.count k n).asked = w.asked := rfl
@[simp] theorem called_count : (w.count k n).called = w.called := rfl

@[simp] theorem release_none : w.release none = w := rfl
@[simp] theorem tokens_release_some (tunnel : TunnelToken) :
    (w.release (some tunnel)).tokens = w.tokens.release tunnel := rfl
@[simp] theorem runs_release : (w.release t).tokens.runs = w.tokens.runs := by cases t <;> rfl
@[simp] theorem tree_release : (w.release t).tree = w.tree := by cases t <;> rfl
@[simp] theorem counters_release : (w.release t).counters = w.counters := by cases t <;> rfl
@[simp] theorem asked_release : (w.release t).asked = w.asked := by cases t <;> rfl
@[simp] theorem called_release : (w.release t).called = w.called := by cases t <;> rfl

@[simp] theorem tree_cancel : (w.cancel run).tree = w.tree := rfl
@[simp] theorem tokens_cancel : (w.cancel run).tokens = w.tokens.cancel run := rfl
@[simp] theorem counters_cancel : (w.cancel run).counters = w.counters := rfl
@[simp] theorem asked_cancel : (w.cancel run).asked = w.asked := rfl
@[simp] theorem called_cancel : (w.cancel run).called = w.called := rfl

end

end World

end MonitorFleet
