import Mathlib.Data.List.Dedup
import Mathlib.Data.List.Induction
import MonitorFleet.Proofs.FanOut.Reports
import MonitorFleet.Proofs.Text.ByteOrder

/-!
# A report as a map of last outcomes

Outcomes may be recorded in any number, for any nodes, and a node may be recorded again with another
outcome. Whatever was recorded before, only the last outcome of each node counts: a report keeps two
collections, and recording an outcome takes the node out of the one while it puts it into the other.

## What is proved

* `lastOutcome?_concat`, `get?_ofOutcomes`: what one more outcome changes, and what all of them come
  to.
* `Apart.attempted_eq`: a report counts each of its nodes once.
* `result_of_failure`, `result_of_no_failure`: a report as a result.
* `holds_last_outcomes`: a report is the map of the last outcomes, whatever was recorded, so that
  outcomes of different nodes may be recorded in either order.
-/

namespace MonitorFleet.Report

variable {operation : String} {r : Report} {outcomes : List (String × Except Error Unit)}

/-- The report of a sequence of outcomes. -/
def ofOutcomes (operation : String) (outcomes : List (String × Except Error Unit)) : Report :=
  outcomes.foldl (fun r o => r.record o.1 o.2) (.new operation)

/-- The last outcome of a node in a sequence, if it has one there. -/
def lastOutcome? (outcomes : List (String × Except Error Unit)) (node : String) :
    Option (Except Error Unit) := (outcomes.reverse.find? fun o => o.1 == node).map (·.2)

theorem lastOutcome?_concat (outcomes : List (String × Except Error Unit))
    (o : String × Except Error Unit) (node : String) :
    lastOutcome? (outcomes ++ [o]) node = if node = o.1 then some o.2 else lastOutcome? outcomes node := by
  rw [lastOutcome?, List.reverse_append, List.reverse_singleton, List.singleton_append,
    List.find?_cons]
  by_cases h : node = o.1
  · simp [h]
  · rw [if_neg h, beq_eq_false_iff_ne.2 (Ne.symm h)]
    rfl

theorem ofOutcomes_concat (operation : String) (outcomes : List (String × Except Error Unit))
    (o : String × Except Error Unit) :
    ofOutcomes operation (outcomes ++ [o]) = (ofOutcomes operation outcomes).record o.1 o.2 :=
  List.foldl_concat ..

theorem lastOutcome?_isSome (outcomes : List (String × Except Error Unit)) (node : String) :
    (∃ outcome, lastOutcome? outcomes node = some outcome) ↔ node ∈ outcomes.map (·.1) := by
  induction outcomes using List.reverseRecOn with
  | nil => simp [lastOutcome?]
  | append_singleton outcomes o ih =>
    rw [lastOutcome?_concat, List.map_append, List.mem_append, ← ih]
    by_cases h : node = o.1 <;> simp [h]

/-- What a report has for a node is its last outcome. -/
theorem get?_ofOutcomes (operation : String) (outcomes : List (String × Except Error Unit))
    (node : String) : (ofOutcomes operation outcomes).get? node = lastOutcome? outcomes node := by
  induction outcomes using List.reverseRecOn with
  | nil => rfl
  | append_singleton outcomes o ih =>
    rw [ofOutcomes_concat, get?_record, lastOutcome?_concat, ih]

theorem operation_ofOutcomes (operation : String) (outcomes : List (String × Except Error Unit)) :
    (ofOutcomes operation outcomes).operation = operation := by
  induction outcomes using List.reverseRecOn with
  | nil => rfl
  | append_singleton outcomes o ih =>
    obtain ⟨node, outcome⟩ := o
    rw [ofOutcomes_concat]
    cases outcome <;> exact ih

theorem apart_ofOutcomes (operation : String) (outcomes : List (String × Except Error Unit)) :
    (ofOutcomes operation outcomes).Apart := by
  induction outcomes using List.reverseRecOn with
  | nil => exact apart_new operation
  | append_singleton outcomes o ih =>
    rw [ofOutcomes_concat]
    exact ih.record _ _

/-- A report counts each of its nodes once. -/
theorem Apart.attempted_eq (apart : r.Apart) {names : List String}
    (covers : ∀ node, node ∈ r.succeeded.names ∨ node ∈ r.failures.names ↔ node ∈ names) :
    r.attempted = names.dedup.length := by
  have nodup : (r.succeeded.names ++ r.failures.names).Nodup := by
    refine List.nodup_append'.2 ⟨r.succeeded.nodup_names, r.failures.nodup_names, ?_⟩
    intro node succeeded failed
    exact apart node succeeded failed
  have same : (r.succeeded.names ++ r.failures.names).Perm names.dedup := by
    refine (List.perm_ext_iff_of_nodup nodup names.nodup_dedup).2 fun node => ?_
    rw [List.mem_append, covers, List.mem_dedup]
  have counted := same.length_eq
  simp only [List.length_append, NameMap.names, List.length_map] at counted
  exact counted

/-- A report without failures has the nodes for its result. -/
theorem result_of_no_failure (none : ∀ node error, r.get? node ≠ some (.error error)) :
    r.result = .ok r.succeeded := by
  have empty : r.isSuccess = true := by
    refine List.isEmpty_iff.2 (List.eq_nil_iff_forall_not_mem.2 ?_)
    intro ⟨node, error⟩ hmem
    exact none node error ((r.mem_entries_failures node error).1 hmem)
  rw [result, if_pos empty]

/-- A report with a failure has the failures for its result. -/
theorem result_of_failure {node : String} {error : Error} (failed : r.get? node = some (.error error)) :
    r.result = .error (.nodesFailed r.operation r.failures.entries) := by
  have nonempty : r.isSuccess ≠ true := by
    intro empty
    have hmem := (r.mem_entries_failures node error).2 failed
    rw [List.isEmpty_iff.1 empty] at hmem
    cases hmem
  rw [result, if_neg nonempty]

/-- A report is the map of the last outcomes of a sequence: what it has for each node, how many
nodes it counts, and what it is as a result. -/
structure HoldsLast (r : Report) (operation : String) (outcomes : List (String × Except Error Unit)) :
    Prop where
  /-- No node both succeeded and failed. -/
  apart : ∀ node ∈ r.succeeded.names, node ∉ r.failures.names
  /-- The nodes of the report are those that were recorded. -/
  covers : ∀ node,
    node ∈ r.succeeded.names ∨ node ∈ r.failures.names ↔ node ∈ outcomes.map (·.1)
  /-- Each of them is counted once. -/
  attempted : r.attempted = (outcomes.map (·.1)).dedup.length
  /-- Those nodes succeeded whose last outcome is a success. -/
  succeeded : ∀ node,
    node ∈ r.succeeded.names ↔ lastOutcome? outcomes node = some (.ok ())
  /-- The others are kept with their last errors. -/
  failed : ∀ node error,
    r.failures.get? node = some error ↔ lastOutcome? outcomes node = some (.error error)
  /-- The result is a success if and only if no last outcome is an error. -/
  result_ok : r.result = .ok r.succeeded ↔
    ∀ node error, lastOutcome? outcomes node ≠ some (.error error)
  /-- Else it lists the last errors, in the order of the bytes of the nodes. -/
  result_error : ∀ node error, lastOutcome? outcomes node = some (.error error) →
    ∃ failures, r.result = .error (.nodesFailed operation failures) ∧
      (failures.Pairwise fun a b => Text.bytes a.1 < Text.bytes b.1) ∧
      ∀ node error, (node, error) ∈ failures ↔ lastOutcome? outcomes node = some (.error error)

theorem holdsLast_ofOutcomes (operation : String) (outcomes : List (String × Except Error Unit)) :
    (ofOutcomes operation outcomes).HoldsLast operation outcomes := by
  have apart := apart_ofOutcomes operation outcomes
  have last := get?_ofOutcomes operation outcomes
  have named := operation_ofOutcomes operation outcomes
  generalize ofOutcomes operation outcomes = r at apart last named
  have covers : ∀ node,
      node ∈ r.succeeded.names ∨ node ∈ r.failures.names ↔ node ∈ outcomes.map (·.1) := by
    intro node
    rw [apart.mem_succeeded, mem_failures, ← lastOutcome?_isSome, last]
    constructor
    · rintro (ok | ⟨error, failed⟩)
      · exact ⟨_, ok⟩
      · exact ⟨_, failed⟩
    · rintro ⟨outcome, found⟩
      cases outcome with
      | ok _ => exact .inl found
      | error error => exact .inr ⟨error, found⟩
  have failure : ∀ node error,
      (node, error) ∈ r.failures.entries ↔ lastOutcome? outcomes node = some (.error error) := by
    intro node error
    rw [mem_entries_failures, last]
  have result_error : ∀ node error, lastOutcome? outcomes node = some (.error error) →
      r.result = .error (.nodesFailed operation r.failures.entries) := by
    intro node error found
    rw [result_of_failure ((last node).trans found), named]
  exact {
    apart
    covers
    attempted := apart.attempted_eq covers
    succeeded := fun node => by rw [apart.mem_succeeded, last]
    failed := fun node error => by rw [← NameMap.mem_entries, failure]
    result_ok := by
      constructor
      · intro ok node error found
        rw [result_error node error found] at ok
        cases ok
      · intro none
        exact result_of_no_failure fun node error => last node ▸ none node error
    result_error := fun node error found =>
      ⟨r.failures.entries, result_error node error found,
        r.failures.sorted.imp (Text.lt_iff_bytes_lt _ _).1, failure⟩ }

/-- Only the last outcomes count. -/
theorem ofOutcomes_eq_of_last {outcomes' : List (String × Except Error Unit)}
    (same : ∀ node, lastOutcome? outcomes node = lastOutcome? outcomes' node) :
    ofOutcomes operation outcomes = ofOutcomes operation outcomes' := by
  refine (apart_ofOutcomes operation outcomes).eq_of_get? (apart_ofOutcomes operation outcomes') ?_ ?_
  · rw [operation_ofOutcomes, operation_ofOutcomes]
  · intro node
    rw [get?_ofOutcomes, get?_ofOutcomes, same]

/-- Two outcomes of different nodes have no order. -/
theorem lastOutcome?_swap {a b : String × Except Error Unit} (different : a.1 ≠ b.1)
    (before after : List (String × Except Error Unit)) (node : String) :
    lastOutcome? (before ++ a :: b :: after) node = lastOutcome? (before ++ b :: a :: after) node := by
  induction after using List.reverseRecOn with
  | nil =>
    rw [List.append_cons before a, List.append_cons before b, lastOutcome?_concat,
      lastOutcome?_concat, lastOutcome?_concat, lastOutcome?_concat]
    by_cases ha : node = a.1
    · rw [if_neg (ha ▸ different), if_pos ha, if_pos ha]
    · rw [if_neg ha, if_neg ha]
  | append_singleton after o ih =>
    have assoc : ∀ c d : String × Except Error Unit,
        before ++ c :: d :: (after ++ [o]) = (before ++ c :: d :: after) ++ [o] := by
      intro c d
      simp
    rw [assoc, assoc, lastOutcome?_concat, lastOutcome?_concat, ih]

/-- **A report is the map of last outcomes.** Whatever outcomes are recorded for an operation, however
often a node occurs among them and however its outcomes change, the report of them holds the last one
of each node. Sequences with the same last outcomes have the same report, and so outcomes of different
nodes may be recorded in either order. -/
theorem holds_last_outcomes (operation : String) :
    (∀ outcomes, (ofOutcomes operation outcomes).HoldsLast operation outcomes) ∧
    (∀ outcomes outcomes', (∀ node, lastOutcome? outcomes node = lastOutcome? outcomes' node) →
      ofOutcomes operation outcomes = ofOutcomes operation outcomes') ∧
    (∀ before after a b, a.1 ≠ b.1 →
      ofOutcomes operation (before ++ a :: b :: after) =
        ofOutcomes operation (before ++ b :: a :: after)) := by
  refine ⟨holdsLast_ofOutcomes operation, fun _ _ same => ofOutcomes_eq_of_last same, ?_⟩
  intro before after a b different
  exact ofOutcomes_eq_of_last (lastOutcome?_swap different before after)

/-- One node that failed succeeds, and another one that succeeded fails: it counts what came last. -/
theorem last_outcomes_after_changes :
    (ofOutcomes "sysinfo" [("b", .error .cancelled), ("a", .ok ()), ("b", .ok ()),
      ("a", .error (.session "gone"))]).HoldsLast "sysinfo" [("b", .error .cancelled), ("a", .ok ()),
        ("b", .ok ()), ("a", .error (.session "gone"))] ∧
    ofOutcomes "sysinfo" [("b", .error .cancelled), ("b", .ok ())] =
      ofOutcomes "sysinfo" [("b", .ok ())] ∧
    ofOutcomes "sysinfo" [("a", .error .cancelled), ("b", .ok ())] =
      ofOutcomes "sysinfo" [("b", .ok ()), ("a", .error .cancelled)] := by
  refine ⟨(holds_last_outcomes "sysinfo").1 _, (holds_last_outcomes "sysinfo").2.1 _ _ ?_,
    (holds_last_outcomes "sysinfo").2.2 [] [] _ _ (by decide)⟩
  intro node
  by_cases h : "b" = node <;> simp [lastOutcome?, h]

end MonitorFleet.Report
