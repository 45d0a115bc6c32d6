import Mathlib.Data.List.Sort
import MonitorFleet.Proofs.FanOut.Standings

/-!
# The report of a fan-out

A report keeps the nodes that succeeded and the failures of the others. That no node is in both is
not part of its type, but every report has it that is made by recording outcomes (`Apart`). The two
parts then are what the report has for each node.

## What is proved

* `Report.Apart.record`: recording an outcome keeps the parts apart.
* `Report.Apart.mem_succeeded`, `Report.mem_failures`, `Report.mem_entries_failures`: the parts, by
  the outcomes of nodes.
* `Report.Apart.eq_of_get?`: a report is what it has for each node.
* `apart_of_run`: the parts are apart in the report of a fan-out.
* `mem_report_iff`: the report of a fan-out that is over is about the nodes of the fan-out.
-/

namespace MonitorFleet

/-- Two maps that have the same value for each name are the same. -/
theorem NameMap.eq_of_get? {α : Type} {m m' : NameMap α}
    (same : ∀ name, m.get? name = m'.get? name) : m = m' := by
  have irrefl : Std.Irrefl fun a b : String × α => a.1 < b.1 := ⟨fun a => String.lt_irrefl a.1⟩
  have antisymm : Std.Antisymm fun a b : String × α => a.1 < b.1 :=
    ⟨fun _ _ hab hba => absurd (String.lt_trans hab hba) (String.lt_irrefl _)⟩
  have entries : m.entries = m'.entries := by
    refine m.sorted.eq_of_mem_iff m'.sorted fun ⟨name, value⟩ => ?_
    rw [mem_entries, mem_entries, same]
  obtain ⟨_, _⟩ := m
  cases entries
  rfl

namespace Report

/-- No node both succeeded and failed. -/
def Apart (r : Report) : Prop := ∀ node ∈ r.succeeded.names, node ∉ r.failures.names

theorem apart_new (operation : String) : (new operation).Apart := by
  intro node h
  cases h

theorem Apart.record {r : Report} (h : r.Apart) (node : String) (outcome : Except Error Unit) :
    (r.record node outcome).Apart := by
  intro other
  have hr := h other
  simp only [NameMap.mem_names] at hr ⊢
  cases outcome <;> by_cases ho : other = node <;>
    simp_all [Report.record, NameSet.add, NameMap.get?_insert, NameMap.get?_erase]

theorem Apart.mem_succeeded {r : Report} (h : r.Apart) (node : String) :
    node ∈ r.succeeded.names ↔ r.get? node = some (.ok ()) := by
  have hr := h node
  rw [NameMap.mem_names, NameMap.mem_names] at hr
  rw [NameMap.mem_names, get?]
  cases hf : r.failures.get? node <;> simp_all

theorem mem_failures (r : Report) (node : String) :
    node ∈ r.failures.names ↔ ∃ error, r.get? node = some (.error error) := by
  rw [NameMap.mem_names]
  unfold get?
  cases r.failures.get? node <;> simp

theorem sorted_failures (r : Report) : (r.failures.entries.map (·.1)).Pairwise (· < ·) :=
  List.pairwise_map.2 r.failures.sorted

/-- The failures of a report are the outcomes that are failures. -/
theorem mem_entries_failures (r : Report) (node : String) (error : Error) :
    (node, error) ∈ r.failures.entries ↔ r.get? node = some (.error error) := by
  rw [NameMap.mem_entries]
  unfold get?
  cases r.failures.get? node <;> simp

/-- **A report is what it has for each node**, with the name of its operation. -/
theorem Apart.eq_of_get? {r r' : Report} (h : r.Apart) (h' : r'.Apart)
    (operation : r.operation = r'.operation) (same : ∀ node, r.get? node = r'.get? node) :
    r = r' := by
  have succeeded : r.succeeded = r'.succeeded := by
    refine NameMap.eq_of_get? fun node => Option.ext fun _ => ?_
    have hr := h.mem_succeeded node
    have hr' := h'.mem_succeeded node
    rw [NameMap.mem_names] at hr hr'
    exact ⟨fun found => hr'.2 (same node ▸ hr.1 ⟨_, found⟩) |>.choose_spec,
      fun found => hr.2 (same node ▸ hr'.1 ⟨_, found⟩) |>.choose_spec⟩
  have failures : r.failures = r'.failures := by
    refine NameMap.eq_of_get? fun node => Option.ext fun error => ?_
    rw [← NameMap.mem_entries, ← NameMap.mem_entries, mem_entries_failures, mem_entries_failures,
      same]
  cases r
  cases r'
  simp_all

end Report

namespace FanOut

variable {ω τ ε : Type} {op : Operation ω τ ε} {names : List String} {events : List (Event ε)}
  {w : ω} {f : FanOut ω τ}

/-- In the report of a fan-out, no node both succeeded and failed. -/
theorem apart_of_run (h : (start op names w).run op events = some f) : f.report.Apart := by
  refine run_induction h (P := fun _ g => g.report.Apart) (Report.apart_new _) ?_
  intro before e after g g' _ _ ih hap
  cases hap with
  | cancel => exact ih
  | waits _ _ => exact ih
  | finishes _ _ => exact ih
  | interrupt _ _ => exact ih
  | crash _ => exact ih
  | join _ => exact ih.record _ _

/-- A report is about the operation of its fan-out. -/
theorem operation_of_run (h : (start op names w).run op events = some f) :
    f.report.operation = op.name := by
  refine run_induction h (P := fun _ g => g.report.operation = op.name) rfl ?_
  intro before e after g g' _ _ ih hap
  cases hap with
  | cancel => exact ih
  | waits _ _ => exact ih
  | finishes _ _ => exact ih
  | interrupt _ _ => exact ih
  | crash _ => exact ih
  | @join _ node outcome _ => cases outcome <;> exact ih

theorem kept_trivial : Kept op names events fun _ _ _ _ _ => True :=
  ⟨fun _ _ _ _ => trivial, fun _ _ _ _ _ _ _ _ => trivial, fun _ _ => trivial,
    fun _ _ _ => trivial⟩

theorem getElem?_members_spawnAll (op : Operation ω τ ε) (w : ω) (names : List String) {i : Nat}
    {node : String} (h : names[i]? = some node) :
    ∃ w' task, (op.spawn w' node).2 = task ∧
      (spawnAll op w names).2[i]? = some ⟨node, .running task⟩ := by
  induction names generalizing w i with
  | nil => cases h
  | cons name names ih =>
    cases i with
    | zero =>
      cases h
      exact ⟨w, _, rfl, rfl⟩
    | succ i => exact ih _ h

theorem stands_start (op : Operation ω τ ε) (w : ω) {i : Nat} {node : String}
    (h : names[i]? = some node) :
    ∃ w' task, (op.spawn w' node).2 = task ∧ Stands (start op names w) i node (.running task) := by
  obtain ⟨w', task, ht, hm⟩ := getElem?_members_spawnAll op w names h
  exact ⟨w', task, ht, .running hm⟩

/-- The report of a fan-out that is over is about its nodes, and about no others. -/
theorem mem_report_iff (distinct : names.Nodup)
    (h : (start op names w).run op events = some f) (isOver : f.isOver = true) (node : String) :
    node ∈ f.report.succeeded.names ∨ node ∈ f.report.failures.names ↔ node ∈ names := by
  rw [(apart_of_run h).mem_succeeded, Report.mem_failures]
  constructor
  · intro recorded
    by_contra absent
    simp [get?_report_eq_none h absent] at recorded
  · intro hmem
    obtain ⟨i, hi⟩ := List.getElem?_of_mem hmem
    obtain ⟨outcome, ho, -⟩ := recorded_of_run kept_trivial distinct h isOver
      (fun i node hi => by
        obtain ⟨_, _, -, hs⟩ := stands_start op w hi
        exact ⟨_, hs, trivial⟩) hi
    cases outcome with
    | ok _ => exact .inl ho
    | error error => exact .inr ⟨error, ho⟩

end FanOut

end MonitorFleet
