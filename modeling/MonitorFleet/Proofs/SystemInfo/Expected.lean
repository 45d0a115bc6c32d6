import MonitorFleet.Proofs.FanOut.Reports
import MonitorFleet.Proofs.Task.Courses
import MonitorFleet.Proofs.Tree.LastName
import MonitorFleet.SystemInfo

/-!
# What is expected of a retrieval of system information

What the cluster and the monitors do is given by a script, which may change from attempt to attempt.
From the script it can be told how often each node is attempted, what is in its file afterwards and
what is reported, whatever the order in which the tasks of the nodes go on (`Retrieved`). The file of
a node keeps the chunks of attempts that failed in the middle of the stream: each attempt adds to
what is there.

The files are told apart by where the paths lead, links followed. Several nodes whose paths lead to
one file add to it side by side, and only the file of a node that has it for itself holds nothing
from another one.

## What is proved

* `eq_of_unlinked`: without links, each node has a file for itself.
* `shared_of_ended`, `Merged.alone`: what the file of a node holds.
* `mem_failures_iff`, `failures_eq_nil_iff`: which nodes fail, and of what.
-/

namespace MonitorFleet

/-- The content of the file that a path leads to, links followed, if there is one. -/
def Tree.fileAt? (tree : Tree) (path : String) : Option ByteArray :=
  (tree.place? path).bind tree.content?

namespace SystemInfo

open FanOut (Event)

/-! ### What is to be expected -/

section

variable (i : SystemInfo) (script : String → Nat → Conduct) (node : String)

/-- The path of the file of a node. -/
def path : String := i.session.sysinfoPath node

/-- What an attempt on a node fails of, if it does. -/
def error? (k : Nat) : Option Error :=
  (script node k).error? i.session.monitors (job i.session node) node (i.path node)

/-- How many attempts are made on a node. -/
def attempts : Nat := attemptsUpTo i.policy.limit fun k => (i.error? script node k).isNone

/-- The chunks that are received from a node in all its attempts. -/
def received : List ByteArray :=
  (List.range (i.attempts script node)).flatMap fun k =>
    (script node k).received i.session.monitors

/-- Whether the call of one of its attempts is taken. -/
def isTaken : Bool :=
  (List.range (i.attempts script node)).any fun k => (script node k).isTaken i.session.monitors

/-- Whether the paths of two nodes lead to the same file, links followed. -/
def sameFile (tree : Tree) (node other : String) : Bool :=
  tree.place? (i.path node) == tree.place? (i.path other)

end

/-- The content of a file, if there is one, that chunks were added to if it was opened. -/
def withChunks (old : Option ByteArray) (opened : Bool) (chunks : List ByteArray) :
    Option ByteArray :=
  if opened then some (old.getD .empty ++ joined chunks) else old

/-- What was received for the file of a node, merged in some order: each part comes from a node
that has the same file, and the parts from a node are those that were received from it, in order. -/
structure Merged (i : SystemInfo) (script : String → Nat → Conduct) (names : List String)
    (tree : Tree) (node : String) (parts : List (String × ByteArray)) : Prop where
  comes : ∀ x ∈ parts, x.1 ∈ names ∧ i.sameFile tree node x.1 = true
  ordered : ∀ other ∈ names, i.sameFile tree node other = true →
    (parts.filter (·.1 == other)).map (·.2) = i.received script other

/-- **What the retrieval from nodes leaves behind**, and what is reported. -/
structure Retrieved (i : SystemInfo) (script : String → Nat → Conduct) (names : List String)
    (w : World) (result : Except Error Unit) (w' : World) : Prop where
  /-- Each node is attempted until an attempt is clean, or no more are allowed. -/
  attempts : ∀ node ∈ names, w'.lookups node = w.lookups node + i.attempts script node
  /-- The file of a node that no other one has holds what it held before and, behind it, what was
  received from the node. -/
  own : ∀ node ∈ names,
    (∀ other ∈ names, i.sameFile w.tree node other = true → other = node) →
    w'.tree.fileAt? (i.path node) =
      withChunks (w.tree.fileAt? (i.path node)) (i.isTaken script node) (i.received script node)
  /-- If none of the paths names a link, then no file is that of two nodes. -/
  unlinked : (∀ node ∈ names, '/' ∉ node.toList ∧ w.tree.isLink (i.path node) = false) →
    ∀ node ∈ names, ∀ other ∈ names, i.sameFile w.tree node other = true → other = node
  /-- The file of several nodes holds what it held before and, behind it, what was received from
  all of them. -/
  shared : ∀ node ∈ names, ∃ parts, Merged i script names w.tree node parts ∧
    w'.tree.fileAt? (i.path node) =
      withChunks (w.tree.fileAt? (i.path node))
        (names.any fun other => i.sameFile w.tree node other && i.isTaken script other)
        (parts.map (·.2))
  /-- All is well if each node had a clean attempt. -/
  succeeded : result = .ok () ↔ ∀ node ∈ names, ∃ k < i.policy.limit, i.error? script node k = none
  /-- Else the nodes without one are reported in order, each with what its last attempt failed of. -/
  failed : result = .ok () ∨ ∃ failures,
    result = .error (.nodesFailed "GetSysInfo" failures) ∧
      (failures.map (·.1)).Pairwise (· < ·) ∧
      ∀ node error, (node, error) ∈ failures ↔ node ∈ names ∧
        (∀ k < i.policy.limit, i.error? script node k ≠ none) ∧
        ∃ last, i.error? script node (i.policy.limit - 1) = some last ∧
          error = .retryExhausted "GetSysInfo" node (UInt32.ofNat i.policy.limit) last

variable {i : SystemInfo} {token : RunToken} {script : String → Nat → Conduct} {w : World}

/-! ### Courses -/

/-- The course of the task of a node. -/
def course (i : SystemInfo) (token : RunToken) (script : String → Nat → Conduct) (tree : Tree)
    (node : String) : Course (i.work token) node where
  policy := i.policy
  retried := rfl
  path := i.path node
  streams := rfl
  place := (tree.place? (i.path node)).getD []
  script := script node

theorem place?_of_leads {node : String}
    (leads : ∃ place, w.tree.place? (i.path node) = some place) :
    w.tree.place? (i.path node) = some (i.course token script w.tree node).place := by
  obtain ⟨place, hplace⟩ := leads
  rw [course, hplace]
  rfl

/-! ### Files -/

/-- A path that names no link leads to a file that is named after the node. -/
theorem getLast?_of_unlinked {tree : Tree} {node : String} {place : Location}
    (leads : tree.place? (i.path node) = some place) (slashless : '/' ∉ node.toList)
    (unlinked : tree.isLink (i.path node) = false) :
    place.getLast? = some (node ++ ".sysinfo") := by
  have slashless' : '/' ∉ (node ++ ".sysinfo").toList := by
    rw [String.toList_append, List.mem_append]
    exact not_or.2 ⟨slashless, by decide⟩
  have long : 8 ≤ (node ++ ".sysinfo").length := by
    rw [String.length_append]
    exact Nat.le_add_left 8 _
  refine Tree.getLast?_of_place? leads (Path.getLast?_names_join _ slashless') ?_ unlinked
  refine ⟨?_, ?_, ?_⟩ <;> intro heq <;> rw [heq] at long <;> exact absurd long (by decide)

/-- Paths that name no links lead to different files if the nodes have different names. -/
theorem eq_of_unlinked {tree : Tree} {node other : String} {place : Location}
    (leads : tree.place? (i.path node) = some place)
    (leads' : tree.place? (i.path other) = some place)
    (unlinked : '/' ∉ node.toList ∧ tree.isLink (i.path node) = false)
    (unlinked' : '/' ∉ other.toList ∧ tree.isLink (i.path other) = false) : other = node := by
  have same := Option.some.inj ((getLast?_of_unlinked leads' unlinked'.1 unlinked'.2).symm.trans
    (getLast?_of_unlinked leads unlinked.1 unlinked.2))
  rw [← String.toList_inj, String.toList_append, String.toList_append] at same
  exact String.toList_inj.1 (List.append_cancel_right same)

theorem content?_eq_withChunks (old : Option ByteArray) (got : Arrivals) :
    got.content? old = withChunks old got.isSome ((got.getD []).map (·.2)) := by
  cases got <;> rfl

variable {names : List String} {events : List (Event Happening)} {w₀ : World}
  {f : FanOut World Task}

/-- The file of a node that has it for itself holds what was received from this node. -/
theorem Merged.alone {node : String} {parts : List (String × ByteArray)} (hmem : node ∈ names)
    (merged : Merged i script names w.tree node parts)
    (alone : ∀ other ∈ names, i.sameFile w.tree node other = true → other = node) :
    parts.map (·.2) = i.received script node ∧
      (names.any fun other => i.sameFile w.tree node other && i.isTaken script other) =
        i.isTaken script node := by
  have itself : i.sameFile w.tree node node = true := beq_self_eq_true _
  refine ⟨?_, ?_⟩
  · rw [← merged.ordered node hmem itself]
    congr 1
    refine (List.filter_eq_self.2 fun x hx => ?_).symm
    obtain ⟨hlisted, hsame⟩ := merged.comes x hx
    exact beq_iff_eq.2 (alone x.1 hlisted hsame)
  · rw [Bool.eq_iff_iff, List.any_eq_true]
    constructor
    · rintro ⟨other, hlisted, hboth⟩
      obtain ⟨hsame, htaken⟩ := Bool.and_eq_true_iff.1 hboth
      exact alone other hlisted hsame ▸ htaken
    · intro htaken
      exact ⟨node, hmem, Bool.and_eq_true_iff.2 ⟨itself, htaken⟩⟩

section

variable (writable : ∀ node ∈ names, ∃ place, w.tree.place? (i.path node) = some place)
  (ended : ∀ j node, names[j]? = some node →
    Course.Ended (i.course token script w.tree) names events w₀ f.world f.report j node)

include writable

theorem streamsTo_eq {node other : String} (hmem : node ∈ names) (hmem' : other ∈ names) :
    Course.streamsTo (i.course token script w.tree) (i.course token script w.tree node).place other =
      i.sameFile w.tree node other := by
  rw [sameFile, place?_of_leads (writable node hmem), place?_of_leads (writable other hmem'),
    Course.streamsTo, Bool.eq_iff_iff, beq_iff_eq, beq_iff_eq, Option.some_inj, eq_comm]

include ended

/-- The file of a node is opened just if a call of a node that has it is taken. -/
theorem isSome_arrivals_of_ended {node : String} (hmem : node ∈ names) :
    (arrivals names (Course.streamsTo (i.course token script w.tree)
      (i.course token script w.tree node).place) events).isSome =
      names.any fun other => i.sameFile w.tree node other && i.isTaken script other := by
  have taken : ∀ k other, names[k]? = some other →
      ((heard k events).any Answer.isTaken = true ↔ i.isTaken script other = true) := by
    intro k other hk
    rw [(ended k other hk).taken, isTaken, List.any_eq_true]
    simp only [List.mem_range]
    rfl
  rw [Bool.eq_iff_iff, isSome_arrivals, List.any_eq_true]
  constructor
  · rintro ⟨k, other, hk, hfor, hany⟩
    have hlisted := List.mem_of_getElem? hk
    rw [streamsTo_eq writable hmem hlisted] at hfor
    exact ⟨other, hlisted, Bool.and_eq_true_iff.2 ⟨hfor, (taken k other hk).1 hany⟩⟩
  · rintro ⟨other, hlisted, hboth⟩
    obtain ⟨hsame, htaken⟩ := Bool.and_eq_true_iff.1 hboth
    obtain ⟨k, hk⟩ := List.getElem?_of_mem hlisted
    rw [← streamsTo_eq writable hmem hlisted] at hsame
    exact ⟨k, other, hk, hsame, (taken k other hk).2 htaken⟩

/-- What the file of a node holds in the end: what its nodes streamed to it. -/
theorem shared_of_ended (distinct : names.Nodup) (same : w₀.tree = w.tree) {node : String}
    (hmem : node ∈ names) :
    ∃ parts, Merged i script names w.tree node parts ∧
      f.world.tree.fileAt? (i.path node) =
        withChunks (w.tree.fileAt? (i.path node))
          (names.any fun other => i.sameFile w.tree node other && i.isTaken script other)
          (parts.map (·.2)) := by
  obtain ⟨j, hj⟩ := List.getElem?_of_mem hmem
  have opened := isSome_arrivals_of_ended writable ended hmem
  have content := (ended j node hj).content
  have leads : f.world.tree.place? (i.path node) = _ := (ended j node hj).leads
  generalize hgot : arrivals names _ events = got at opened content
  refine ⟨got.getD [], ⟨?_, ?_⟩, ?_⟩
  · intro x hx
    obtain ⟨hlisted, hfor⟩ := mem_arrivals (hgot ▸ hx)
    rw [streamsTo_eq writable hmem hlisted] at hfor
    exact ⟨hlisted, hfor⟩
  · intro other hlisted hsame
    obtain ⟨k, hk⟩ := List.getElem?_of_mem hlisted
    rw [← streamsTo_eq writable hmem hlisted] at hsame
    rw [← hgot, arrivals_of_node distinct hk hsame]
    exact (ended k other hk).chunks
  · rw [content?_eq_withChunks, same] at content
    rw [Tree.fileAt?, Tree.fileAt?, place?_of_leads (writable node hmem), leads, ← opened]
    exact content

end

/-! ### The report -/

/-- A node fails just if it has no clean attempt, and then of the last one. -/
theorem mem_failures_iff
    (h : (FanOut.start (i.operation token) names w₀).run (i.operation token) events = some f)
    (ended : ∀ j node, names[j]? = some node →
      Course.Ended (i.course token script w.tree) names events w₀ f.world f.report j node)
    (node : String) (error : Error) :
    (node, error) ∈ f.report.failures.entries ↔ node ∈ names ∧
      (∀ k < i.policy.limit, i.error? script node k ≠ none) ∧
      ∃ last, i.error? script node (i.policy.limit - 1) = some last ∧
        error = .retryExhausted "GetSysInfo" node (UInt32.ofNat i.policy.limit) last := by
  rw [Report.mem_entries_failures]
  by_cases hmem : node ∈ names
  · obtain ⟨j, hj⟩ := List.getElem?_of_mem hmem
    rw [(ended j node hj).outcome, Option.some_inj, Course.outcome_eq_error_iff]
    exact (and_iff_right hmem).symm
  · rw [FanOut.get?_report_eq_none h hmem]
    constructor
    · rintro ⟨⟩
    · rintro ⟨hmem', -⟩
      exact absurd hmem' hmem

/-- No node fails just if each has a clean attempt. -/
theorem failures_eq_nil_iff
    (h : (FanOut.start (i.operation token) names w₀).run (i.operation token) events = some f)
    (ended : ∀ j node, names[j]? = some node →
      Course.Ended (i.course token script w.tree) names events w₀ f.world f.report j node) :
    f.report.failures.entries = [] ↔
      ∀ node ∈ names, ∃ k < i.policy.limit, i.error? script node k = none := by
  constructor
  · intro hnil node hmem
    by_contra unclean
    have none : ∀ k < i.policy.limit, i.error? script node k ≠ none :=
      fun k hk hclean => unclean ⟨k, hk, hclean⟩
    have positive : 1 ≤ i.policy.limit := Nat.le_max_left ..
    obtain ⟨last, hlast⟩ := Option.ne_none_iff_exists'.1 (none (i.policy.limit - 1) (by omega))
    have listed := (mem_failures_iff h ended node _).2 ⟨hmem, none, last, hlast, rfl⟩
    rw [hnil] at listed
    cases listed
  · intro clean
    refine List.eq_nil_iff_forall_not_mem.2 ?_
    rintro ⟨node, error⟩ listed
    obtain ⟨hmem, none, -⟩ := (mem_failures_iff h ended node error).1 listed
    obtain ⟨k, hk, hclean⟩ := clean node hmem
    exact none k hk hclean

/-- What is reported: the failures, if there are any. -/
theorem fst_finished (f : FanOut World Task) :
    (finished f).1 = if f.report.failures.entries = [] then .ok () else
      .error (.nodesFailed f.report.operation f.report.failures.entries) := by
  unfold finished Report.result Report.isSuccess NameMap.isEmpty
  cases f.report.failures.entries <;> rfl

end SystemInfo

end MonitorFleet
