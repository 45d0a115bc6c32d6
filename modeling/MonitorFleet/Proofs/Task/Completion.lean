import Mathlib.Algebra.Order.BigOperators.Group.Finset
import MonitorFleet.Proofs.Task.Courses
import MonitorFleet.Proofs.Task.Ending

/-!
# Fan-outs of tasks that go by scripts come to their end

A fan-out that goes by scripts never gets stuck: as long as it is not over, some event can happen to
it, one that goes by the scripts, too (`Course.goes_on`). Nor does it go on forever: each event makes
less of what is owed to the members (`owed`), which are the answers of all the attempts allowed, the
beginning and the end of a task. So every fan-out comes to its end whatever the order of events, if
only it goes on as long as it can.

## What is proved

* `Conduct.Awaits.fits`, `Course.Stands.next`: the next answer of a script is one that is awaited.
* `Course.goes_on`: a fan-out that is not over can go on.
* `Course.length_le`: how many events there can be.
* `Course.completes`: each fan-out can be brought to its end.
-/

namespace MonitorFleet

open FanOut (Event Standing)

/-! ### Attempts -/

namespace Conduct

variable {c : Conduct} {m : Monitors} {job : Job} {node path : String} {place : Location}
  {a : Answer} {rest : List Answer}

/-- The next answer of a conduct is one that the attempt awaits. -/
theorem Awaits.fits {stage : Attempt} (h : c.Awaits m node path place stage (a :: rest)) :
    a.fits (stage.question m job node) = true := by
  cases h with
  | address direct left =>
    rw [answers, direct] at left
    injection left with hhead _
    rw [hhead]
    rfl
  | pod tunneled left =>
    rw [answers, tunneled] at left
    injection left with hhead _
    rw [hhead]
    rfl
  | tunnel _ _ left =>
    injection left with hhead _
    rw [hhead]
    rfl
  | connecting _ _ left =>
    injection left with hhead _
    rw [hhead]
    rfl
  | calling _ _ _ _ left =>
    injection left with hhead _
    rw [hhead]
    rfl
  | @receiving connection transfer chunks _ _ _ left =>
    cases chunks with
    | nil =>
      injection left with hhead _
      rw [hhead, last]
      cases c.break? <;> rfl
    | cons chunk chunks =>
      injection left with hhead _
      rw [hhead]
      rfl

end Conduct

/-! ### Tasks -/

namespace Course

variable {work : Work} {node : String} {c : Course work node}

/-- All answers of a script. -/
def allTold (c : Course work node) : List Answer :=
  told work.monitors c.script c.policy.limit

/-- A task that still runs was not told all. -/
theorem Stands.length_lt {given : List Answer} {begun : Nat} {task : Task}
    (h : c.Stands given begun (.running task)) : given.length < c.allTold.length := by
  have upTo : ∀ {k}, k < c.policy.limit → (c.toldUpTo k).length < c.allTold.length := by
    intro k hk
    have hle : (told work.monitors c.script (k + 1)).length ≤ c.allTold.length :=
      (told_mono hk).length_le
    rw [told_succ, List.length_append] at hle
    exact hle
  cases h with
  | idle => exact Nat.lt_of_le_of_lt (Nat.zero_le _) (upTo (Nat.lt_of_lt_of_le Nat.zero_lt_one
      (Nat.le_max_left ..)))
  | attempting _ within _ _ split =>
    refine Nat.lt_of_le_of_lt ?_ (upTo within)
    rw [← split, List.length_append]
    exact Nat.le_add_right ..
  | pausing _ within _ all => exact all ▸ upTo (Nat.lt_of_succ_lt within)

/-- The next thing to happen to a task, by its script. -/
theorem Stands.next {given : List Answer} {begun : Nat} {task : Task}
    (h : c.Stands given begun (.running task)) :
    ∃ x, task.awaits work node x = true ∧
      ∃ n, given ++ x.answer?.toList <+: told work.monitors c.script n := by
  cases h with
  | idle => exact ⟨.begun, rfl, 0, List.prefix_refl _⟩
  | @attempting number k stage _ left _ within _ awaits split =>
    obtain ⟨a, rest, rfl⟩ := List.exists_cons_of_ne_nil awaits.ne_nil
    refine ⟨.answer a, awaits.fits, k + 1, ?_⟩
    rw [told_succ, show told work.monitors c.script k ++ (c.script k).answers work.monitors =
      given ++ a :: rest from split.symm]
    exact ⟨rest ++ [.elapsed], by simp [Happening.answer?]⟩
  | @pausing number k _ _ within _ all =>
    refine ⟨.answer .elapsed, rfl, k + 1, ?_⟩
    rw [told_succ, all]
    exact List.prefix_refl _

end Course

/-! ### What is owed -/

/-- What a task still has to do but for its answers: to begin, to end, and to be joined. -/
def Phase.weight : Phase Task → Nat
  | .running .idle => 3
  | .running _ => 2
  | .ended _ => 1
  | .joined => 0

/-- The weight of a task that made such progress. -/
def Progress.weight : Progress Task UInt64 → Nat
  | .waiting task => (Phase.running task).weight
  | .finished _ => 1

theorem Phase.one_lt_weight (task : Task) : 1 < (Phase.running task).weight := by
  cases task <;> simp [weight]

/-- A step of a task takes an answer, or makes it lighter. -/
theorem Task.Goes.weight_lt {work : Work} {node : String} {w w' : World} {task : Task}
    {x : Happening} {p : Progress Task UInt64} (h : Task.Goes work node w task x w' p) :
    p.weight < (Phase.running task).weight + x.answer?.toList.length := by
  cases h with
  | begins => exact Nat.lt_succ_self 2
  | resumes => exact Nat.lt_succ_self 2
  | continues _ => exact Nat.lt_succ_self 2
  | @attempted number stage a w' result _ =>
    have two : (Phase.running (Task.attempting number stage)).weight = 2 := rfl
    have one : (Happening.answer a).answer?.toList.length = 1 := rfl
    rw [two, one]
    unfold Task.attempted
    split
    · simp [Progress.weight]
    · split <;> simp [Progress.weight, Phase.weight]
  | withdraws _ _ => exact Phase.one_lt_weight task

namespace Course

variable {work : Work} {courses : ∀ node, Course work node} {names : List String}
  {events before : List (Event Happening)} {g : FanOut World Task} {spans : List Span} {w : World}

/-- What is owed to a member of a fan-out after some events. -/
def owed (courses : ∀ node, Course work node) (g : FanOut World Task)
    (before : List (Event Happening)) (i : Nat) : Nat :=
  match g.members[i]? with
  | some ⟨node, phase⟩ => phase.weight + ((courses node).allTold.length - (heard i before).length)
  | none => 0

/-- What is owed to all members. -/
def owedToAll (courses : ∀ node, Course work node) (g : FanOut World Task)
    (before : List (Event Happening)) : Nat :=
  ∑ i ∈ Finset.range g.members.length, owed courses g before i

/-- Less is owed to all if less is owed to one member, and the others heard nothing. -/
theorem owedToAll_lt {g' : FanOut World Task} {i : Nat} {node : String} {old phase : Phase Task}
    {e : Event Happening} (member : g.members[i]? = some ⟨node, old⟩)
    (members : g'.members = g.members.set i ⟨node, phase⟩)
    (silent : ∀ j, j ≠ i → e.answerTo? j = none)
    (less : phase.weight + ((courses node).allTold.length - (heard i (before ++ [e])).length) <
      old.weight + ((courses node).allTold.length - (heard i before).length)) :
    owedToAll courses g' (before ++ [e]) < owedToAll courses g before := by
  obtain ⟨hlt, -⟩ := List.getElem?_eq_some_iff.1 member
  have own : owed courses g' (before ++ [e]) i < owed courses g before i := by
    have member' : g'.members[i]? = some ⟨node, phase⟩ := by
      rw [members, List.getElem?_set_self hlt]
    unfold owed
    rw [member, member']
    exact less
  have others : ∀ j, j ≠ i → owed courses g' (before ++ [e]) j = owed courses g before j := by
    intro j hj
    have heard_eq : heard j (before ++ [e]) = heard j before := by
      rw [heard_concat, silent j hj]
      exact List.append_nil _
    unfold owed
    rw [members, List.getElem?_set_ne (Ne.symm hj), heard_eq]
  unfold owedToAll
  rw [members, List.length_set]
  refine Finset.sum_lt_sum (fun j _ => ?_) ⟨i, Finset.mem_range.2 hlt, own⟩
  by_cases hj : j = i
  · exact hj ▸ Nat.le_of_lt own
  · exact Nat.le_of_eq (others j hj)

/-! ### Fan-outs -/

theorem byScript_nil (m : Monitors) (script : String → Nat → Conduct) (names : List String) :
    ByScript m script names [] where
  follows _ _ _ := ⟨0, List.prefix_refl _⟩
  uncancelled hmem := nomatch hmem
  uncrashed := by
    rintro ⟨_, _, hmem⟩
    cases hmem

/-- What comes first goes by the scripts, too. -/
theorem byScript_of_append {m : Monitors} {script : String → Nat → Conduct}
    {after : List (Event Happening)} (h : ByScript m script names (before ++ after)) :
    ByScript m script names before where
  follows i node hi := by
    obtain ⟨n, hn⟩ := h.follows i node hi
    refine ⟨n, List.IsPrefix.trans ⟨heard i after, ?_⟩ hn⟩
    rw [heard, heard, heard, List.filterMap_append]
  uncancelled hmem := h.uncancelled (List.mem_append_left _ hmem)
  uncrashed := by
    rintro ⟨i, reason, hmem⟩
    exact h.uncrashed ⟨i, reason, List.mem_append_left _ hmem⟩

theorem known_of_run (ready : Ready courses names w)
    (scripted : ByScript work.monitors (scripts courses) names before)
    (h : (FanOut.start (work.fanOut spans) names w).run (work.fanOut spans) before = some g) :
    ∀ i node, names[i]? = some node →
      ∃ s, FanOut.Stands g i node s ∧ Known courses names w i node before g.world s :=
  FanOut.stands_of_run (kept ready scripted) ready.distinct h (known_start ready)

theorem names_of_member {i : Nat} {node : String} {phase : Phase Task}
    (h : (FanOut.start (work.fanOut spans) names w).run (work.fanOut spans) before = some g)
    (member : g.members[i]? = some ⟨node, phase⟩) : names[i]? = some node := by
  rw [← FanOut.nodes_start (work.fanOut spans) names w, ← FanOut.nodes_of_run h, FanOut.nodes,
    List.getElem?_map, member]
  rfl

/-- A task that runs was not told all. -/
theorem length_heard_lt (ready : Ready courses names w)
    (scripted : ByScript work.monitors (scripts courses) names before)
    (h : (FanOut.start (work.fanOut spans) names w).run (work.fanOut spans) before = some g)
    {i : Nat} {node : String} {task : Task} (member : g.members[i]? = some ⟨node, .running task⟩) :
    ∃ begun, (courses node).Stands (heard i before) begun (.running task) ∧
      (heard i before).length < (courses node).allTold.length := by
  obtain ⟨s, hs, begun, onCourse⟩ := known_of_run ready scripted h i node (names_of_member h member)
  obtain ⟨-, rfl⟩ := hs.eq_running member
  exact ⟨begun, onCourse.stands, onCourse.stands.length_lt⟩

/-- Each event makes less of what is owed. -/
theorem owedToAll_lt_of_happens {g' : FanOut World Task} {e : Event Happening}
    (ready : Ready courses names w)
    (scripted : ByScript work.monitors (scripts courses) names (before ++ [e]))
    (h : (FanOut.start (work.fanOut spans) names w).run (work.fanOut spans) before = some g)
    (hap : FanOut.Happens (work.fanOut spans) g e g') :
    owedToAll courses g' (before ++ [e]) < owedToAll courses g before := by
  have scripted' := byScript_of_append scripted
  -- A step is counted for the member whose task takes it.
  have steps : ∀ {i node task x w' p phase g'}, g.members[i]? = some ⟨node, .running task⟩ →
      Task.Goes work node g.world task x w' p → phase.weight = p.weight →
      g'.members = g.members.set i ⟨node, phase⟩ →
      owedToAll courses g' (before ++ [.advance i x]) < owedToAll courses g before := by
    intro i node task x w' p phase g' member step hweight members
    refine owedToAll_lt member members (fun j hj => Event.answerTo?_of_ne (Ne.symm hj) x) ?_
    obtain ⟨_, -, hlt⟩ := length_heard_lt ready scripted' h member
    have lighter := step.weight_lt
    have atMost : x.answer?.toList.length ≤ 1 := by cases x.answer? <;> simp
    rw [heard_concat, Event.answerTo?_self, List.length_append, hweight]
    omega
  have silent : ∀ {e : Event Happening} i, e.answerTo? i = none →
      heard i (before ++ [e]) = heard i before := by
    intro e i he
    rw [heard_concat, he]
    exact List.append_nil _
  cases hap with
  | cancel => exact absurd (by simp) scripted.uncancelled
  | waits member step => exact steps member (Work.goes_of_waits step) rfl rfl
  | finishes member step =>
    obtain ⟨result, goes, -⟩ := Work.goes_of_finishes step
    exact steps member goes rfl rfl
  | @interrupt i node task member cancelled =>
    refine owedToAll_lt member rfl (fun _ _ => rfl) ?_
    rw [silent i rfl]
    exact Nat.add_lt_add_right (Phase.one_lt_weight task) _
  | @crash i node task reason member => exact absurd ⟨i, reason, by simp⟩ scripted.uncrashed
  | @join i node outcome member =>
    refine owedToAll_lt member rfl (fun _ _ => rfl) ?_
    rw [silent i rfl]
    exact Nat.add_lt_add_right Nat.zero_lt_one _

/-- How many events there can be. -/
theorem length_le (ready : Ready courses names w)
    (scripted : ByScript work.monitors (scripts courses) names events)
    (h : (FanOut.start (work.fanOut spans) names w).run (work.fanOut spans) events = some g) :
    events.length ≤ owedToAll courses (FanOut.start (work.fanOut spans) names w) [] := by
  suffices kept : events.length + owedToAll courses g events ≤
      owedToAll courses (FanOut.start (work.fanOut spans) names w) [] by omega
  refine FanOut.run_induction h (P := fun before g => before.length + owedToAll courses g before ≤
    owedToAll courses (FanOut.start (work.fanOut spans) names w) []) (Nat.le_of_eq (Nat.zero_add _)) ?_
  rintro before e after g g' rfl hg ih hap
  rw [List.append_cons] at scripted
  have scripted' := byScript_of_append scripted
  have less := owedToAll_lt_of_happens ready scripted' hg hap
  rw [List.length_append, List.length_singleton]
  omega

/-- An event that goes by the scripts after others that do. -/
theorem byScript_concat {m : Monitors} {script : String → Nat → Conduct} {e : Event Happening}
    (h : ByScript m script names before) (uncancelled : e ≠ .cancel)
    (uncrashed : ∀ i reason, e ≠ .crash i reason)
    (follows : ∀ i node, names[i]? = some node →
      ∃ n, heard i before ++ (e.answerTo? i).toList <+: told m (script node) n) :
    ByScript m script names (before ++ [e]) where
  follows i node hi := by
    rw [heard_concat]
    exact follows i node hi
  uncancelled hmem := by
    rcases List.mem_append.1 hmem with hmem | hmem
    · exact h.uncancelled hmem
    · exact uncancelled (List.mem_singleton.1 hmem).symm
  uncrashed := by
    rintro ⟨i, reason, hmem⟩
    rcases List.mem_append.1 hmem with hmem | hmem
    · exact h.uncrashed ⟨i, reason, hmem⟩
    · exact uncrashed i reason (List.mem_singleton.1 hmem).symm

/-- A fan-out that is not over can go on, by its scripts. -/
theorem goes_on (ready : Ready courses names w)
    (scripted : ByScript work.monitors (scripts courses) names before)
    (h : (FanOut.start (work.fanOut spans) names w).run (work.fanOut spans) before = some g)
    (notOver : g.isOver = false) :
    ∃ e g', g.apply (work.fanOut spans) e = some g' ∧
      ByScript work.monitors (scripts courses) names (before ++ [e]) := by
  obtain ⟨⟨node, phase⟩, hmem, unjoined⟩ := List.all_eq_false.1 notOver
  obtain ⟨i, member⟩ := List.getElem?_of_mem hmem
  have hi := names_of_member h member
  cases phase with
  | running task =>
    obtain ⟨_, stands, -⟩ := length_heard_lt ready scripted h member
    obtain ⟨x, awaited, n, hn⟩ := stands.next
    obtain ⟨g', hg'⟩ := Work.goes_on spans member awaited
    have scripted' : ByScript work.monitors (scripts courses) names (before ++ [.advance i x]) := by
      refine byScript_concat scripted (by rintro ⟨⟩) (by rintro _ _ ⟨⟩) fun j node' hj => ?_
      by_cases hij : i = j
      · subst hij
        obtain rfl : node = node' := Option.some.inj (hi.symm.trans hj)
        rw [Event.answerTo?_self]
        exact ⟨n, hn⟩
      · rw [Event.answerTo?_of_ne hij]
        obtain ⟨n, hn⟩ := scripted.follows j node' hj
        exact ⟨n, by simpa using hn⟩
    exact ⟨_, g', hg', scripted'⟩
  | ended outcome =>
    have happens : (g.apply (work.fanOut spans) (.join i)).isSome = true := by
      simp [FanOut.apply, member]
    obtain ⟨g', hg'⟩ := Option.isSome_iff_exists.1 happens
    refine ⟨_, g', hg', ?_⟩
    refine byScript_concat scripted (by rintro ⟨⟩) (by rintro _ _ ⟨⟩) fun j node' hj => ?_
    obtain ⟨n, hn⟩ := scripted.follows j node' hj
    exact ⟨n, by simpa [FanOut.Event.answerTo?] using hn⟩
  | joined => exact absurd rfl unjoined

/-- **Every fan-out can be brought to its end** from wherever it got, by its scripts. -/
theorem completes (ready : Ready courses names w)
    (scripted : ByScript work.monitors (scripts courses) names before)
    (h : (FanOut.start (work.fanOut spans) names w).run (work.fanOut spans) before = some g) :
    ∃ after f, (FanOut.start (work.fanOut spans) names w).run (work.fanOut spans)
        (before ++ after) = some f ∧
      f.isOver = true ∧ ByScript work.monitors (scripts courses) names (before ++ after) := by
  -- The induction is on what is owed, of which each further event makes less.
  induction howed : owedToAll courses g before using Nat.strong_induction_on generalizing before g with
  | _ owed ih =>
    by_cases isOver : g.isOver = true
    · exact ⟨[], g, by rw [List.append_nil]; exact h, isOver, by rw [List.append_nil]; exact scripted⟩
    · obtain ⟨e, g', happens, scripted'⟩ := goes_on ready scripted h (Bool.eq_false_iff.2 isOver)
      have h' : (FanOut.start (work.fanOut spans) names w).run (work.fanOut spans)
          (before ++ [e]) = some g' := by
        rw [FanOut.run_concat, h]
        exact happens
      have less := owedToAll_lt_of_happens ready scripted' h (FanOut.happens_of_apply happens)
      obtain ⟨after, f, hf⟩ := ih _ (howed ▸ less) scripted' h' rfl
      exact ⟨e :: after, f, by simpa using hf⟩

end Course

end MonitorFleet
