import Mathlib.Data.Nat.Find
import MonitorFleet.Proofs.Task.Arrivals

/-!
# Tasks that go by a script

What a task meets can change from attempt to attempt, so it is given by a script that has a conduct
for each attempt, the first one having the number zero. A task under a policy then makes attempts
until one is clean, or none is left (`Course.attempts`), and comes to what the last of them comes to
(`Course.outcome`).

## What is proved

* `Course.attempts_eq`, `Course.outcome_of_clean`, `Course.outcome_eq_error_iff`: how many attempts a
  task makes and what it comes to.
* `Course.Stands.goes`: a step of a task leads to where its script says.
-/

namespace MonitorFleet

open FanOut (Event Standing)

/-! ### Scripts -/

/-- How many attempts a policy allows. -/
def RetryPolicy.limit (p : RetryPolicy) : Nat := max 1 p.maxAttempts.toNat

/-- How many attempts are made: as many as it takes until one is clean, but no more than allowed. -/
def attemptsUpTo (limit : Nat) (isClean : Nat → Bool) : Nat :=
  min ((List.range limit).findIdx isClean + 1) limit

theorem attemptsUpTo_eq {limit k : Nat} {isClean : Nat → Bool} (within : k < limit)
    (failed : ∀ j < k, isClean j = false) (last : isClean k = true ∨ k + 1 = limit) :
    attemptsUpTo limit isClean = k + 1 := by
  unfold attemptsUpTo
  cases clean : isClean k with
  | true =>
    have first : (List.range limit).findIdx isClean = k := by
      refine (List.findIdx_eq (by rwa [List.length_range])).2 ⟨?_, fun j hj => ?_⟩
      · rw [List.getElem_range]
        exact clean
      · rw [List.getElem_range]
        exact failed j hj
    omega
  | false =>
    have hk : k + 1 = limit := last.resolve_left (by simp [clean])
    have none : (List.range limit).findIdx isClean = limit := by
      rw [List.findIdx_eq_length_of_false, List.length_range]
      intro j hj
      rcases Nat.lt_or_eq_of_le (Nat.le_of_lt_succ (hk ▸ List.mem_range.1 hj)) with hj | rfl
      · exact failed j hj
      · exact clean
    omega

/-- The answers of a script: those of so many attempts, each with the end of a pause behind. -/
def told (m : Monitors) (script : Nat → Conduct) (n : Nat) : List Answer :=
  (List.range n).flatMap fun k => (script k).answers m ++ [.elapsed]

theorem told_succ (m : Monitors) (script : Nat → Conduct) (n : Nat) :
    told m script (n + 1) = told m script n ++ (script n).answers m ++ [.elapsed] := by
  simp [told, List.range_succ]

theorem told_mono {m : Monitors} {script : Nat → Conduct} {n n' : Nat} (h : n ≤ n') :
    told m script n <+: told m script n' := by
  induction h with
  | refl => exact List.prefix_refl _
  | @step n' _ ih =>
    rw [told_succ, List.append_assoc]
    exact ih.trans (List.prefix_append ..)

/-- The answers in a fan-out over nodes are those of a script. -/
def Follows (m : Monitors) (script : String → Nat → Conduct) (names : List String)
    (events : List (Event Happening)) : Prop :=
  ∀ i node, names[i]? = some node → ∃ n, heard i events <+: told m (script node) n

/-- Events that go by a script: the answers are those of the script, the run is not cancelled, and
no task breaks down. -/
structure ByScript (m : Monitors) (script : String → Nat → Conduct) (names : List String)
    (events : List (Event Happening)) : Prop where
  follows : Follows m script names events
  uncancelled : Event.cancel ∉ events
  uncrashed : ¬Crashed events

/-- Where answers are left, the next one that is given is the first of them. -/
theorem left_eq_cons {m : Monitors} {script : Nat → Conduct} {given left : List Answer} {a : Answer}
    {k n : Nat} (next : given ++ [a] <+: told m script n)
    (split : given ++ left = told m script k ++ (script k).answers m) (hne : left ≠ []) :
    ∃ rest, left = a :: rest := by
  have hnext : given ++ [a] <+: told m script (max n (k + 1)) :=
    next.trans (told_mono (Nat.le_max_left ..))
  have hleft : given ++ left <+: told m script (max n (k + 1)) := by
    refine List.IsPrefix.trans ?_ (told_mono (Nat.le_max_right ..))
    rw [split, told_succ]
    exact List.prefix_append ..
  obtain ⟨behind, hbehind⟩ := hnext
  obtain ⟨after, hafter⟩ := hleft
  obtain ⟨b, rest, rfl⟩ := List.exists_cons_of_ne_nil hne
  have heq : a = b ∧ behind = rest ++ after := by simpa using hbehind.trans hafter.symm
  exact ⟨rest, by rw [heq.1]⟩

/-! ### Courses -/

/-- The course of a task under a policy: what it meets in each attempt, and the file that it
streams to. -/
structure Course (work : Work) (node : String) where
  policy : RetryPolicy
  retried : work.policy = some policy
  path : String
  streams : (work.job node).path? = some path
  /-- Where the path leads. -/
  place : Location
  script : Nat → Conduct

namespace Course

variable {work : Work} {node : String} (c : Course work node)

/-- What an attempt fails of, if it does. -/
def error? (k : Nat) : Option Error :=
  (c.script k).error? work.monitors (work.job node) node c.path

/-- Whether the call of an attempt is taken. -/
def isTaken (k : Nat) : Bool := (c.script k).isTaken work.monitors

/-- The chunks that an attempt receives. -/
def received (k : Nat) : List ByteArray := (c.script k).received work.monitors

/-- What a task comes to whose last attempt is this one. -/
def outcomeAt (k : Nat) : Except Error Unit :=
  match c.error? k with
  | none => .ok ()
  | some error =>
    .error (.retryExhausted work.operation node (UInt32.ofNat c.policy.limit) error)

/-- How many attempts the task makes. -/
def attempts : Nat := attemptsUpTo c.policy.limit fun k => (c.error? k).isNone

/-- What the task comes to. -/
def outcome : Except Error Unit := c.outcomeAt (c.attempts - 1)

variable {c} in
theorem attempts_eq {k : Nat} (within : k < c.policy.limit) (failed : ∀ j < k, c.error? j ≠ none)
    (last : c.error? k = none ∨ k + 1 = c.policy.limit) : c.attempts = k + 1 := by
  refine attemptsUpTo_eq within (fun j hj => ?_) (last.imp_left fun h => by rw [h]; rfl)
  exact Option.isNone_eq_false_iff.2 (Option.isSome_iff_ne_none.2 (failed j hj))

/-- A task with a clean attempt succeeds. -/
theorem outcome_of_clean (h : ∃ k < c.policy.limit, c.error? k = none) : c.outcome = .ok () := by
  classical
  have within := (Nat.find_spec h).1
  have clean := (Nat.find_spec h).2
  have failed : ∀ j < Nat.find h, c.error? j ≠ none := by
    intro j hj hclean
    exact Nat.find_min h hj ⟨Nat.lt_trans hj within, hclean⟩
  rw [outcome, attempts_eq within failed (.inl clean), Nat.add_sub_cancel, outcomeAt, clean]

/-- A task without one fails of its last attempt. -/
theorem outcome_of_failed (h : ∀ k < c.policy.limit, c.error? k ≠ none) :
    ∃ last, c.error? (c.policy.limit - 1) = some last ∧
      c.outcome = .error
        (.retryExhausted work.operation node (UInt32.ofNat c.policy.limit) last) := by
  have positive : 1 ≤ c.policy.limit := Nat.le_max_left ..
  have within : c.policy.limit - 1 < c.policy.limit := by omega
  have failed : ∀ j < c.policy.limit - 1, c.error? j ≠ none :=
    fun j hj => h j (Nat.lt_trans hj within)
  obtain ⟨last, hlast⟩ := Option.ne_none_iff_exists'.1 (h _ within)
  refine ⟨last, hlast, ?_⟩
  rw [outcome, attempts_eq within failed (.inr (Nat.sub_add_cancel positive)), Nat.add_sub_cancel,
    outcomeAt, hlast]

/-- A task fails just if it has no clean attempt, and then of the last one. -/
theorem outcome_eq_error_iff (error : Error) : c.outcome = .error error ↔
    (∀ k < c.policy.limit, c.error? k ≠ none) ∧
      ∃ last, c.error? (c.policy.limit - 1) = some last ∧
        error = .retryExhausted work.operation node (UInt32.ofNat c.policy.limit) last := by
  by_cases clean : ∃ k < c.policy.limit, c.error? k = none
  · rw [c.outcome_of_clean clean]
    obtain ⟨k, hk, hclean⟩ := clean
    constructor
    · rintro ⟨⟩
    · rintro ⟨none, -⟩
      exact absurd hclean (none k hk)
  · have none : ∀ k < c.policy.limit, c.error? k ≠ none :=
      fun k hk hclean => clean ⟨k, hk, hclean⟩
    obtain ⟨last, hlast, houtcome⟩ := c.outcome_of_failed none
    rw [houtcome]
    constructor
    · rintro ⟨⟩
      exact ⟨none, last, hlast, rfl⟩
    · rintro ⟨-, last', hlast', rfl⟩
      obtain rfl : last = last' := Option.some.inj (hlast.symm.trans hlast')
      rfl

/-- The answers of all attempts before this one and of this one. -/
def toldUpTo (k : Nat) : List Answer :=
  told work.monitors c.script k ++ (c.script k).answers work.monitors

/-- Where a task stands on its course, given some answers, after it began so many attempts. -/
inductive Stands (c : Course work node) : List Answer → Nat → Standing Task → Prop where
  /-- No attempt began. -/
  | idle : Stands c [] 0 (.running .idle)
  /-- An attempt is under way; all before it failed. -/
  | attempting {number : UInt32} {k : Nat} {stage : Attempt} {given left : List Answer}
      (counts : number.toNat = k + 1) (within : k < c.policy.limit)
      (failed : ∀ j < k, c.error? j ≠ none)
      (awaits : (c.script k).Awaits work.monitors node c.path c.place stage left)
      (split : given ++ left = c.toldUpTo k) :
      Stands c given (k + 1) (.running (.attempting number stage))
  /-- An attempt failed, and another one follows. -/
  | pausing {number : UInt32} {k : Nat} {given : List Answer} (counts : number.toNat = k + 1)
      (within : k + 1 < c.policy.limit) (failed : ∀ j ≤ k, c.error? j ≠ none)
      (all : given = c.toldUpTo k) : Stands c given (k + 1) (.running (.pausing number))
  /-- An attempt was the last one. -/
  | finished {k : Nat} {given : List Answer} (within : k < c.policy.limit)
      (failed : ∀ j < k, c.error? j ≠ none) (last : c.error? k = none ∨ k + 1 = c.policy.limit)
      (all : given = c.toldUpTo k) : Stands c given (k + 1) (.over (c.outcomeAt k))

/-! ### Steps -/

variable {c}

theorem Stands.begin {given : List Answer} {number : UInt32} {k : Nat} (w : World)
    (counts : number.toNat = k + 1) (within : k < c.policy.limit)
    (failed : ∀ j < k, c.error? j ≠ none) (all : given = told work.monitors c.script k) :
    c.Stands given (k + 1) (.running (Task.attempt work node number w).2) :=
  .attempting counts within failed (Conduct.awaits_start ..) (by rw [all, toldUpTo])

theorem limit_lt (p : RetryPolicy) : p.limit < UInt32.size := by
  have := p.maxAttempts.toNat_lt_size
  unfold RetryPolicy.limit
  exact Nat.max_lt.2 ⟨by decide, this⟩

theorem Stands.of_over {given : List Answer} {begun : Nat} {outcome : Except Error Unit}
    (h : c.Stands given begun (.over outcome)) :
    begun = c.attempts ∧ given = c.toldUpTo (c.attempts - 1) ∧ outcome = c.outcome := by
  cases h with
  | finished within failed last all =>
    rw [outcome, attempts_eq within failed last]
    exact ⟨rfl, all, rfl⟩

/-- What follows an attempt that came to what its conduct comes to. -/
theorem Stands.attempted {given : List Answer} {number : UInt32} {k : Nat} {w : World}
    {result : Except Error UInt64} (counts : number.toNat = k + 1) (within : k < c.policy.limit)
    (failed : ∀ j < k, c.error? j ≠ none) (honest : c.error? k ≠ some .cancelled)
    (all : given = c.toldUpTo k) (came : c.error? k = failure? result) :
    c.Stands given (k + 1) (Task.attempted work node number w result).2.standing := by
  unfold Task.attempted
  rw [c.retried]
  cases result with
  | ok written =>
    have ends : c.outcomeAt k = .ok () := by
      rw [outcomeAt, came]
      rfl
    have stands : c.Stands given _ (.over (c.outcomeAt k)) := .finished within failed (.inl came) all
    rw [ends] at stands
    exact stands
  | error error =>
    have uncancelled : error.isCancelled = false := by
      cases error with
      | cancelled => exact absurd came honest
      | _ => rfl
    simp only [RetryPolicy.judge, uncancelled, Bool.false_eq_true, if_false]
    have hlimit := limit_lt c.policy
    by_cases last : c.policy.maxAttempts ≤ number
    · have hk : k + 1 = c.policy.limit := by
        rw [UInt32.le_iff_toNat_le] at last
        unfold RetryPolicy.limit at within ⊢
        omega
      have hnumber : number = UInt32.ofNat c.policy.limit := by
        rw [← UInt32.toNat_inj, UInt32.toNat_ofNat_of_lt' hlimit, counts, hk]
      have ends : c.outcomeAt k = .error (.retryExhausted work.operation node number error) := by
        rw [outcomeAt, came, ← hnumber]
        rfl
      rw [if_pos last]
      have stands : c.Stands given _ (.over (c.outcomeAt k)) := .finished within failed (.inr hk) all
      rw [ends] at stands
      exact stands
    · have hk : k + 1 < c.policy.limit := by
        rw [UInt32.le_iff_toNat_le] at last
        unfold RetryPolicy.limit
        omega
      rw [if_neg last]
      refine .pausing counts hk ?_ all
      intro j hj
      rcases Nat.lt_or_eq_of_le hj with hj | rfl
      · exact failed j hj
      · rw [came]
        exact Option.some_ne_none _

/-- What a step of a task does to the files. -/
def TakesIn (tree later : Tree) (place : Location) (x : Happening) : Prop :=
  match x with
  | .answer a => Tree.Takes tree later place a
  | _ => later = tree

/-- **A step of a task** leads to where its script says. -/
theorem Stands.goes {given : List Answer} {begun : Nat} {task : Task} {x : Happening}
    {p : Progress Task UInt64} {w w' : World} (h : c.Stands given begun (.running task))
    (step : Task.Goes work node w task x w' p) (leads : w.tree.place? c.path = some c.place)
    (present : task.isReceiving = true → (w.tree.content? c.place).isSome = true)
    (uncancelled : w.isCancelled work.run = false)
    (honest : ∀ k < c.policy.limit, c.error? k ≠ some .cancelled)
    (hear : ∀ a, x = .answer a → ∃ n, given ++ [a] <+: told work.monitors c.script n) :
    (∃ more, c.Stands (given ++ x.answer?.toList) (begun + more) p.standing ∧
      w'.lookups node = w.lookups node + more) ∧
    TakesIn w.tree w'.tree c.place x ∧
    ∀ task', p = .waiting task' → task'.isReceiving = true →
      (w'.tree.content? c.place).isSome = true := by
  cases step with
  | begins =>
    cases h with
    | idle =>
      have hpos : 0 < c.policy.limit := by
        unfold RetryPolicy.limit
        omega
      refine ⟨⟨1, Stands.begin w rfl hpos (fun _ hj => absurd hj (Nat.not_lt_zero _)) rfl, ?_⟩,
        Task.tree_attempt .., ?_⟩
      · rw [Task.lookups_attempt, if_pos rfl]
      · rintro _ ⟨⟩ hreceiving
        cases hreceiving
  | @resumes number =>
    cases h with
    | @pausing _ k _ counts within failed all =>
      have hlimit := limit_lt c.policy
      have hnext : (number + 1).toNat = k + 1 + 1 := by
        rw [UInt32.toNat_add, counts, UInt32.toNat_one]
        exact Nat.mod_eq_of_lt (Nat.lt_of_le_of_lt within hlimit)
      refine ⟨⟨1, Stands.begin w hnext within (fun j hj => failed j (Nat.le_of_lt_succ hj)) ?_, ?_⟩,
        .same rfl (Task.tree_attempt ..), ?_⟩
      · rw [told_succ, all]
        rfl
      · rw [Task.lookups_attempt, if_pos rfl]
      · rintro _ ⟨⟩ hreceiving
        cases hreceiving
  | @continues number stage stage' a w' step =>
    cases h with
    | @attempting _ k _ _ left counts within failed awaits split =>
      obtain ⟨n, hn⟩ := hear a rfl
      obtain ⟨rest, rfl⟩ := left_eq_cons hn split awaits.ne_nil
      obtain ⟨awaits', takes, present'⟩ := awaits.goes_on c.streams leads present step
      refine ⟨⟨0, .attempting counts within failed awaits' ?_, step.lookups node⟩, takes, ?_⟩
      · rw [← split]
        simp [Happening.answer?]
      · rintro _ ⟨⟩ hreceiving
        exact present' hreceiving
  | @attempted number stage a w' result step =>
    cases h with
    | @attempting _ k _ _ left counts within failed awaits split =>
      obtain ⟨n, hn⟩ := hear a rfl
      obtain ⟨rest, rfl⟩ := left_eq_cons hn split awaits.ne_nil
      obtain ⟨rfl, quiet, htree, came⟩ := awaits.ends c.streams leads present step
      refine ⟨⟨0, Stands.attempted counts within failed (honest k within) split came, ?_⟩,
        .same quiet ((Task.tree_attempted ..).trans htree), ?_⟩
      · rw [Task.lookups_attempted]
        exact step.lookups node
      · intro task' hp hreceiving
        rw [Task.isReceiving_of_attempted hp] at hreceiving
        cases hreceiving
  | withdraws _ cancelled =>
    rw [uncancelled] at cancelled
    cases cancelled

end Course

end MonitorFleet
