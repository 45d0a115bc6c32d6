import MonitorFleet.Proofs.FanOut.Tallies
import MonitorFleet.Proofs.Task.Counting
import MonitorFleet.Proofs.Task.Scripted
import MonitorFleet.Proofs.Transfer.Appending

/-!
# Streams that were written in full

Whether a task succeeded can be told from outside: from the answers that it found, each with the tree
as it was then. An answer that takes the call opens the file of the task, each chunk goes to this file
in blocks, and the stream is written in full if its end comes while the file is open and has taken all
blocks (`WritesWhole`). What the task keeps of its transfer does not come into this.

## What is proved

* `member_induction`: what is kept by the moves of a member is known of it all along a fan-out.
* `Attempt.Goes.writes`, `Task.Goes.writes`: a step of an attempt and of a task.
* `succeeds_iff_writesWhole`: a node whose task streams succeeded if and only if its stream was
  written in full.
* `succeeds_iff_acknowledged`: a node whose task only calls succeeded if and only if its monitor took
  the call.
* `attemptsOf_le`: a node is not attempted more often than the policy allows.
-/

namespace MonitorFleet

open FanOut (Event Standing)

namespace FanOut

variable {ω τ ε : Type} {op : Operation ω τ ε} {names : List String} {events : List (Event ε)}
  {w : ω} {f : FanOut ω τ} {i : Nat} {node : String}

/-- What the moves of a member keep is known of it at the end of a fan-out over different nodes. -/
theorem member_induction (distinct : names.Nodup) (h : (start op names w).run op events = some f)
    {P : List (Event ε) → Standing τ → Prop} {s₀ : Standing τ} (stands : Stands (start op names w) i node s₀)
    (begins : P [] s₀)
    (still : ∀ {before e g s}, (start op names w).run op before = some g → e.mover? ≠ some i →
      P before s → P (before ++ [e]) s)
    (own : ∀ {before e g task w' s}, (start op names w).run op before = some g →
      Moves op i node g.world task e w' s → P before (.running task) → P (before ++ [e]) s) :
    ∃ s, Stands f i node s ∧ P events s := by
  refine run_induction h (P := fun before g => ∃ s, Stands g i node s ∧ P before s)
    ⟨s₀, stands, begins⟩ ?_
  intro before e after g g' _ hrun known hap
  obtain ⟨s, hs, hP⟩ := known
  have distinct' : g.nodes.Nodup := by rwa [nodes_of_run hrun, nodes_start]
  rcases hs.happens distinct' hap with ⟨moved, hs'⟩ | ⟨task, s', rfl, move, hs'⟩
  · exact ⟨s, hs', still hrun moved hP⟩
  · exact ⟨s', hs', own hrun move hP⟩

end FanOut

/-! ### What a task finds -/

/-- What an answer brings to the task that it is for. -/
def Happening.brings (tree : Tree) : Happening → List (Answer × Tree)
  | .answer a => [(a, tree)]
  | _ => []

/-- What the task of a member finds at an event. -/
def finds {τ : Type} (i : Nat) (f : FanOut World τ) : Event Happening → List (Answer × Tree)
  | .advance j x => if j = i then x.brings f.world.tree else []
  | _ => []

/-- What the task of a member finds along a fan-out: the answers, each with the tree as it was
then. -/
def found {τ : Type} (op : Operation World τ Happening) (i : Nat) (f : FanOut World τ)
    (events : List (Event Happening)) : List (Answer × Tree) :=
  FanOut.observed op (finds i) f events

theorem finds_of_mover? {τ : Type} {f : FanOut World τ} {i : Nat} {e : Event Happening}
    (still : e.mover? ≠ some i) : finds i f e = [] := by
  cases e with
  | advance j x =>
    have hji : j ≠ i := fun h => still (congrArg some h)
    exact if_neg hji
  | _ => rfl

/-- Where a stream goes to after an answer: an answer that takes the call opens the file at a path,
and a chunk goes there as long as all of its blocks are taken. -/
def writingTo (path : String) (at? : Option Location) : Answer × Tree → Option Location
  | (.reply (.ok ()), tree) => (tree.openFile path).toOption.map (·.1)
  | (.chunk data, tree) => at?.filter fun place =>
    (Tree.disk.writeAll place tree (Transfer.blocks data)).1.isOk
  | _ => none

/-- Where a stream goes to after some answers. -/
def writing? (path : String) (given : List (Answer × Tree)) : Option Location :=
  given.foldl (writingTo path) none

/-- That a stream was written in full in one of the attempts: a call was taken, the file was
opened, all blocks of the chunks were taken, and the stream came to its end. -/
def WritesWhole (path : String) (given : List (Answer × Tree)) : Prop :=
  ∃ before tree after place, given = before ++ (.ended, tree) :: after ∧
    writing? path before = some place

section

variable {path : String} {given : List (Answer × Tree)} {a : Answer} {tree : Tree}

theorem writing?_concat (path : String) (given : List (Answer × Tree)) (x : Answer × Tree) :
    writing? path (given ++ [x]) = writingTo path (writing? path given) x :=
  List.foldl_concat ..

theorem not_writesWhole_nil (path : String) : ¬ WritesWhole path [] := by
  rintro ⟨before, tree, after, place, split, -⟩
  cases before <;> cases split

/-- One more answer completes a stream if it is its end, or else changes nothing about it. -/
theorem writesWhole_concat : WritesWhole path (given ++ [(a, tree)]) ↔
    WritesWhole path given ∨ (a = .ended ∧ (writing? path given).isSome = true) := by
  constructor
  · rintro ⟨before, tree', after, place, split, writing⟩
    induction after using List.reverseRecOn with
    | nil =>
      obtain ⟨rfl, heq⟩ := List.append_inj' split rfl
      cases heq
      exact .inr ⟨rfl, by rw [writing]; rfl⟩
    | append_singleton after x _ =>
      refine .inl ⟨before, tree', after, place, ?_, writing⟩
      rw [← List.cons_append, ← List.append_assoc] at split
      exact (List.append_inj' split rfl).1
  · rintro (⟨before, tree', after, place, rfl, writing⟩ | ⟨rfl, writing⟩)
    · exact ⟨before, tree', after ++ [(a, tree)], place, by simp, writing⟩
    · obtain ⟨place, writing⟩ := Option.isSome_iff_exists.1 writing
      exact ⟨given, tree, [], place, rfl, writing⟩

end

/-! ### Attempts -/

section

variable {m : Monitors} {run : RunToken} {job : Job} {node path : String} {w w' : World}
  {stage : Attempt} {a : Answer} {at? : Option Location} {t t' : Transfer} {tree later : Tree}
  {data : ByteArray}

/-- Where a transfer goes to, unless a block was refused. -/
def Transfer.goesTo (t : Transfer) : Option Location :=
  if t.refused = none then some t.place else none

/-- What dialing waits for opens nothing, and ends no stream. -/
theorem writingTo_of_dials (dials : a.dials = true) :
    writingTo path at? (a, tree) = none ∧ a ≠ .ended := by
  cases a with
  | address _ => exact ⟨rfl, nofun⟩
  | pod _ => exact ⟨rfl, nofun⟩
  | localPort _ => exact ⟨rfl, nofun⟩
  | connected _ => exact ⟨rfl, nofun⟩
  | _ => cases dials

/-- What an attempt keeps agrees with where its stream goes to. -/
def Attempt.Writes (path : String) (at? : Option Location) : Attempt → Prop
  | .receiving _ t => t.path = path ∧ at? = t.goesTo
  | _ => at? = none

/-- What becomes of a transfer with a chunk. It goes on where it went if all blocks are taken; else
a block was refused, be it that this shows or not. -/
theorem Transfer.goesTo_of_chunk {result : Except Error Transfer} (path : String)
    (h : t.chunk tree data = (result, later)) :
    (∃ t', result = .ok t' ∧ t'.path = t.path ∧
      t'.goesTo = writingTo path t.goesTo (.chunk data, tree)) ∨
    (∃ error, result = .error error ∧ writingTo path t.goesTo (.chunk data, tree) = none) := by
  obtain ⟨tpath, place, written, refused⟩ := t
  have copied := Transfer.chunk_toCopy ⟨tpath, place, written, refused⟩ tree data
  rw [h, Disk.chunk, Transfer.toCopy] at copied
  -- What the copy comes to tells what the transfer comes to.
  have ends : ∀ {c : Disk.Copy Location} {s : Tree}, (.ok c, s) = (result.map Transfer.toCopy, later) →
      ∃ t', result = .ok t' ∧ t'.path = c.path ∧ t'.place = c.file ∧ t'.refused = c.refused := by
    intro c s same
    cases result with
    | error error => cases same
    | ok t' =>
      cases same
      exact ⟨t', rfl, rfl, rfl, rfl⟩
  have fails : ∀ {error : Error} {s : Tree}, (.error error, s) = (result.map Transfer.toCopy, later) →
      ∃ error, result = .error error := by
    intro error s same
    cases result with
    | error error => exact ⟨error, rfl⟩
    | ok t' => cases same
  cases refused with
  | none =>
    cases taken : Tree.disk.writeAll place tree (Transfer.blocks data) with
    | mk outcome s =>
      have goes : writingTo path (some place) (.chunk data, tree) =
          if outcome.isOk then some place else none := by
        rw [writingTo, Option.filter_some, taken]
      cases outcome with
      | ok _ =>
        rw [Disk.blocksIn_of_taken rfl taken] at copied
        obtain ⟨t', rfl, hpath, hplace, hrefused⟩ := ends copied
        refine .inl ⟨t', rfl, hpath, ?_⟩
        rw [Transfer.goesTo, hplace, hrefused]
        exact goes.symm
      | error fault =>
        rcases Disk.blocksIn_of_refused (c := ⟨tpath, place, written, none⟩) rfl taken with shows_ | pending
        · rw [shows_] at copied
          obtain ⟨error, rfl⟩ := fails copied
          exact .inr ⟨error, rfl, goes⟩
        · rw [pending] at copied
          obtain ⟨t', rfl, hpath, hplace, hrefused⟩ := ends copied
          refine .inl ⟨t', rfl, hpath, ?_⟩
          rw [Transfer.goesTo, hrefused]
          exact goes.symm
  | some fault =>
    cases hblocks : Transfer.blocks data with
    | nil =>
      rw [hblocks] at copied
      obtain ⟨t', rfl, hpath, hplace, hrefused⟩ := ends copied
      refine .inl ⟨t', rfl, hpath, ?_⟩
      rw [Transfer.goesTo, hrefused]
      rfl
    | cons first parts =>
      rw [hblocks] at copied
      obtain ⟨error, rfl⟩ := fails copied
      exact .inr ⟨error, rfl, rfl⟩

/-- What an attempt does with an answer shows where its stream goes to then, and whether the
attempt succeeds. -/
theorem Attempt.Goes.writes {p : Progress Attempt UInt64} (streams : job.path? = some path)
    (step : Attempt.Goes m run job node w stage a w' p) (h : stage.Writes path at?) :
    match p with
    | .waiting stage' => stage'.Writes path (writingTo path at? (a, w.tree)) ∧
        ¬ (a = .ended ∧ at?.isSome = true)
    | .finished result => writingTo path at? (a, w.tree) = none ∧
        (result.isOk = true ↔ a = .ended ∧ at?.isSome = true) := by
  cases step with
  | dials step =>
    obtain ⟨none, unended⟩ := writingTo_of_dials step.dials.1
    exact ⟨none, fun both => unended both.1⟩
  | undialed step =>
    obtain ⟨none, unended⟩ := writingTo_of_dials step.dials.1
    exact ⟨none, iff_of_false Bool.false_ne_true fun both => unended both.1⟩
  | calls step =>
    obtain ⟨none, unended⟩ := writingTo_of_dials step.dials.1
    exact ⟨none, fun both => unended both.1⟩
  | refused => exact ⟨rfl, iff_of_false Bool.false_ne_true fun both => by cases both.1⟩
  | acknowledged silent =>
    rw [streams] at silent
    cases silent
  | unopened streams' hstart =>
    cases streams.symm.trans streams'
    rw [Transfer.start] at hstart
    split at hstart
    · next fault hopen =>
      refine ⟨?_, iff_of_false Bool.false_ne_true fun both => by cases both.1⟩
      rw [writingTo, hopen]
      rfl
    · cases hstart
  | opened streams' hstart =>
    cases streams.symm.trans streams'
    rw [Transfer.start] at hstart
    split at hstart
    · cases hstart
    · next place tree hopen =>
      cases hstart
      refine ⟨⟨rfl, ?_⟩, fun both => by cases both.1⟩
      rw [writingTo, hopen]
      rfl
  | @takes connection transfer transfer' data tree taken =>
    obtain ⟨hpath, rfl⟩ := h
    refine ⟨?_, fun both => by cases both.1⟩
    rcases Transfer.goesTo_of_chunk path taken with ⟨t', heq, hpath', goes⟩ | ⟨error, heq, -⟩
    · cases heq
      exact ⟨hpath'.trans hpath, goes.symm⟩
    · cases heq
  | chokes refused =>
    obtain ⟨-, rfl⟩ := h
    rcases Transfer.goesTo_of_chunk path refused with ⟨t', heq, -⟩ | ⟨error, -, goes⟩
    · cases heq
    · exact ⟨goes, iff_of_false Bool.false_ne_true fun both => by cases both.1⟩
  | broken => exact ⟨rfl, iff_of_false Bool.false_ne_true fun both => by cases both.1⟩
  | @unfinished connection transfer error refused =>
    obtain ⟨-, rfl⟩ := h
    refine ⟨rfl, iff_of_false Bool.false_ne_true fun both => ?_⟩
    have pending := both.2
    unfold Transfer.goesTo at pending
    unfold Transfer.finish at refused
    cases hrefused : transfer.refused with
    | none => simp [hrefused] at refused
    | some fault => simp [hrefused] at pending
  | @finishes connection transfer written finish =>
    obtain ⟨-, rfl⟩ := h
    refine ⟨rfl, ⟨fun _ => ⟨rfl, ?_⟩, fun _ => rfl⟩⟩
    unfold Transfer.goesTo
    unfold Transfer.finish at finish
    cases hrefused : transfer.refused with
    | none => rfl
    | some fault => simp [hrefused] at finish

end

/-! ### Tasks -/

section

variable {work : Work} {node path : String} {w w' : World} {given : List (Answer × Tree)}

/-- What is known of a task that streams, by what it found: where its stream goes to while it runs,
and in the end whether its stream was written in full. -/
def Task.Writes (path : String) (given : List (Answer × Tree)) : Standing Task → Prop
  | .running (.attempting _ stage) =>
    stage.Writes path (writing? path given) ∧ ¬ WritesWhole path given
  | .running _ => writing? path given = none ∧ ¬ WritesWhole path given
  | .over outcome => outcome.isOk = true ↔ WritesWhole path given

theorem Task.Writes.incomplete {task : Task} (h : Task.Writes path given (.running task)) :
    ¬ WritesWhole path given := by
  cases task with
  | idle => exact h.2
  | attempting n stage => exact h.2
  | pausing n => exact h.2

theorem Task.Writes.givenUp {task : Task} {error : Error}
    (h : Task.Writes path given (.running task)) :
    Task.Writes path given (.over (.error error)) :=
  ⟨nofun, fun whole => absurd whole h.incomplete⟩

theorem Task.writes_attempt (none : writing? path given = none) (incomplete : ¬ WritesWhole path given)
    (work : Work) (node : String) (n : UInt32) (w : World) :
    Task.Writes path given (.running (Task.attempt work node n w).2) := by
  unfold Task.attempt
  split <;> exact ⟨none, incomplete⟩

/-- The end of an attempt is that of the task if it succeeded, and else there may be another one. -/
theorem Task.standing_attempted (work : Work) (node : String) (n : UInt32) (w : World)
    (result : Except Error UInt64) :
    (∃ outcome, (Task.attempted work node n w result).2.standing = .over outcome ∧
      (outcome.isOk = true ↔ result.isOk = true)) ∨
    (∃ policy, work.policy = some policy ∧ n < policy.maxAttempts ∧ result.isOk = false ∧
      (Task.attempted work node n w result).2.standing = .running (.pausing n)) := by
  unfold Task.attempted
  split
  · refine .inl ⟨_, rfl, ?_⟩
    cases result <;> rfl
  · next policy retried =>
    cases result with
    | ok written => exact .inl ⟨_, rfl, Iff.rfl⟩
    | error error =>
      simp only [RetryPolicy.judge]
      by_cases cancelled : error.isCancelled = true
      · rw [if_pos cancelled]
        exact .inl ⟨_, rfl, Iff.rfl⟩
      · rw [if_neg cancelled]
        by_cases spent : policy.maxAttempts ≤ n
        · rw [if_pos spent]
          exact .inl ⟨_, rfl, Iff.rfl⟩
        · rw [if_neg spent]
          exact .inr ⟨policy, retried, UInt32.not_le.1 spent, rfl, rfl⟩

/-- A step of a task keeps what is known of it. -/
theorem Task.Goes.writes {task : Task} {x : Happening} {p : Progress Task UInt64}
    (streams : (work.job node).path? = some path) (step : Task.Goes work node w task x w' p)
    (h : Task.Writes path given (.running task)) :
    Task.Writes path (given ++ x.brings w.tree) p.standing := by
  cases step with
  | begins =>
    have same : given ++ Happening.brings w.tree .begun = given := List.append_nil given
    rw [same]
    exact Task.writes_attempt h.1 h.2 ..
  | resumes =>
    refine Task.writes_attempt ?_ ?_ ..
    · rw [Happening.brings, writing?_concat]
      rfl
    · rw [Happening.brings, writesWhole_concat]
      rintro (whole | ⟨ended, -⟩)
      · exact h.incomplete whole
      · cases ended
  | @continues n stage stage' a _ step =>
    obtain ⟨goes, uncompleted⟩ := step.writes streams h.1
    rw [Happening.brings]
    refine ⟨?_, ?_⟩
    · rw [writing?_concat]
      exact goes
    · rw [writesWhole_concat]
      rintro (whole | completed)
      · exact h.incomplete whole
      · exact uncompleted completed
  | @attempted n stage a w₁ result step =>
    obtain ⟨stops, completes⟩ := step.writes streams h.1
    have known : WritesWhole path (given ++ [(a, w.tree)]) ↔ result.isOk = true := by
      rw [writesWhole_concat, completes]
      exact or_iff_right h.incomplete
    rw [Happening.brings]
    rcases Task.standing_attempted work node n w₁ result with
      ⟨outcome, ended, same⟩ | ⟨_, -, -, failed, again⟩
    · rw [ended]
      exact same.trans known.symm
    · rw [again]
      refine ⟨?_, ?_⟩
      · rw [writing?_concat]
        exact stops
      · rw [known, failed]
        exact Bool.false_ne_true
  | withdraws _ _ =>
    have same : given ++ Happening.brings w.tree .withdrawn = given := List.append_nil given
    rw [same]
    exact h.givenUp

variable {spans : List Span} {names : List String} {events : List (Event Happening)}
  {f : FanOut World Task} {i : Nat}

theorem found_concat {f₀ g : FanOut World Task} {before : List (Event Happening)}
    (hrun : f₀.run (work.fanOut spans) before = some g) (i : Nat) (e : Event Happening) :
    found (work.fanOut spans) i f₀ (before ++ [e]) =
      found (work.fanOut spans) i f₀ before ++ finds i g e :=
  FanOut.observed_concat hrun e

/-- **A node whose task streams succeeded if and only if its stream was written in full**, in one of
its attempts. -/
theorem succeeds_iff_writesWhole (distinct : names.Nodup) (hi : names[i]? = some node)
    (streams : (work.job node).path? = some path)
    (h : (FanOut.start (work.fanOut spans) names w).run (work.fanOut spans) events = some f)
    (isOver : f.isOver = true) :
    f.report.get? node = some (.ok ()) ↔ WritesWhole path
      (found (work.fanOut spans) i (FanOut.start (work.fanOut spans) names w) events) := by
  have begins : Task.Writes path [] (.running .idle) := ⟨rfl, not_writesWhole_nil path⟩
  obtain ⟨s, hs, known⟩ := FanOut.member_induction distinct h
    (P := fun before s => Task.Writes path
      (found (work.fanOut spans) i (FanOut.start (work.fanOut spans) names w) before) s)
    (work.stands_start spans w hi) begins
    (by
      intro before e g s hrun still known
      rwa [found_concat hrun, finds_of_mover? still, List.append_nil])
    (by
      intro before e g task w' s hrun move known
      rw [found_concat hrun]
      cases Work.moves_of_moves move with
      | @goes x _ _ step =>
        rw [finds, if_pos rfl]
        exact step.writes streams known
      | interrupted _ =>
        have nothing : finds i g (.interrupt i) = [] := rfl
        rw [nothing, List.append_nil]
        exact known.givenUp
      | @breaks reason =>
        have nothing : finds i g (.crash i reason) = [] := rfl
        rw [nothing, List.append_nil]
        exact known.givenUp)
  obtain ⟨outcome, rfl, recorded⟩ := hs.recorded isOver
  have completed : outcome.isOk = true ↔ WritesWhole path
      (found (work.fanOut spans) i (FanOut.start (work.fanOut spans) names w) events) := known
  rw [recorded, ← completed, Option.some.injEq]
  cases outcome with
  | ok _ => exact ⟨fun _ => rfl, fun _ => rfl⟩
  | error error => exact ⟨nofun, nofun⟩

/-! ### Acknowledgements and attempts -/

/-- That the monitor of a member took a call. -/
def Acknowledged (i : Nat) (events : List (Event Happening)) : Prop :=
  .advance i (.answer (.reply (.ok ()))) ∈ events

theorem Happening.replies_true_iff {x : Happening} :
    x.replies true = true ↔ x = .answer (.reply (.ok ())) := by
  cases x with
  | answer a =>
    cases a with
    | reply result => cases result <;> simp [replies, Except.isOk, Except.toBool]
    | _ => simp [replies]
  | _ => simp [replies]

/-- What is known of a task that makes one attempt and streams nothing. -/
def Task.Silent (i : Nat) (before : List (Event Happening)) : Standing Task → Prop
  | .running task => task.isReceiving = false ∧ ¬ Acknowledged i before
  | .over outcome => outcome.isOk = true ↔ Acknowledged i before

theorem acknowledged_concat {before : List (Event Happening)} {e : Event Happening} :
    Acknowledged i (before ++ [e]) ↔
      Acknowledged i before ∨ e = .advance i (.answer (.reply (.ok ()))) := by
  rw [Acknowledged, List.mem_append, List.mem_singleton, eq_comm (a := e)]
  rfl

theorem acknowledged_concat_still {before : List (Event Happening)} {e : Event Happening}
    (still : e ≠ .advance i (.answer (.reply (.ok ())))) :
    Acknowledged i (before ++ [e]) ↔ Acknowledged i before := by
  rw [acknowledged_concat]
  exact or_iff_left still

/-- A move of a task that makes one attempt and streams nothing. -/
theorem Task.Silent.moves {task : Task} {before : List (Event Happening)} {e : Event Happening}
    {s : Standing Task} (single : work.policy = none) (silent : (work.job node).path? = none)
    (h : Task.Silent i before (.running task)) (move : work.Moves i node w task e w' s) :
    Task.Silent i (before ++ [e]) s := by
  obtain ⟨deaf, unanswered⟩ := h
  cases move with
  | @goes x _ p step =>
    obtain ⟨taken, waits⟩ := step.taken single silent deaf
    have now : Acknowledged i (before ++ [.advance i x]) ↔ p.succeeds = true := by
      rw [acknowledged_concat, ← taken, Happening.replies_true_iff, Event.advance.injEq]
      exact ⟨fun h => (h.resolve_left unanswered).2, fun h => .inr ⟨rfl, h⟩⟩
    cases p with
    | waiting task' => exact ⟨waits, fun h => Bool.false_ne_true (now.1 h)⟩
    | finished result =>
      refine Iff.trans ?_ now.symm
      cases result <;> exact Iff.rfl
  | interrupted _ =>
    have other : Event.interrupt i ≠ .advance i (Happening.answer (.reply (.ok ()))) := nofun
    exact ⟨nofun, fun h => absurd ((acknowledged_concat_still other).1 h) unanswered⟩
  | @breaks reason =>
    have other : Event.crash i reason ≠ .advance i (Happening.answer (.reply (.ok ()))) := nofun
    exact ⟨nofun, fun h => absurd ((acknowledged_concat_still other).1 h) unanswered⟩

/-- **A node whose task only calls succeeded if and only if its monitor took the call.** -/
theorem succeeds_iff_acknowledged (distinct : names.Nodup) (hi : names[i]? = some node)
    (single : work.policy = none) (silent : (work.job node).path? = none)
    (h : (FanOut.start (work.fanOut spans) names w).run (work.fanOut spans) events = some f)
    (isOver : f.isOver = true) :
    f.report.get? node = some (.ok ()) ↔ Acknowledged i events := by
  have begins : Task.Silent i [] (.running .idle) := ⟨rfl, List.not_mem_nil⟩
  obtain ⟨s, hs, known⟩ := FanOut.member_induction distinct h (P := Task.Silent i)
    (work.stands_start spans w hi) begins
    (by
      intro before e g s _ still known
      have other : e ≠ .advance i (.answer (.reply (.ok ()))) := by
        rintro rfl
        exact still rfl
      obtain task | outcome := s
      · exact ⟨known.1, fun h => known.2 ((acknowledged_concat_still other).1 h)⟩
      · exact Iff.trans known (acknowledged_concat_still other).symm)
    (fun _ move known => known.moves single silent (Work.moves_of_moves move))
  obtain ⟨outcome, rfl, recorded⟩ := hs.recorded isOver
  have completed : outcome.isOk = true ↔ Acknowledged i events := known
  rw [recorded, ← completed, Option.some.injEq]
  cases outcome with
  | ok _ => exact ⟨fun _ => rfl, fun _ => rfl⟩
  | error error => exact ⟨nofun, nofun⟩

/-- Whether an attempt of a member begins. -/
def beginsOf (i : Nat) : Event Happening → Bool
  | .advance j x => j == i && x.begins
  | _ => false

/-- How often a member was attempted. -/
def attemptsOf (i : Nat) (events : List (Event Happening)) : Nat := events.countP (beginsOf i)

theorem attemptsOf_concat (i : Nat) (before : List (Event Happening)) (e : Event Happening) :
    attemptsOf i (before ++ [e]) = attemptsOf i before + (beginsOf i e).toNat := by
  rw [attemptsOf, List.countP_append, List.countP_singleton]
  cases beginsOf i e <;> rfl

/-- What is known of a task by the number of its attempts so far. -/
def Task.Numbered (p : RetryPolicy) (attempts : Nat) : Standing Task → Prop
  | .running .idle => attempts = 0
  | .running (.attempting n _) => attempts = n.toNat ∧ attempts ≤ p.limit
  | .running (.pausing n) => attempts = n.toNat ∧ n < p.maxAttempts
  | .over _ => attempts ≤ p.limit

theorem Task.Numbered.le {p : RetryPolicy} {attempts : Nat} {s : Standing Task}
    (h : Task.Numbered p attempts s) : attempts ≤ p.limit := by
  unfold Task.Numbered at h
  split at h
  · rw [h]
    exact Nat.zero_le _
  · exact h.2
  · rw [h.1]
    exact (UInt32.le_of_lt h.2).trans (Nat.le_max_right ..)
  · exact h

theorem Task.numbered_attempt {p : RetryPolicy} {attempts : Nat} {n : UInt32} (number : attempts = n.toNat)
    (within : attempts ≤ p.limit) (work : Work) (node : String) (w : World) :
    Task.Numbered p attempts (.running (Task.attempt work node n w).2) := by
  unfold Task.attempt
  split <;> exact ⟨number, within⟩

theorem Task.Goes.numbered {p : RetryPolicy} {attempts : Nat} {task : Task} {x : Happening}
    {progress : Progress Task UInt64} (retried : work.policy = some p)
    (step : Task.Goes work node w task x w' progress)
    (h : Task.Numbered p attempts (.running task)) :
    Task.Numbered p (attempts + x.begins.toNat) progress.standing := by
  have within := h.le
  cases step with
  | begins =>
    obtain rfl : attempts = 0 := h
    have first : 1 ≤ p.limit := Nat.le_max_left ..
    exact Task.numbered_attempt (n := 1) rfl first ..
  | @resumes n =>
    obtain ⟨rfl, left⟩ := h
    have small : n.toNat + 1 ≤ p.maxAttempts.toNat := UInt32.lt_iff_toNat_lt.1 left
    have bound := p.maxAttempts.toNat_lt
    refine Task.numbered_attempt ?_ (small.trans (Nat.le_max_right ..)) ..
    rw [UInt32.toNat_add]
    exact (Nat.mod_eq_of_lt (small.trans_lt bound)).symm
  | continues step =>
    rw [step.underway]
    exact h
  | @attempted n stage a w₁ result step =>
    rw [step.underway]
    rcases Task.standing_attempted work node n w₁ result with
      ⟨outcome, ended, -⟩ | ⟨policy, known, left, -, again⟩
    · rw [ended]
      exact within
    · cases known.symm.trans retried
      rw [again]
      exact ⟨h.1, left⟩
  | withdraws _ _ => exact within

/-- A node is not attempted more often than the policy allows. -/
theorem attemptsOf_le {p : RetryPolicy} (distinct : names.Nodup) (hi : names[i]? = some node)
    (retried : work.policy = some p)
    (h : (FanOut.start (work.fanOut spans) names w).run (work.fanOut spans) events = some f) :
    attemptsOf i events ≤ p.limit := by
  have begins : Task.Numbered p (attemptsOf i []) (.running .idle) := rfl
  obtain ⟨s, -, known⟩ := FanOut.member_induction distinct h
    (P := fun before s => Task.Numbered p (attemptsOf i before) s)
    (work.stands_start spans w hi) begins
    (by
      intro before e g s _ still known
      have none : beginsOf i e = false := by
        cases e with
        | advance j x =>
          have other : j ≠ i := fun h => still (congrArg some h)
          rw [beginsOf, beq_eq_false_iff_ne.2 other, Bool.false_and]
        | _ => rfl
      rw [attemptsOf_concat, none]
      exact known)
    (by
      intro before e g task w' s _ move known
      rw [attemptsOf_concat]
      cases Work.moves_of_moves move with
      | @goes x _ _ step =>
        rw [beginsOf, beq_self_eq_true, Bool.true_and]
        exact step.numbered retried known
      | interrupted _ => exact known.le
      | breaks => exact known.le)
  exact known.le

end

end MonitorFleet
