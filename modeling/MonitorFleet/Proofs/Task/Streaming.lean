import MonitorFleet.Proofs.SystemInfo.Expected
import MonitorFleet.Proofs.Task.OnlyAttempt

/-!
# Streams that are received in a single attempt

Tasks with a single attempt stream side by side, each to a file of its own, while the run may be
cancelled and tasks may break down at any moment. What a node's file holds in the end is what it held
before and, behind it, the chunks that were heard of the node (`Streamed`): all that its monitor
streams if the task succeeded, and else the first part of it.

## What is proved

* `Streamed.kept`: what is known of a member that streams.
* `received_of_run`: what a fan-out that is over leaves in the file of each node, and what it reports.
-/

namespace MonitorFleet

open Course (TakesIn)
open FanOut (Event Standing)
open SystemInfo (withChunks)

variable {work : Work} {names : List String} {place : String → Location}
  {conduct : String → Conduct} {node : String} {base w w' : World} {i : Nat}
  {before : List (Event Happening)}

/-- The answers in a fan-out are those of what the monitors do: each node is given the first
answers of its conduct. -/
def Meets (m : Monitors) (conduct : String → Conduct) (names : List String)
    (events : List (Event Happening)) : Prop :=
  ∀ i node, names[i]? = some node → heard i events <+: (conduct node).answers m

/-- That the tasks of a fan-out can stream, each to a file of its own and in a single attempt. -/
structure StreamsApart (work : Work) (names : List String) (place : String → Location)
    (tree : Tree) : Prop where
  single : work.policy = none
  distinct : names.Nodup
  writable : ∀ node ∈ names, ∃ path, (work.job node).path? = some path ∧
    tree.place? path = some (place node)
  apart : ∀ node ∈ names, ∀ other ∈ names, place node = place other → node = other

/-! ### The content of a file -/

/-- The content of a file to which the chunks among answers were added, if a call was taken. -/
def withAnswers (old : Option ByteArray) (given : List Answer) : Option ByteArray :=
  withChunks old (given.any Answer.isTaken) (chunksOf given)

theorem chunksOf_of_quiet {given : List Answer} (quiet : given.any Answer.isTaken = false) :
    chunksOf given = [] := by
  rw [List.any_eq_false] at quiet
  refine List.filterMap_eq_nil_iff.2 fun a ha => ?_
  cases a with
  | chunk data => exact absurd rfl (quiet _ ha)
  | _ => rfl

/-- An answer adds what it brings. -/
theorem Tree.Takes.withAnswers {tree later : Tree} {place : Location} {a : Answer}
    {old : Option ByteArray} {given : List Answer} (h : Tree.Takes tree later place a)
    (held : tree.content? place = withAnswers old given) :
    later.content? place = MonitorFleet.withAnswers old (given ++ [a]) := by
  have reply : chunksOf [.reply (.ok ())] = [] := rfl
  have chunk : ∀ data, chunksOf [.chunk data] = [data] := fun _ => rfl
  unfold MonitorFleet.withAnswers withChunks at held ⊢
  rw [List.any_append, chunksOf_append]
  cases h with
  | same quiet unchanged =>
    have silent : [a].any Answer.isTaken = false := by simpa using quiet
    simp [unchanged, held, quiet, chunksOf_of_quiet silent]
  | opened filled =>
    rw [content?_of_get? filled.self, held]
    cases taken : given.any Answer.isTaken with
    | true => simp [reply]
    | false => simp [Answer.isTaken, chunksOf_of_quiet taken, reply]
  | @grown data content held' filled =>
    rw [content?_of_get? filled.self]
    rw [held'] at held
    cases taken : given.any Answer.isTaken with
    | true =>
      rw [taken, if_pos rfl, Option.some_inj] at held
      simp [held, chunk, ByteArray.append_assoc]
    | false =>
      rw [taken, if_neg Bool.false_ne_true] at held
      simp [← held, Answer.isTaken, chunksOf_of_quiet taken, chunk]

/-! ### Members -/

/-- Where a task stands that streams in a single attempt, given some answers. -/
inductive Standing.Streams (c : Conduct) (m : Monitors) (job : Job) (node path : String)
    (place : Location) (given : List Answer) : Standing Task → Prop where
  /-- It did not begin. -/
  | idle (none : given = []) : Streams c m job node path place given (.running .idle)
  /-- Its attempt is under way. -/
  | attempting {n : UInt32} {stage : Attempt} {rest : List Answer}
      (awaits : c.Awaits m node path place stage rest) (left : given ++ rest = c.answers m) :
      Streams c m job node path place given (.running (.attempting n stage))
  /-- It succeeded, and was given all answers. -/
  | done (all : given = c.answers m) (clean : c.error? m job node path = none) :
      Streams c m job node path place given (.over (.ok ()))
  /-- It failed. -/
  | failed {error : Error} : Streams c m job node path place given (.over (.error error))

/-- What is known of a member that streams to a file of its own. -/
structure Streamed (conduct : String → Conduct) (work : Work) (place : String → Location)
    (base : World) (i : Nat) (node : String) (before : List (Event Happening)) (w : World)
    (s : Standing Task) : Prop where
  /-- Its path leads to its file. -/
  leads : ∃ path, (work.job node).path? = some path ∧ w.tree.place? path = some (place node) ∧
    Standing.Streams (conduct node) work.monitors (work.job node) node path (place node)
      (heard i before) s
  /-- While it receives, the file is there. -/
  present : ∀ task, s = .running task → task.isReceiving = true →
    (w.tree.content? (place node)).isSome = true
  /-- The file holds what was heard. -/
  content : w.tree.content? (place node) =
    withAnswers (base.tree.content? (place node)) (heard i before)

/-- What is known of a member while nothing is heard of it and its file stays as it is. -/
theorem Streamed.still {s s' : Standing Task} {e : Event Happening}
    (h : Streamed conduct work place base i node before w s) (unheard : e.answerTo? i = none)
    (leads : ∀ path, w.tree.place? path = some (place node) → w'.tree.place? path = some (place node))
    (content : w'.tree.content? (place node) = w.tree.content? (place node))
    (stands : s' = s ∨ ∃ error, s' = .over (.error error)) :
    Streamed conduct work place base i node (before ++ [e]) w' s' := by
  have same : heard i (before ++ [e]) = heard i before := by
    rw [heard_concat, unheard]
    exact List.append_nil _
  obtain ⟨path, streams, hplace, stood⟩ := h.leads
  refine ⟨⟨path, streams, leads path hplace, ?_⟩, ?_, by rw [content, h.content, same]⟩
  · rw [same]
    rcases stands with rfl | ⟨error, rfl⟩
    · exact stood
    · exact .failed
  · rintro task rfl receiving
    rcases stands with heq | ⟨_, ⟨⟩⟩
    rw [content]
    exact h.present task heq.symm receiving

theorem Task.attempt_of_none (single : work.policy = none) (node : String) (n : UInt32) (w : World) :
    (Task.attempt work node n w).2 = .attempting n (Attempt.start work.monitors node w).2 := by
  unfold Task.attempt
  rw [single]

theorem left_of_next {given left all : List Answer} {a : Answer} (split : given ++ left = all)
    (next : given ++ [a] <+: all) : ∃ rest, left = a :: rest := by
  obtain ⟨rest, hrest⟩ := next
  rw [← split, List.append_assoc] at hrest
  exact ⟨rest, (List.append_cancel_left hrest).symm⟩

/-- What is known of a member after a step of its own. -/
theorem Streamed.goes {task : Task} {x : Happening} {p : Progress Task UInt64}
    (single : work.policy = none)
    (h : Streamed conduct work place base i node before w (.running task))
    (step : Task.Goes work node w task x w' p)
    (meets : ∀ a, x = .answer a → heard i before ++ [a] <+: (conduct node).answers work.monitors) :
    TakesIn w.tree w'.tree (place node) x ∧
      Streamed conduct work place base i node (before ++ [.advance i x]) w' p.standing := by
  obtain ⟨path, streams, hplace, stood⟩ := h.leads
  cases step with
  | begins =>
    cases stood with
    | idle none =>
      have told : heard i (before ++ [.advance i .begun]) = [] := by
        rw [heard_concat, none]
        simp [Event.answerTo?, Happening.answer?]
      rw [Progress.standing, Task.attempt_of_none single]
      refine ⟨Task.tree_attempt .., ⟨path, streams, by rwa [Task.tree_attempt], ?_⟩, ?_, ?_⟩
      · rw [told]
        exact .attempting (Conduct.awaits_start ..) (List.nil_append _)
      · rintro _ ⟨⟩ receiving
        cases receiving
      · rw [Task.tree_attempt, told, h.content, none]
  | resumes => cases stood
  | @continues n stage stage' a _ step =>
    cases stood with
    | attempting awaits left =>
      obtain ⟨rest, rfl⟩ := left_of_next left (meets a rfl)
      obtain ⟨awaits', takes, present⟩ :=
        awaits.goes_on streams hplace (h.present _ rfl) step
      have told : heard i (before ++ [.advance i (.answer a)]) = heard i before ++ [a] := by
        rw [heard_concat, Event.answerTo?_self]
        rfl
      have hplace' := TakesIn.leads (x := .answer a) takes hplace hplace
      refine ⟨takes, ⟨path, streams, hplace', ?_⟩, ?_, ?_⟩
      · rw [told]
        exact .attempting awaits' (by rw [List.append_assoc]; exact left)
      · rintro _ ⟨⟩ receiving
        exact present receiving
      · rw [told]
        exact takes.withAnswers h.content
  | @attempted n stage a w₁ result step =>
    cases stood with
    | attempting awaits left =>
      obtain ⟨rest, rfl⟩ := left_of_next left (meets a rfl)
      obtain ⟨rfl, quiet, htree, herror⟩ := awaits.ends streams hplace (h.present _ rfl) step
      have told : heard i (before ++ [.advance i (.answer a)]) = heard i before ++ [a] := by
        rw [heard_concat, Event.answerTo?_self]
        rfl
      have takes : Tree.Takes w.tree w₁.tree (place node) a := .same quiet htree
      rw [Task.attempted_of_none single]
      refine ⟨takes, ⟨path, streams, by rwa [htree], ?_⟩, ?_, ?_⟩
      · rw [told]
        cases result with
        | ok written => exact .done left herror
        | error error => exact .failed
      · rintro _ ⟨⟩
      · rw [told]
        exact takes.withAnswers h.content
  | withdraws _ _ =>
    refine ⟨Task.tree_drop .., h.still (Event.answerTo?_self ..) ?_ ?_ (.inr ⟨_, rfl⟩)⟩
    · simp
    · simp

/-- A member that is given up. -/
theorem Streamed.givenUp {task : Task} {error : Error} {e : Event Happening}
    (h : Streamed conduct work place base i node before w (.running task))
    (unheard : e.answerTo? i = none) :
    Streamed conduct work place base i node (before ++ [e]) (task.drop w) (.over (.error error)) :=
  h.still unheard (by simp) (by simp) (.inr ⟨_, rfl⟩)

/-- A move of another member, whose file is another one. -/
theorem Streamed.beside {s : Standing Task} {j : Nat} {node' path' : String} {x : Happening}
    (h : Streamed conduct work place base i node before w s) (hij : j ≠ i)
    (takes : TakesIn w.tree w'.tree (place node') x)
    (leads' : w.tree.place? path' = some (place node')) (apart : place node ≠ place node') :
    Streamed conduct work place base i node (before ++ [.advance j x]) w' s := by
  refine h.still (Event.answerTo?_of_ne hij x) (fun path leads => takes.leads leads' leads) ?_
    (.inl rfl)
  rcases takes.eq_or_filled with same | ⟨content, filled⟩
  · rw [same]
  · rw [filled.content?, if_neg apart]

/-- What is known of the members of a fan-out that stream. -/
theorem Streamed.kept {spans : List Span} {events : List (Event Happening)} {tree : Tree}
    (apart : StreamsApart work names place tree) (meets : Meets work.monitors conduct names events) :
    FanOut.Kept (work.fanOut spans) names events (Streamed conduct work place base) where
  own {i node before e after w task w' s} split hi known move := by
    cases Work.moves_of_moves move with
    | @goes x _ _ step =>
      refine (known.goes apart.single step ?_).2
      rintro a rfl
      refine List.IsPrefix.trans ⟨heard i after, ?_⟩ (meets i node hi)
      rw [split, heard, heard, heard, List.filterMap_append, List.filterMap_cons,
        Event.answerTo?_self, List.append_assoc]
      rfl
    | interrupted _ => exact known.givenUp rfl
    | breaks => exact known.givenUp rfl
  other {i node s j node' before e after w task w' s'} split hi hj hij hne known move known' := by
    have other : place node ≠ place node' := fun heq => hne
      (apart.apart _ (List.mem_of_getElem? hi) _ (List.mem_of_getElem? hj) heq).symm
    cases Work.moves_of_moves move with
    | @goes x _ _ step =>
      obtain ⟨path, -, leads, -⟩ := known.leads
      refine known'.beside hij (known.goes apart.single step ?_).1 leads other
      rintro a rfl
      refine List.IsPrefix.trans ⟨heard j after, ?_⟩ (meets j node' hj)
      rw [split, heard, heard, heard, List.filterMap_append, List.filterMap_cons,
        Event.answerTo?_self, List.append_assoc]
      rfl
    | interrupted _ => exact known'.still rfl (by simp) (by simp) (.inl rfl)
    | breaks => exact known'.still rfl (by simp) (by simp) (.inl rfl)
  join {i node s j before w records} hi known := by
    obtain ⟨log, hlog⟩ := work.noteAll_eq spans w records
    rw [hlog]
    exact known.still rfl (fun _ leads => leads) rfl (.inl rfl)
  cancel {i node s before after w} split hi known :=
    known.still rfl (fun _ leads => leads) rfl (.inl rfl)

/-! ### At the end -/

/-- An attempt without an error has its call taken, and the whole stream of its monitor. -/
theorem Conduct.isTaken_of_error? {c : Conduct} {m : Monitors} {job : Job} {node path : String}
    (clean : c.error? m job node path = none) : c.isTaken m = true ∧ c.break? = none := by
  unfold error? at clean
  unfold isTaken
  cases hend : c.endpoint m with
  | error error => simp [hend] at clean
  | ok endpoint =>
    simp only [hend] at clean ⊢
    split at clean
    · cases clean
    · next valid =>
      split at clean
      · cases clean
      · next reached =>
        split at clean
        · cases clean
        · next agreed =>
          refine ⟨?_, by simpa using clean⟩
          simp only [Bool.not_eq_false] at valid reached
          simp [valid, reached, agreed]

/-- What was received of a node in a fan-out that is over, given the answers that were heard. -/
structure Received (c : Conduct) (m : Monitors) (given : List Answer) (place : Location)
    (tree later : Tree) (outcome : Except Error Unit) : Prop where
  /-- The file holds what it held before, and what was heard. -/
  content : later.content? place = withAnswers (tree.content? place) given
  /-- What was heard is the first part of what the monitor streams. -/
  begins : chunksOf given <+: c.chunks
  /-- Of a node that succeeded, the call was taken, and the whole stream was heard to its end. -/
  whole : outcome = .ok () →
    given.any Answer.isTaken = true ∧ chunksOf given = c.chunks ∧ c.break? = none

theorem begins_of_answers {c : Conduct} {m : Monitors} {given : List Answer}
    (h : given <+: c.answers m) : chunksOf given <+: c.chunks := by
  obtain ⟨rest, hrest⟩ := h
  have parts := (c.streams_answers m).parts
  rw [← hrest, chunksOf_append] at parts
  have first : chunksOf given <+: if c.isTaken m = true then c.chunks else [] := ⟨_, parts⟩
  split at first
  · exact first
  · rw [List.prefix_nil.1 first]
    exact ⟨c.chunks, rfl⟩

/-- **What a fan-out that is over leaves** in the file of each node, and what it reports. -/
theorem received_of_run {spans : List Span} {events : List (Event Happening)}
    {f : FanOut World Task} (apart : StreamsApart work names place w.tree)
    (meets : Meets work.monitors conduct names events)
    (h : (FanOut.start (work.fanOut spans) names w).run (work.fanOut spans) events = some f)
    (isOver : f.isOver = true) (hi : names[i]? = some node) :
    ∃ outcome, f.report.get? node = some outcome ∧
      Received (conduct node) work.monitors (heard i events) (place node) w.tree f.world.tree
        outcome := by
  have begins : ∀ i node, names[i]? = some node →
      ∃ s, FanOut.Stands (FanOut.start (work.fanOut spans) names w) i node s ∧
        Streamed conduct work place w i node [] (FanOut.start (work.fanOut spans) names w).world s := by
    intro i node hi
    obtain ⟨path, streams, leads⟩ := apart.writable node (List.mem_of_getElem? hi)
    refine ⟨_, work.stands_start spans w hi, ?_⟩
    rw [Work.world_start]
    refine ⟨⟨path, streams, leads, .idle rfl⟩, ?_, rfl⟩
    rintro _ ⟨⟩ receiving
    cases receiving
  obtain ⟨outcome, reported, known⟩ :=
    FanOut.recorded_of_run (Streamed.kept apart meets) apart.distinct h isOver begins hi
  refine ⟨outcome, reported, known.content, begins_of_answers (meets i node hi), ?_⟩
  rintro rfl
  obtain ⟨path, -, -, stood⟩ := known.leads
  cases stood with
  | done all clean =>
    obtain ⟨taken, unbroken⟩ := Conduct.isTaken_of_error? clean
    obtain ⟨any, parts⟩ := (conduct node).streams_answers work.monitors
    rw [all]
    exact ⟨any.trans taken, by rw [parts, if_pos taken], unbroken⟩

end MonitorFleet
