import Mathlib.Data.List.Induction
import Mathlib.Data.List.Nodup
import Mathlib.Data.List.TakeWhile
import MonitorFleet.Kubernetes.Relay
import MonitorFleet.Proofs.Kubernetes.Queries

/-!
# How a tunnel serves

After a tunnel was opened it sees events: somebody connects, an accepted connection has its turn or is
done, no more can be accepted, or its run is cancelled. They come in any order, and the server may answer
as it likes. To tell what was asked of it, the server is given a notebook (`Server.noting`).

What is known of a tunnel at any time is `Served.Kept`: how long it listened, which way each connection
was given because of which answer, and what became of it since (`Served.Relayed`). It is so when the
tunnel begins, each event keeps it so, and what is said of a tunnel is read off from it.

## What is proved

* `Served.Relayed.concat`, `Served.Fares.concat`: what an event changes for a connection.
* `Served.kept_step`, `Served.kept_run`: what one event keeps, and so any number of them.
* `Served.Kept.own`: no two connections were given the same way.
* `Served.serves_of_run`: **how a tunnel serves** after it was opened.
-/

namespace MonitorFleet.Kubernetes

variable {σ : Type}

/-- The requests that were put to a server, in order, each with its reply. -/
abbrev Notes := List (Request × Reply)

/-- A server that takes notes. -/
def Server.noting (server : Server σ) : Server (σ × Notes) := fun request s =>
  (((server request s.1).1, s.2 ++ [(request, (server request s.1).2)]), (server request s.1).2)

/-- Whether a reply opens the way that was asked for. -/
def Reply.opens (reply : Reply) : Bool := reply.opening.toBool

/-- Whether a tunnel still listens after this. -/
def RelayEvent.keepsOpen (e : RelayEvent) : Bool := e ≠ .fault && e ≠ .cancelled

/-- How many connections come while the tunnel listens. -/
def arrivals (events : List RelayEvent) : Nat :=
  (events.takeWhile (·.keepsOpen)).count .connection

theorem arrivals_concat (events : List RelayEvent) (e : RelayEvent) :
    arrivals (events ++ [e]) =
      arrivals events + if events.all (·.keepsOpen) ∧ e = .connection then 1 else 0 := by
  unfold arrivals
  by_cases open_ : events.all (·.keepsOpen)
  · rw [List.takeWhile_append_of_pos (List.all_eq_true.mp open_),
      List.takeWhile_eq_self_iff.mpr (List.all_eq_true.mp open_), List.count_append]
    simp only [open_, true_and]
    cases e <;> simp [RelayEvent.keepsOpen]
  · have short : (events.takeWhile (·.keepsOpen)).length ≠ events.length := by
      intro same
      rw [← (List.takeWhile_prefix _).eq_of_length same] at open_
      exact open_ (List.all_takeWhile ..)
    simp [List.takeWhile_append, short, open_]

theorem arrivals_of_all {events : List RelayEvent} (listening : events.all (·.keepsOpen) = true) :
    arrivals events = events.count .connection := by
  rw [arrivals, List.takeWhile_eq_self_iff.mpr (List.all_eq_true.mp listening)]

theorem arrivals_le_append (events more : List RelayEvent) :
    arrivals events ≤ arrivals (events ++ more) := by
  rw [arrivals, arrivals, List.takeWhile_append]
  split
  · exact ((List.takeWhile_prefix _).trans (List.prefix_append ..)).sublist.count_le _
  · rfl

/-- A connection, given by its number, had its turn after it was accepted. -/
def HadTurn (events : List RelayEvent) (connection : Nat) : Prop :=
  ∃ before after, events = before ++ .turn connection :: after ∧ connection < arrivals before

theorem hadTurn_concat {events : List RelayEvent} {e : RelayEvent} {k : Nat} :
    HadTurn (events ++ [e]) k ↔ HadTurn events k ∨ e = .turn k ∧ k < arrivals events := by
  constructor
  · rintro ⟨before, after, split, came⟩
    obtain rfl | ⟨after, last, rfl⟩ := List.eq_nil_or_concat' after
    · obtain ⟨rfl, eq⟩ := List.append_inj' split rfl
      exact .inr ⟨List.head_eq_of_cons_eq eq, came⟩
    · rw [← List.cons_append, ← List.append_assoc] at split
      exact .inl ⟨before, after, (List.append_inj' split rfl).1, came⟩
  · rintro (⟨before, after, rfl, came⟩ | ⟨rfl, came⟩)
    · exact ⟨before, after ++ [e], by simp, came⟩
    · exact ⟨events, [], rfl, came⟩

/-- The first turn of a connection after it was accepted, with what happened before and since. -/
structure HasTurn (events : List RelayEvent) (connection : Nat) (before since : List RelayEvent) :
    Prop where
  split : events = before ++ .turn connection :: since
  came : connection < arrivals before
  first : ¬ HadTurn before connection

theorem HasTurn.concat {events before since : List RelayEvent} {k : Nat}
    (turn : HasTurn events k before since) (e : RelayEvent) :
    HasTurn (events ++ [e]) k before (since ++ [e]) where
  split := by rw [turn.split, List.append_assoc, List.cons_append]
  came := turn.came
  first := turn.first

/-! ### What becomes of a connection -/

/-- What a connection, given by its number, comes to by an event that is not its turn. -/
def Passage.see (p : Passage) (connection : Nat) : RelayEvent → Passage
  | .finished k => if k = connection then p.finish else p
  | .cancelled => p.cancel
  | _ => p

theorem Passage.see_of_not_through {p : Passage} (ended : ∀ way, p ≠ .through way) (k : Nat)
    (e : RelayEvent) : p.see k e = p := by
  cases e <;> cases p <;> simp_all [see, finish, cancel]

/-! ### Asking for a way -/

namespace Client

variable {server : Server σ} {pod : PodRef} {port : UInt16}

theorem requestForward_noting {request : Request} (built : Request.portForward pod port = .ok request)
    (s : σ × Notes) :
    requestForward server.noting pod port s =
      (((server request s.1).1, s.2 ++ [(request, (server request s.1).2)]),
        (server request s.1).2.opening) := by
  simp [requestForward, send, built, Server.noting]

/-- A tunnel is opened by a reply that opens a way. -/
theorem openForward_noting {s : σ} {t : σ × Notes}
    (opened : openForward server.noting pod port (s, []) = (t, .ok ())) :
    ∃ request reply, Request.portForward pod port = .ok request ∧ reply.opening = .ok () ∧
      t.2 = [(request, reply)] := by
  cases built : Request.portForward pod port with
  | error problem => simp [openForward, requestForward, send, built] at opened
  | ok request =>
    rw [openForward, requestForward_noting built] at opened
    cases opening : (server request s).2.opening with
    | error problem => simp [opening] at opened
    | ok granted =>
      simp only [opening, Prod.mk.injEq] at opened
      exact ⟨request, _, rfl, opening, by rw [← opened.1]; rfl⟩

end Client

namespace Served

/-! ### Answers to connections -/

/-- How many ways were opened by answers to connections. -/
def granted (answers : List (Nat × Reply)) : Nat := answers.countP (·.2.opens)

/-- How far a connection comes that is relayed through a way, by what happened since. -/
inductive Relayed (connection : Nat) (way : Way) (since : List RelayEvent) : Passage → Prop where
  | through (undone : .finished connection ∉ since) (live : .cancelled ∉ since) :
      Relayed connection way since (.through way)
  | finished {before after : List RelayEvent} (split : since = before ++ .finished connection :: after)
      (live : .cancelled ∉ before) : Relayed connection way since (.finished way)
  | cut {before after : List RelayEvent} (split : since = before ++ .cancelled :: after)
      (undone : .finished connection ∉ before) : Relayed connection way since (.cut way)

theorem Relayed.concat {k : Nat} {way : Way} {since : List RelayEvent} {p : Passage}
    (relayed : Relayed k way since p) (e : RelayEvent) :
    Relayed k way (since ++ [e]) (p.see k e) := by
  cases relayed with
  | through undone live =>
    cases e with
    | finished j =>
      by_cases same : j = k
      · subst same
        rw [Passage.see, if_pos rfl]
        exact .finished rfl live
      · rw [Passage.see, if_neg same]
        exact .through (by simpa [undone] using Ne.symm same) (by simpa using live)
    | cancelled => exact .cut rfl undone
    | connection => exact .through (by simpa using undone) (by simpa using live)
    | turn => exact .through (by simpa using undone) (by simpa using live)
    | fault => exact .through (by simpa using undone) (by simpa using live)
  | finished split live =>
    rw [Passage.see_of_not_through (by simp)]
    exact .finished (by rw [split, List.append_assoc, List.cons_append]) live
  | cut split undone =>
    rw [Passage.see_of_not_through (by simp)]
    exact .cut (by rw [split, List.append_assoc, List.cons_append]) undone

theorem Relayed.way? {k : Nat} {way : Way} {since : List RelayEvent} {p : Passage}
    (relayed : Relayed k way since p) : p.way? = some way := by
  cases relayed <;> rfl

/-- How the first connection fares: it is relayed from its coming on, through the way that was opened
beforehand. -/
def FaresFirst (events : List RelayEvent) (p : Passage) : Prop :=
  ∃ before since, events = before ++ .connection :: since ∧ .connection ∉ before ∧ .cancelled ∉ before ∧
    Relayed 0 0 since p

theorem FaresFirst.concat {events : List RelayEvent} {p : Passage} (fares : FaresFirst events p)
    (e : RelayEvent) : FaresFirst (events ++ [e]) (p.see 0 e) := by
  obtain ⟨before, since, rfl, first, live, relayed⟩ := fares
  exact ⟨before, since ++ [e], by rw [List.append_assoc, List.cons_append], first, live,
    relayed.concat e⟩

/-- How a later connection fares by the answers that connections were given, in order: a way that it
is granted is the newest of all, and it is relayed through it from its turn on, unless the run was
cancelled before. -/
inductive Fares (events : List RelayEvent) (answers : List (Nat × Reply)) (connection : Nat) :
    Passage → Prop where
  | waiting (unanswered : connection ∉ answers.map (·.1)) : Fares events answers connection .waiting
  | closed {reply : Reply} {problem : Problem} (answered : (connection, reply) ∈ answers)
      (refused : reply.opening = .error problem) : Fares events answers connection .closed
  | relayed {earlier later : List (Nat × Reply)} {reply : Reply} {before since : List RelayEvent}
      {p : Passage} (answered : answers = earlier ++ (connection, reply) :: later)
      (opening : reply.opening = .ok ()) (turn : HasTurn events connection before since)
      (live : .cancelled ∉ before) (relayed : Relayed connection (1 + granted earlier) since p) :
      Fares events answers connection p
  | dropped {earlier later : List (Nat × Reply)} {reply : Reply} {before since : List RelayEvent}
      (answered : answers = earlier ++ (connection, reply) :: later)
      (opening : reply.opening = .ok ()) (turn : HasTurn events connection before since)
      (late : .cancelled ∈ before) :
      Fares events answers connection (.dropped (1 + granted earlier))

/-- An event that answers nobody or somebody else changes as little as it may. -/
theorem Fares.concat {events : List RelayEvent} {answers new : List (Nat × Reply)} {k : Nat} {p : Passage}
    (fares : Fares events answers k p) (e : RelayEvent) (apart : k ∉ new.map (·.1)) :
    Fares (events ++ [e]) (answers ++ new) k (p.see k e) := by
  cases fares with
  | waiting unanswered =>
    rw [Passage.see_of_not_through (by simp)]
    refine .waiting ?_
    rw [List.map_append]
    exact List.not_mem_append unanswered apart
  | closed answered refused =>
    rw [Passage.see_of_not_through (by simp)]
    exact .closed (List.mem_append_left _ answered) refused
  | relayed answered opening turn live relayed =>
    exact .relayed (by rw [answered, List.append_assoc, List.cons_append]) opening (turn.concat e) live
      (relayed.concat e)
  | dropped answered opening turn late =>
    rw [Passage.see_of_not_through (by simp)]
    exact .dropped (by rw [answered, List.append_assoc, List.cons_append]) opening (turn.concat e) late

theorem Fares.concat_nil {events : List RelayEvent} {answers : List (Nat × Reply)} {k : Nat} {p : Passage}
    (fares : Fares events answers k p) (e : RelayEvent) :
    Fares (events ++ [e]) answers k (p.see k e) := by
  rw [← List.append_nil answers]
  exact fares.concat e List.not_mem_nil

theorem Fares.answered {events : List RelayEvent} {answers : List (Nat × Reply)} {k : Nat} {p : Passage}
    (fares : Fares events answers k p) (moved : p ≠ .waiting) : k ∈ answers.map (·.1) := by
  cases fares with
  | waiting => exact absurd rfl moved
  | closed answered => exact List.mem_map_of_mem answered
  | relayed answered => simp [answered]
  | dropped answered => simp [answered]

theorem Fares.unanswered {events : List RelayEvent} {answers : List (Nat × Reply)} {k : Nat}
    (fares : Fares events answers k .waiting) : k ∉ answers.map (·.1) := by
  cases fares with
  | waiting unanswered => exact unanswered
  | relayed _ _ _ _ relayed => cases relayed

/-- The way of a later connection was opened by its answer. -/
theorem Fares.way_eq {events : List RelayEvent} {answers : List (Nat × Reply)} {k : Nat} {p : Passage}
    {way : Way} (fares : Fares events answers k p) (given : p.way? = some way) :
    ∃ earlier reply later, answers = earlier ++ (k, reply) :: later ∧ reply.opening = .ok () ∧
      way = 1 + granted earlier := by
  cases fares with
  | waiting => cases given
  | closed => cases given
  | relayed answered opening _ _ relayed =>
    exact ⟨_, _, _, answered, opening, Option.some.inj (given.symm.trans relayed.way?)⟩
  | dropped answered opening =>
    cases given
    exact ⟨_, _, _, answered, opening, rfl⟩

theorem granted_lt {before between after : List (Nat × Reply)} {k : Nat} {reply : Reply}
    (opening : reply.opening = .ok ()) (split : before = between ++ (k, reply) :: after) :
    granted between < granted before := by
  have opens : reply.opens = true := by rw [Reply.opens, opening]; rfl
  simp [split, granted, opens]

/-- No two later connections were given the same way. -/
theorem Fares.way_inj {events : List RelayEvent} {answers : List (Nat × Reply)} {j k : Nat}
    {p q : Passage} {way : Way} (first : Fares events answers j p) (second : Fares events answers k q)
    (one : p.way? = some way) (other : q.way? = some way) : j = k := by
  obtain ⟨earlier, reply, later, answered, opening, rfl⟩ := first.way_eq one
  obtain ⟨earlier', reply', later', answered', opening', same⟩ := second.way_eq other
  have same : granted earlier = granted earlier' := Nat.add_left_cancel same
  rw [answered] at answered'
  obtain ⟨mid, rfl, tail⟩ | ⟨mid, rfl, tail⟩ := List.append_eq_append_iff.mp answered'
  · cases mid with
    | nil => simpa using congrArg (fun l => l.head?.map (·.1)) tail
    | cons entry mid =>
      obtain ⟨rfl, -⟩ := List.cons.inj tail
      exact absurd same (granted_lt opening rfl).ne
  · cases mid with
    | nil => simpa using congrArg (fun l => l.head?.map (·.1)) tail.symm
    | cons entry mid =>
      obtain ⟨rfl, -⟩ := List.cons.inj tail
      exact absurd same.symm (granted_lt opening' rfl).ne

theorem Fares.way_pos {events : List RelayEvent} {answers : List (Nat × Reply)} {k : Nat} {p : Passage}
    {way : Way} (fares : Fares events answers k p) (given : p.way? = some way) : 0 < way := by
  obtain ⟨_, _, _, -, -, rfl⟩ := fares.way_eq given
  exact Nat.lt_add_right _ Nat.one_pos

/-- The tunnel after an answer, by how the connection fares that is answered at its turn. -/
theorem answer_eq {r : Relay} {events : List RelayEvent} {answers : List (Nat × Reply)} {k : Nat}
    (counted : r.opened = 1 + granted answers) (marked : r.cancelled = true ↔ .cancelled ∈ events)
    (turn : HasTurn (events ++ [.turn k]) k events []) (reply : Reply) :
    ∃ p, Fares (events ++ [.turn k]) (answers ++ [(k, reply)]) k p ∧ r.answer k reply.opens =
      { r with opened := 1 + granted (answers ++ [(k, reply)]), accepted := r.accepted.set k p } := by
  cases opening : reply.opening with
  | ok way =>
    have opens : reply.opens = true := by rw [Reply.opens, opening]; rfl
    refine ⟨r.granted, ?_, by simp [Relay.answer, opens, counted, granted, Nat.add_assoc]⟩
    rw [Relay.granted, counted]
    split
    case isTrue late => exact .dropped rfl opening turn (marked.mp late)
    case isFalse live =>
      exact .relayed rfl opening turn (live ∘ marked.mpr) (.through List.not_mem_nil List.not_mem_nil)
  | error problem =>
    have closes : reply.opens = false := by rw [Reply.opens, opening]; rfl
    exact ⟨_, .closed (by simp) opening, by simp [Relay.answer, closes, counted, granted]⟩

/-! ### What every event keeps -/

/-- What is known of a tunnel after some events and answers. -/
structure Kept (request : Request) (opened : Request × Reply) (events : List RelayEvent)
    (answers : List (Nat × Reply)) (t : Served (σ × Notes)) : Prop where
  listens : t.relay.listening = events.all (·.keepsOpen)
  marked : t.relay.cancelled = true ↔ .cancelled ∈ events
  accepts : t.relay.accepted.length = arrivals events
  ready : t.relay.ready = if t.relay.accepted = [] then some 0 else none
  counted : t.relay.opened = 1 + granted answers
  first : ∀ p, t.relay.accepted[0]? = some p → FaresFirst events p
  later : ∀ k p, t.relay.accepted[k + 1]? = some p → Fares events answers (k + 1) p
  asked : ∀ k, k ∈ answers.map (·.1) ↔ 0 < k ∧ HadTurn events k
  once : (answers.map (·.1)).Nodup
  notes : t.server.2 = opened :: answers.map fun a => (request, a.2)

variable {server : Server σ} {pod : PodRef} {port : UInt16} {request : Request}
  {opened : Request × Reply} {events : List RelayEvent} {answers : List (Nat × Reply)}
  {t : Served (σ × Notes)}

theorem kept_start {s : σ × Notes} (noted : s.2 = [opened]) :
    Kept request opened [] [] ⟨.start, s⟩ where
  listens := rfl
  marked := by simp [Relay.start]
  accepts := rfl
  ready := rfl
  counted := rfl
  first := by simp [Relay.start]
  later := by simp [Relay.start]
  asked := by simp [HadTurn]
  once := List.nodup_nil
  notes := noted

namespace Kept

theorem lt_of_hadTurn (kept : Kept request opened events answers t) {k : Nat}
    (had : HadTurn events k) : k < t.relay.accepted.length := by
  obtain ⟨before, after, rfl, came⟩ := had
  rw [kept.accepts]
  exact came.trans_le (arrivals_le_append ..)

theorem unanswered (kept : Kept request opened events answers t) :
    t.relay.accepted.length ∉ answers.map (·.1) :=
  fun mem => (kept.lt_of_hadTurn ((kept.asked _).mp mem).2).false

/-- An event by which nobody is accepted or answered: each connection sees it. -/
theorem seen (kept : Kept request opened events answers t) {e : RelayEvent} {r : Relay}
    (accepts : e = .connection → t.relay.listening = false)
    (turns : ∀ k, e = .turn k → 0 < k → k < t.relay.accepted.length → k ∈ answers.map (·.1))
    (listens : r.listening = (t.relay.listening && e.keepsOpen))
    (marked : r.cancelled = (t.relay.cancelled || e = .cancelled))
    (ready : r.ready = t.relay.ready) (counted : r.opened = t.relay.opened)
    (sees : r.accepted = t.relay.accepted.mapIdx fun k p => p.see k e) :
    Kept request opened (events ++ [e]) answers { t with relay := r } where
  listens := by simp [listens, kept.listens]
  marked := by simp [marked, kept.marked, eq_comm (a := e)]
  accepts := by
    rw [arrivals_concat, ← kept.listens, sees, List.length_mapIdx, kept.accepts]
    split
    case isTrue both => simp [accepts both.2] at both
    case isFalse => rfl
  ready := by rw [ready, kept.ready, sees]; simp
  counted := counted.trans kept.counted
  first := by
    intro p eq
    rw [sees, List.getElem?_mapIdx, Option.map_eq_some_iff] at eq
    obtain ⟨p, old, rfl⟩ := eq
    exact (kept.first p old).concat e
  later := by
    intro k p eq
    rw [sees, List.getElem?_mapIdx, Option.map_eq_some_iff] at eq
    obtain ⟨p, old, rfl⟩ := eq
    exact (kept.later k p old).concat_nil e
  asked := by
    intro k
    rw [kept.asked, hadTurn_concat, ← kept.accepts]
    refine ⟨fun h => ⟨h.1, .inl h.2⟩, fun ⟨pos, had⟩ => ⟨pos, ?_⟩⟩
    obtain had | ⟨turn, came⟩ := had
    · exact had
    · exact ((kept.asked k).mp (turns k turn pos came)).2
  once := kept.once
  notes := kept.notes

/-- An event that no connection minds, and after which the tunnel may listen no more. -/
theorem unmoved (kept : Kept request opened events answers t) {e : RelayEvent} {listening : Bool}
    (accepts : e = .connection → t.relay.listening = false)
    (turns : ∀ k, e = .turn k → 0 < k → k < t.relay.accepted.length → k ∈ answers.map (·.1))
    (listens : listening = (t.relay.listening && e.keepsOpen)) (live : e ≠ .cancelled)
    (same : ∀ k (p : Passage), p.see k e = p) :
    Kept request opened (events ++ [e]) answers
      { t with relay := { t.relay with listening := listening } } :=
  kept.seen accepts turns listens (by simp [live]) rfl rfl (by
    refine List.ext_getElem? fun k => ?_
    simp [List.getElem?_mapIdx, same])

theorem accepts_connection (kept : Kept request opened events answers t)
    (listening : t.relay.listening) (p : Passage) :
    (t.relay.accepted ++ [p]).length = arrivals (events ++ [.connection]) := by
  rw [arrivals_concat, ← kept.listens, ← kept.accepts]
  simp [listening]

theorem asked_connection (kept : Kept request opened events answers t) (k : Nat) :
    k ∈ answers.map (·.1) ↔ 0 < k ∧ HadTurn (events ++ [.connection]) k := by
  rw [kept.asked, hadTurn_concat]
  simp

/-- The first connection takes the way that is open. -/
theorem accept_first (kept : Kept request opened events answers t) (listening : t.relay.listening)
    (none_ : t.relay.accepted = []) :
    Kept request opened (events ++ [.connection]) answers { t with relay := t.relay.accept } := by
  have taken : t.relay.accept = { t.relay with ready := none, accepted := [.through 0] } := by
    simp [Relay.accept, kept.ready, none_]
  have open_ : events.all (·.keepsOpen) = true := kept.listens.symm.trans listening
  have first : .connection ∉ events := by
    rw [← List.count_eq_zero, ← arrivals_of_all open_, ← kept.accepts, none_]
    rfl
  have live : .cancelled ∉ events := fun mem => by
    simpa [RelayEvent.keepsOpen] using List.all_eq_true.mp open_ _ mem
  rw [taken]
  exact {
    listens := by simpa [RelayEvent.keepsOpen, listening] using kept.listens
    marked := by simpa using kept.marked
    accepts := by simpa [none_] using kept.accepts_connection listening (.through 0)
    ready := by simp
    counted := kept.counted
    first := by
      rintro p ⟨⟩
      exact ⟨events, [], rfl, first, live, .through List.not_mem_nil List.not_mem_nil⟩
    later := by simp
    asked := kept.asked_connection
    once := kept.once
    notes := kept.notes }

/-- A later connection has to wait. -/
theorem accept_later (kept : Kept request opened events answers t) (listening : t.relay.listening)
    (some_ : t.relay.accepted ≠ []) :
    Kept request opened (events ++ [.connection]) answers { t with relay := t.relay.accept } := by
  have taken : t.relay.accept = { t.relay with accepted := t.relay.accepted ++ [.waiting] } := by
    simp [Relay.accept, kept.ready, some_]
  rw [taken]
  exact {
    listens := by simpa [RelayEvent.keepsOpen, listening] using kept.listens
    marked := by simpa using kept.marked
    accepts := kept.accepts_connection listening .waiting
    ready := by simpa [some_] using kept.ready
    counted := kept.counted
    first := by
      intro p eq
      rw [List.getElem?_append_left (List.length_pos_iff.mpr some_)] at eq
      exact (kept.first p eq).concat .connection
    later := by
      intro k p eq
      obtain old | ⟨last, rfl⟩ : t.relay.accepted[k + 1]? = some p ∨
          k + 1 = t.relay.accepted.length ∧ p = .waiting := by
        grind
      · exact (kept.later k p old).concat_nil .connection
      · exact .waiting (last ▸ kept.unanswered)
    asked := kept.asked_connection
    once := kept.once
    notes := kept.notes }

/-- A connection that waits was not answered, and it is not the first one. -/
theorem unanswered_of_isWaiting (kept : Kept request opened events answers t) {k : Nat}
    (waits : t.relay.isWaiting k) :
    0 < k ∧ k < t.relay.accepted.length ∧ k ∉ answers.map (·.1) := by
  have at_k : t.relay.accepted[k]? = some .waiting := by simpa [Relay.isWaiting] using waits
  have within : k < t.relay.accepted.length := (List.getElem?_eq_some_iff.mp at_k).1
  cases k with
  | zero =>
    obtain ⟨_, _, -, -, -, relayed⟩ := kept.first _ at_k
    cases relayed
  | succ k => exact ⟨Nat.succ_pos k, within, (kept.later k _ at_k).unanswered⟩

theorem answered_of_not_isWaiting (kept : Kept request opened events answers t) {k : Nat}
    (waits : t.relay.isWaiting k = false) (pos : 0 < k) (came : k < t.relay.accepted.length) :
    k ∈ answers.map (·.1) := by
  obtain ⟨k, rfl⟩ := Nat.exists_eq_add_one.mpr pos
  have at_k := List.getElem?_eq_getElem came
  refine (kept.later k _ at_k).answered fun waiting => ?_
  simp [Relay.isWaiting, at_k, waiting] at waits

/-- A connection that waits is given the answer to a request of its own. -/
theorem answered (kept : Kept request opened events answers t) {k : Nat}
    (waits : t.relay.isWaiting k) (reply : Reply) (s : σ) :
    Kept request opened (events ++ [.turn k]) (answers ++ [(k, reply)])
      ⟨t.relay.answer k reply.opens, s, t.server.2 ++ [(request, reply)]⟩ := by
  obtain ⟨pos, within, unanswered⟩ := kept.unanswered_of_isWaiting waits
  have came : k < arrivals events := kept.accepts ▸ within
  have turn : HasTurn (events ++ [.turn k]) k events [] :=
    ⟨rfl, came, fun had => unanswered ((kept.asked k).mpr ⟨pos, had⟩)⟩
  obtain ⟨p, fares, moved⟩ := answer_eq kept.counted kept.marked turn reply
  rw [moved]
  exact {
    listens := by simpa [RelayEvent.keepsOpen] using kept.listens
    marked := by simpa using kept.marked
    accepts := by simpa [arrivals_concat] using kept.accepts
    ready := by simpa using kept.ready
    counted := rfl
    first := by
      intro q eq
      rw [List.getElem?_set_ne pos.ne'] at eq
      exact (kept.first q eq).concat (.turn k)
    later := by
      intro j q eq
      by_cases same : j + 1 = k
      · subst same
        rw [List.getElem?_set_self within] at eq
        exact Option.some.inj eq ▸ fares
      · rw [List.getElem?_set_ne (Ne.symm same)] at eq
        exact (kept.later j q eq).concat (.turn k) (by simpa using same)
    asked := by
      intro j
      rw [hadTurn_concat, List.map_append, List.mem_append, kept.asked]
      grind
    once := by
      rw [List.map_append]
      exact kept.once.append (List.nodup_singleton _) (by simpa using unanswered)
    notes := by simp [kept.notes] }

end Kept

/-- One event keeps what is known, with an answer if it is the turn of a connection that waits. -/
theorem kept_step (built : Request.portForward pod port = .ok request)
    (kept : Kept request opened events answers t) (e : RelayEvent) :
    ∃ new, Kept request opened (events ++ [e]) (answers ++ new) (t.step server.noting pod port e) := by
  -- All events but the turn of a connection that waits leave the answers as they are.
  have unanswered : Kept request opened (events ++ [e]) answers (t.step server.noting pod port e) →
      ∃ new, Kept request opened (events ++ [e]) (answers ++ new)
        (t.step server.noting pod port e) := fun kept => ⟨[], by rwa [List.append_nil]⟩
  cases e with
  | connection =>
    refine unanswered ?_
    rw [step]
    cases listening : t.relay.listening with
    | false => exact kept.unmoved (fun _ => listening) nofun (by simp [listening]) nofun fun _ _ => rfl
    | true =>
      by_cases none_ : t.relay.accepted = []
      · exact kept.accept_first listening none_
      · exact kept.accept_later listening none_
  | turn k =>
    rw [step] at unanswered ⊢
    cases waits : t.relay.isWaiting k with
    | false =>
      rw [waits] at unanswered
      refine unanswered (kept.unmoved nofun ?_ (by simp [RelayEvent.keepsOpen]) nofun fun _ _ => rfl)
      rintro _ ⟨⟩ pos came
      exact kept.answered_of_not_isWaiting waits pos came
    | true =>
      rw [Client.requestForward_noting built]
      exact ⟨_, kept.answered waits _ _⟩
  | finished k =>
    refine unanswered (kept.seen nofun nofun (by simp [RelayEvent.keepsOpen, Relay.finish])
      (by simp [Relay.finish]) rfl rfl ?_)
    refine List.ext_getElem? fun j => ?_
    by_cases same : k = j <;> simp [Relay.finish, List.getElem?_mapIdx, Passage.see, same]
  | fault =>
    exact unanswered
      (kept.unmoved nofun nofun (by simp [RelayEvent.keepsOpen]) nofun fun _ _ => rfl)
  | cancelled =>
    refine unanswered (kept.seen nofun nofun (by simp [RelayEvent.keepsOpen, Relay.cancel])
      (by simp [Relay.cancel]) rfl rfl ?_)
    refine List.ext_getElem? fun j => ?_
    simp [Relay.cancel, List.getElem?_mapIdx, Passage.see]

/-- **What is known of a tunnel after any events.** -/
theorem kept_run (built : Request.portForward pod port = .ok request) {s : σ × Notes}
    (noted : s.2 = [opened]) (events : List RelayEvent) :
    ∃ answers, Kept request opened events answers
      (run server.noting pod port ⟨.start, s⟩ events) := by
  induction events using List.reverseRecOn with
  | nil => exact ⟨[], kept_start noted⟩
  | append_singleton events e ih =>
    obtain ⟨answers, kept⟩ := ih
    obtain ⟨new, kept⟩ := kept_step built kept e
    refine ⟨answers ++ new, ?_⟩
    rwa [run, List.foldl_append]

/-! ### How a tunnel serves -/

/-- How a tunnel serves, whose first way was opened beforehand, after some events. A connection goes
by its number, and `answers` are those that connections were given. -/
structure Serves (request : Request) (opened : Request × Reply) (events : List RelayEvent)
    (answers : List (Nat × Reply)) (t : Served (σ × Notes)) : Prop where
  /-- Every connection that comes before the cancellation is accepted. -/
  accepts : .fault ∉ events →
    t.relay.accepted.length = (events.takeWhile (· ≠ .cancelled)).count .connection
  /-- No connection is accepted after the cancellation was seen. -/
  refrains : t.relay.accepted.length ≤ (events.takeWhile (· ≠ .cancelled)).count .connection
  /-- The tunnel is closed by the cancellation, and not before. -/
  listens : .fault ∉ events → (t.relay.listening = true ↔ .cancelled ∉ events)
  /-- The first connection goes through the way that was opened beforehand. -/
  first : ∀ p, t.relay.accepted[0]? = some p → FaresFirst events p
  /-- Each later connection fares by the answer that it was given: if a way was opened for it, then it
  goes through that way. -/
  later : ∀ k p, t.relay.accepted[k + 1]? = some p → Fares events answers (k + 1) p
  /-- Nothing is relayed any more when the run was cancelled. -/
  ends : .cancelled ∈ events → ∀ p ∈ t.relay.accepted, ∀ way, p ≠ .through way
  /-- Each later connection asks for a way when it has its turn, and it asks once. -/
  asked : ∀ k, k ∈ answers.map (·.1) ↔ 0 < k ∧ HadTurn events k
  once : (answers.map (·.1)).Nodup
  /-- Nothing was asked of the server but the way that was opened beforehand, and one way for each
  connection that was answered. -/
  notes : t.server.2 = opened :: answers.map fun a => (request, a.2)
  /-- No two connections were given one way. -/
  own : ∀ (i j : Nat) (p q : Passage) (way : Way), t.relay.accepted[i]? = some p →
    t.relay.accepted[j]? = some q → p.way? = some way → q.way? = some way → i = j

theorem FaresFirst.way_eq {p : Passage} {way : Way} (fares : FaresFirst events p)
    (given : p.way? = some way) : way = 0 := by
  obtain ⟨_, _, -, -, -, relayed⟩ := fares
  exact Option.some.inj (given.symm.trans relayed.way?)

/-- No two connections were given the same way. -/
theorem Kept.own (kept : Kept request opened events answers t) {i j : Nat} {p q : Passage} {way : Way}
    (hi : t.relay.accepted[i]? = some p) (hj : t.relay.accepted[j]? = some q)
    (one : p.way? = some way) (other : q.way? = some way) : i = j := by
  cases i with
  | zero =>
    cases j with
    | zero => rfl
    | succ j =>
      have pos := (kept.later j q hj).way_pos other
      rw [(kept.first p hi).way_eq one] at pos
      cases pos
  | succ i =>
    cases j with
    | zero =>
      have pos := (kept.later i p hi).way_pos one
      rw [(kept.first q hj).way_eq other] at pos
      cases pos
    | succ j => exact (kept.later i p hi).way_inj (kept.later j q hj) one other

theorem Relayed.not_cancelled {k : Nat} {way way' : Way} {since : List RelayEvent}
    (relayed : Relayed k way since (.through way')) : .cancelled ∉ since := by
  cases relayed with
  | through _ live => exact live

/-- The cancellation ends all that is relayed. -/
theorem Kept.not_cancelled (kept : Kept request opened events answers t) {way : Way}
    (relayed : .through way ∈ t.relay.accepted) : .cancelled ∉ events := by
  obtain ⟨k, hk⟩ := List.getElem?_of_mem relayed
  cases k with
  | zero =>
    obtain ⟨before, since, rfl, -, live, relayed⟩ := kept.first _ hk
    simp [live, relayed.not_cancelled]
  | succ k =>
    cases kept.later k _ hk with
    | relayed _ _ turn live relayed =>
      rw [turn.split]
      simp [live, relayed.not_cancelled]

theorem takeWhile_keepsOpen (events : List RelayEvent) :
    events.takeWhile (·.keepsOpen) =
      (events.takeWhile (· ≠ .cancelled)).takeWhile (· ≠ .fault) := by
  rw [List.takeWhile_takeWhile]
  congr 1
  funext e
  simp [RelayEvent.keepsOpen]

theorem arrivals_le (events : List RelayEvent) :
    arrivals events ≤ (events.takeWhile (· ≠ .cancelled)).count .connection := by
  rw [arrivals, takeWhile_keepsOpen]
  exact (List.takeWhile_prefix _).sublist.count_le _

theorem arrivals_eq {events : List RelayEvent} (sound : .fault ∉ events) :
    arrivals events = (events.takeWhile (· ≠ .cancelled)).count .connection := by
  rw [arrivals, takeWhile_keepsOpen, List.takeWhile_eq_self_iff.mpr]
  intro e mem
  have : e ≠ .fault := fun eq => sound (eq ▸ (List.takeWhile_prefix _).subset mem)
  simpa using this

theorem Kept.serves (kept : Kept request opened events answers t) :
    Serves request opened events answers t where
  accepts sound := kept.accepts.trans (arrivals_eq sound)
  refrains := kept.accepts.trans_le (arrivals_le events)
  listens sound := by
    rw [kept.listens, List.all_eq_true]
    refine ⟨fun all mem => by simpa [RelayEvent.keepsOpen] using all _ mem, fun uncancelled e mem => ?_⟩
    have faultless : e ≠ .fault := fun eq => sound (eq ▸ mem)
    have going : e ≠ .cancelled := fun eq => uncancelled (eq ▸ mem)
    simp [RelayEvent.keepsOpen, faultless, going]
  first := kept.first
  later := kept.later
  ends cancelled _ hp _ relayed := kept.not_cancelled (relayed ▸ hp) cancelled
  asked := kept.asked
  once := kept.once
  notes := kept.notes
  own _ _ _ _ _ := kept.own

/-- **A tunnel serves as it should** after it was opened, whatever the server answers. -/
theorem serves_of_run {s : σ} {s' : σ × Notes}
    (established : Client.openForward server.noting pod port (s, []) = (s', .ok ()))
    (events : List RelayEvent) :
    ∃ request reply answers,
      request.uri.toList = (s!"/api/v1/namespaces/{pod.namespaceName}/pods/{pod.name}/portforward?&ports={port}"
        ).toList.takeWhile (· ≠ '#') ∧ reply.opening = .ok () ∧
      Serves request (request, reply) events answers
        (run server.noting pod port ⟨.start, s'⟩ events) := by
  obtain ⟨request, reply, built, opening, noted⟩ := Client.openForward_noting established
  obtain ⟨answers, kept⟩ := kept_run built noted events
  exact ⟨request, reply, answers, Request.uri_of_portForward built, opening, kept.serves⟩

/-- A server that refuses the second way that it is asked for. -/
def fickle : Server Nat := fun _ asked =>
  (asked + 1, if asked = 1 then .response 403 .empty else .upgraded)

def somePod : PodRef := ⟨"default", "p"⟩

theorem portForward_somePod : Request.portForward somePod 8451 =
    .ok ⟨"/api/v1/namespaces/default/pods/p/portforward?&ports=8451"⟩ := by
  decide +kernel

/-- **A connection need not be relayed**: if it is refused a way of its own, then it is closed, and the
tunnel still listens. -/
theorem closed_of_refused_way :
    Client.openForward fickle somePod 8451 0 = (1, .ok ()) ∧
      (run fickle somePod 8451 ⟨.start, 1⟩ [.connection, .connection, .turn 1]).relay =
        ⟨true, false, none, 1, [.through 0, .closed]⟩ := by
  constructor
  · simp [Client.openForward, Client.requestForward, send, portForward_somePod, fickle,
      Reply.opening]
  · simp [run, step, Relay.start, Relay.accept, Relay.isWaiting, Relay.answer, Client.requestForward,
      send, portForward_somePod, fickle, Reply.opening, Except.toBool]

/-- Four connections come before the cancellation, the last of which is done by then, and one comes after
it; the second one does not ask before. -/
def visits : List RelayEvent :=
  [.connection, .connection, .connection, .connection, .turn 2, .turn 3, .finished 3, .cancelled,
    .connection, .turn 1]

/-- The tunnel for which `fickle` opened the first way. -/
def visited : Served (Nat × Notes) :=
  run fickle.noting somePod 8451 ⟨.start, 1,
    [(⟨"/api/v1/namespaces/default/pods/p/portforward?&ports=8451"⟩, .upgraded)]⟩ visits

/-- The first connection is relayed until the cancellation. Of the later ones, the one that asks first is
refused, the next one is relayed until it is done, and the last one is given a way too late. -/
theorem serves_four :
    visited.relay = ⟨false, true, none, 3, [.cut 0, .dropped 2, .closed, .finished 1]⟩ ∧
    ∃ request reply answers,
      request.uri.toList = "/api/v1/namespaces/default/pods/p/portforward?&ports=8451".toList ∧
      reply.opening = .ok () ∧ Serves request (request, reply) visits answers visited := by
  constructor
  · simp [visited, visits, run, step, Relay.start, Relay.accept, Relay.isWaiting, Relay.answer,
      Relay.granted, Relay.cancel, Relay.finish, Passage.cancel, Passage.finish, Client.requestForward,
      send, portForward_somePod, Server.noting, fickle, Reply.opening, Except.toBool]
  · have established : Client.openForward fickle.noting somePod 8451 (0, []) =
        ((1, [(⟨"/api/v1/namespaces/default/pods/p/portforward?&ports=8451"⟩, .upgraded)]), .ok ()) := by
      simp [Client.openForward, Client.requestForward, send, portForward_somePod, Server.noting, fickle,
        Reply.opening]
    obtain ⟨request, reply, answers, uri, serves⟩ := serves_of_run established visits
    refine ⟨request, reply, answers, uri.trans ?_, serves⟩
    decide +kernel

end Served

end MonitorFleet.Kubernetes
