import MonitorFleet.Proofs.Task.Frames
import MonitorFleet.Proofs.Transfer.Chunks

/-!
# An attempt and what it meets

An attempt goes as far as the cluster and the monitor let it. What they would do in one attempt is
its conduct (`Conduct`); the attempt is given the answers up to the first that ends it
(`Conduct.answers`), and comes to an error or to none (`Conduct.error?`). If its call is taken, the
chunks that it receives are added to the file, whether the stream comes to a good end or breaks.

## What is proved

* `Conduct.Awaits.goes_on`: an attempt that goes on awaits the answers that are left.
* `Conduct.Awaits.ends`: an attempt that ends was given all answers, and its result and what it
  left in the file are those of the conduct.
-/

namespace MonitorFleet

/-- **What the cluster and a monitor do in an attempt**, as far as it gets. -/
structure Conduct where
  /-- The address of the node, for an attempt that needs it. -/
  address : Except Error String
  /-- The pod on the node, for an attempt that needs it. -/
  pod : Except Error PodRef
  /-- The local end of a tunnel to the pod. -/
  localPort : Except Error UInt16
  /-- Whether somebody answers at the endpoint. -/
  reached : Bool
  /-- What the monitor says to the call. -/
  reply : Except Status Unit
  /-- What the monitor streams. -/
  chunks : List ByteArray
  /-- What breaks the stream behind the chunks, if anything does. -/
  break? : Option Status

namespace Conduct

variable (c : Conduct) (m : Monitors) (job : Job) (node path : String)

/-! ### The answers -/

/-- The end of the stream. -/
def last : Answer :=
  match c.break? with
  | some status => .broken status
  | none => .ended

/-- The answers to a call. -/
def answersToCall : List Answer :=
  .reply c.reply ::
    match c.reply with
    | .ok () => c.chunks.map .chunk ++ [c.last]
    | .error _ => []

/-- The answers from a valid endpoint. -/
def answersFrom : List Answer := .connected c.reached :: if c.reached then c.answersToCall else []

/-- The answers once an endpoint is resolved. -/
def answersAt (endpoint : Endpoint) : List Answer :=
  if Net.isServiceAddress endpoint.text then c.answersFrom else []

/-- The answers once a pod is found. -/
def answersBehindPod : List Answer :=
  .localPort c.localPort ::
    match c.localPort with
    | .ok port => c.answersAt ⟨tunnelHost, port⟩
    | .error _ => []

/-- The answers that an attempt is given, up to the one that ends it. -/
def answers : List Answer :=
  match m.connectivity with
  | .direct =>
    .address c.address ::
      match c.address with
      | .ok ip => c.answersAt ⟨ip, m.port⟩
      | .error _ => []
  | .portForward =>
    .pod c.pod ::
      match c.pod with
      | .ok _ => c.answersBehindPod
      | .error _ => []

/-! ### What comes of them -/

/-- The endpoint of the monitor. -/
def endpoint : Except Error Endpoint :=
  match m.connectivity with
  | .direct => c.address.map fun ip => ⟨ip, m.port⟩
  | .portForward =>
    match c.pod with
    | .error error => .error error
    | .ok _ => c.localPort.map fun port => ⟨tunnelHost, port⟩

/-- What an attempt fails of, if it does; the answer is streamed to a path. -/
def error? : Option Error :=
  match c.endpoint m with
  | .error error => some (error.asResolution node)
  | .ok endpoint =>
    if Net.isServiceAddress endpoint.text = false then
      some (.connect endpoint.text .invalidAddress)
    else if c.reached = false then some (.connect endpoint.text .unreachable)
    else match c.reply with
      | .error status => some (.remoteCall node job.call.name status)
      | .ok () => c.break?.map fun status => .transfer path (.receive status)

/-- Whether the call of an attempt is taken. -/
def isTaken : Bool :=
  match c.endpoint m with
  | .error _ => false
  | .ok endpoint =>
    Net.isServiceAddress endpoint.text && c.reached &&
      match c.reply with
      | .ok () => true
      | .error _ => false

/-- The chunks that an attempt receives, whether or not its stream breaks. -/
def received : List ByteArray := if c.isTaken m then c.chunks else []

end Conduct

/-! ### The file -/

/-- Whether a file is opened, or added to, when this answer arrives. -/
def Answer.isTaken : Answer → Bool
  | reply (.ok _) => true
  | chunk _ => true
  | _ => false

/-- What an answer does to the files if the answers are streamed to a location. -/
inductive Tree.Takes (tree later : Tree) (place : Location) : Answer → Prop where
  /-- Nothing. -/
  | same {a : Answer} (quiet : a.isTaken = false) (unchanged : later = tree) :
      Takes tree later place a
  /-- The file is opened. -/
  | opened (filled : Filled tree later place ((tree.content? place).getD .empty)) :
      Takes tree later place (.reply (.ok ()))
  /-- A chunk is added to it. -/
  | grown {data content : ByteArray} (held : tree.content? place = some content)
      (filled : Filled tree later place (content ++ data)) : Takes tree later place (.chunk data)

theorem Tree.Takes.eq_or_filled {tree later : Tree} {place : Location} {a : Answer}
    (h : Tree.Takes tree later place a) :
    later = tree ∨ ∃ content, Tree.Filled tree later place content := by
  cases h with
  | same _ unchanged => exact .inl unchanged
  | opened filled => exact .inr ⟨_, filled⟩
  | grown _ filled => exact .inr ⟨_, filled⟩

/-- The chunks among answers. -/
def chunksOf (answers : List Answer) : List ByteArray :=
  answers.filterMap fun
    | .chunk data => some data
    | _ => none

@[simp] theorem chunksOf_append (first second : List Answer) :
    chunksOf (first ++ second) = chunksOf first ++ chunksOf second := List.filterMap_append ..

namespace Conduct

/-- What a monitor that took the call streams. -/
theorem chunksOf_stream (c : Conduct) : chunksOf (c.chunks.map .chunk ++ [c.last]) = c.chunks := by
  have only : chunksOf (c.chunks.map .chunk) = c.chunks := by
    induction c.chunks with
    | nil => rfl
    | cons data chunks ih =>
      rw [List.map_cons, chunksOf, List.filterMap_cons]
      exact congrArg (data :: ·) ih
  have last : chunksOf [c.last] = [] := by
    unfold last
    cases c.break? <;> rfl
  rw [chunksOf_append, only, last, List.append_nil]

/-- Whether a call is taken in answers, and the chunks among them, which then are these. -/
structure Streams (answers : List Answer) (taken : Bool) (chunks : List ByteArray) : Prop where
  any : answers.any Answer.isTaken = taken
  parts : chunksOf answers = if taken then chunks else []

theorem Streams.none (chunks : List ByteArray) : Streams [] false chunks := ⟨rfl, rfl⟩

theorem Streams.behind {answers : List Answer} {taken : Bool} {chunks : List ByteArray}
    {a : Answer} (h : Streams answers taken chunks) (quiet : a.isTaken = false) :
    Streams (a :: answers) taken chunks where
  any := by rw [List.any_cons, quiet, Bool.false_or, h.any]
  parts := by
    have silent : chunksOf (a :: answers) = chunksOf answers := by
      cases a with
      | chunk _ => cases quiet
      | _ => rfl
    rw [silent, h.parts]

theorem streams_answersToCall (c : Conduct) :
    Streams c.answersToCall (match c.reply with | .ok () => true | .error _ => false) c.chunks := by
  unfold answersToCall
  cases c.reply with
  | error status => exact (Streams.none _).behind rfl
  | ok _ => exact ⟨rfl, c.chunksOf_stream⟩

theorem streams_answersAt (c : Conduct) (endpoint : Endpoint) :
    Streams (c.answersAt endpoint) (Net.isServiceAddress endpoint.text && c.reached &&
      match c.reply with | .ok () => true | .error _ => false) c.chunks := by
  unfold answersAt
  cases Net.isServiceAddress endpoint.text with
  | false => exact .none _
  | true =>
    rw [if_pos rfl, answersFrom]
    cases c.reached with
    | false => exact (Streams.none _).behind rfl
    | true => exact c.streams_answersToCall.behind rfl

/-- The answers of a conduct hold the chunks that are received. -/
theorem streams_answers (c : Conduct) (m : Monitors) :
    Streams (c.answers m) (c.isTaken m) c.chunks := by
  unfold answers isTaken endpoint
  cases m.connectivity with
  | direct =>
    cases c.address with
    | error error => exact (Streams.none _).behind rfl
    | ok ip => exact (c.streams_answersAt _).behind rfl
  | portForward =>
    cases c.pod with
    | error error => exact (Streams.none _).behind rfl
    | ok pod =>
      simp only [answersBehindPod]
      cases c.localPort with
      | error error => exact ((Streams.none _).behind rfl).behind rfl
      | ok port => exact ((c.streams_answersAt _).behind rfl).behind rfl

end Conduct

/-! ### Along an attempt -/

/-- What failed, if the result is a failure. -/
@[simp] def failure? {α : Type} : Except Error α → Option Error
  | .ok _ => none
  | .error error => some error

namespace Conduct

variable {c : Conduct} {m : Monitors} {run : RunToken} {job : Job} {node path : String}
  {place : Location} {a : Answer} {rest : List Answer} {w w' : World}

/-- Where an attempt stands that meets a conduct, and the answers that are left. -/
inductive Awaits (c : Conduct) (m : Monitors) (node path : String) (place : Location) :
    Attempt → List Answer → Prop where
  /-- The address is not known. -/
  | address {rest : List Answer} (direct : m.connectivity = .direct)
      (left : rest = c.answers m) : Awaits c m node path place (.dialing (.resolving .address)) rest
  /-- The pod is not known. -/
  | pod {rest : List Answer} (tunneled : m.connectivity = .portForward)
      (left : rest = c.answers m) : Awaits c m node path place (.dialing (.resolving .pod)) rest
  /-- The tunnel is not open. -/
  | tunnel {p p' : PodRef} {token : TunnelToken} {rest : List Answer}
      (tunneled : m.connectivity = .portForward) (found : c.pod = .ok p')
      (left : rest = c.answersBehindPod) :
      Awaits c m node path place (.dialing (.resolving (.tunnel p token))) rest
  /-- The endpoint is resolved, and valid. -/
  | connecting {r : Resolved} {rest : List Answer} (resolved : c.endpoint m = .ok r.endpoint)
      (valid : Net.isServiceAddress r.endpoint.text = true) (left : rest = c.answersFrom) :
      Awaits c m node path place (.dialing (.connecting r)) rest
  /-- The monitor is called. -/
  | calling {connection : Connection} {endpoint : Endpoint} {rest : List Answer}
      (resolved : c.endpoint m = .ok endpoint)
      (valid : Net.isServiceAddress endpoint.text = true) (reached : c.reached = true)
      (named : connection.node = node) (left : rest = c.answersToCall) :
      Awaits c m node path place (.calling connection) rest
  /-- Some chunks are left. -/
  | receiving {connection : Connection} {transfer : Transfer} {chunks : List ByteArray}
      {rest : List Answer} (taken : c.isTaken m = true)
      (opened : transfer.path = path ∧ transfer.place = place ∧ transfer.refused = none)
      (left : rest = chunks.map .chunk ++ [c.last]) :
      Awaits c m node path place (.receiving connection transfer) rest

/-- An attempt always awaits an answer. -/
theorem Awaits.ne_nil {stage : Attempt} (h : c.Awaits m node path place stage rest) :
    rest ≠ [] := by
  cases h with
  | address direct left =>
    rw [left, answers, direct]
    exact List.cons_ne_nil _ _
  | pod tunneled left =>
    rw [left, answers, tunneled]
    exact List.cons_ne_nil _ _
  | tunnel _ _ left => exact left ▸ List.cons_ne_nil _ _
  | connecting _ _ left => exact left ▸ List.cons_ne_nil _ _
  | calling _ _ _ _ left => exact left ▸ List.cons_ne_nil _ _
  | receiving _ _ left => exact left ▸ List.concat_ne_nil _ _

theorem awaits_start (c : Conduct) (m : Monitors) (node path : String) (place : Location)
    (w : World) : c.Awaits m node path place (Attempt.start m node w).2 (c.answers m) := by
  unfold Attempt.start Dialing.start Resolving.start
  cases h : m.connectivity with
  | direct => exact .address h rfl
  | portForward => exact .pod h rfl

/-- The end of a resolution. -/
theorem Awaits.resolved {stage : Resolving} {spans : List Span} {result : Except Error Resolved}
    (h : c.Awaits m node path place (.dialing (.resolving stage)) (a :: rest))
    (step : Resolving.Goes m run node spans w stage a w' (.finished result)) :
    a.isTaken = false ∧ w'.tree = w.tree ∧
      match result with
      | .ok r => c.endpoint m = .ok r.endpoint ∧ rest = c.answersAt r.endpoint
      | .error error => rest = [] ∧ ∃ error', c.endpoint m = .error error' ∧
          error.asResolution node = error'.asResolution node := by
  cases h with
  | address direct left =>
    rw [answers, direct] at left
    cases step with
    | noAddress =>
      injection left with hhead hrest
      injection hhead with haddress
      rw [← haddress] at hrest
      refine ⟨rfl, rfl, hrest, _, ?_, rfl⟩
      rw [endpoint, direct, ← haddress]
      rfl
    | address =>
      injection left with hhead hrest
      injection hhead with haddress
      rw [← haddress] at hrest
      refine ⟨rfl, rfl, ?_, hrest⟩
      rw [endpoint, direct, ← haddress]
      rfl
  | pod tunneled left =>
    rw [answers, tunneled] at left
    cases step with
    | noPod =>
      injection left with hhead hrest
      injection hhead with hpod
      rw [← hpod] at hrest
      refine ⟨rfl, rfl, hrest, _, ?_, rfl⟩
      rw [endpoint, tunneled, ← hpod]
  | tunnel tunneled found left =>
    rw [answersBehindPod] at left
    cases step with
    | noTunnel =>
      injection left with hhead hrest
      injection hhead with hport
      rw [← hport] at hrest
      refine ⟨rfl, World.tree_release .., hrest, _, ?_, Error.asResolution_asResolution ..⟩
      rw [endpoint, tunneled, found, ← hport]
      rfl
    | tunnel =>
      injection left with hhead hrest
      injection hhead with hport
      rw [← hport] at hrest
      refine ⟨rfl, rfl, ?_, hrest⟩
      rw [endpoint, tunneled, found, ← hport]
      rfl

/-- A call is taken if the endpoint is reached and the monitor agrees. -/
theorem isTaken_of_reply {endpoint : Endpoint} (resolved : c.endpoint m = .ok endpoint)
    (valid : Net.isServiceAddress endpoint.text = true) (reached : c.reached = true)
    (agreed : c.reply = .ok ()) : c.isTaken m = true := by
  simp only [isTaken, resolved, valid, reached, agreed, Bool.and_self]

/-- A call that is taken fails only by a break of its stream. -/
theorem error?_of_isTaken (taken : c.isTaken m = true) :
    c.error? m job node path = c.break?.map fun status => .transfer path (.receive status) := by
  unfold isTaken at taken
  unfold error?
  split at taken
  · cases taken
  · next endpoint resolved =>
    rw [Bool.and_eq_true, Bool.and_eq_true] at taken
    obtain ⟨⟨valid, reached⟩, agreed⟩ := taken
    cases hreply : c.reply with
    | error status => simp [hreply] at agreed
    | ok _ => simp [valid, reached]

/-- The next part of a stream is one of the chunks that are left, or the end. -/
theorem left_cases {chunks : List ByteArray} (left : a :: rest = chunks.map .chunk ++ [c.last]) :
    (∃ (data : ByteArray) (chunks' : List ByteArray),
        a = .chunk data ∧ rest = chunks'.map .chunk ++ [c.last]) ∨
      (a = c.last ∧ rest = []) := by
  cases chunks with
  | nil =>
    injection left with hhead hrest
    exact .inr ⟨hhead, hrest⟩
  | cons data chunks =>
    injection left with hhead hrest
    exact .inl ⟨data, chunks, hhead, hrest⟩

theorem break?_of_broken {status : Status} (h : .broken status = c.last) :
    c.break? = some status := by
  unfold last at h
  split at h
  · next hbreak => cases h; exact hbreak
  · cases h

theorem break?_of_ended (h : .ended = c.last) : c.break? = none := by
  unfold last at h
  split at h
  · cases h
  · next hbreak => exact hbreak

theorem last_ne_chunk (data : ByteArray) : c.last ≠ .chunk data := by
  unfold last
  split <;> rintro ⟨⟩

/-- An attempt that goes on awaits the answers that are left. -/
theorem Awaits.goes_on {stage stage' : Attempt} (streams : job.path? = some path)
    (leads : w.tree.place? path = some place)
    (present : stage.isReceiving = true → (w.tree.content? place).isSome = true)
    (h : c.Awaits m node path place stage (a :: rest))
    (step : Attempt.Goes m run job node w stage a w' (.waiting stage')) :
    c.Awaits m node path place stage' rest ∧ Tree.Takes w.tree w'.tree place a ∧
      (stage'.isReceiving = true → (w'.tree.content? place).isSome = true) := by
  cases step with
  | dials step =>
    cases step with
    | resolves step =>
      cases step with
      | pod =>
        cases h with
        | pod tunneled left =>
          rw [answers, tunneled] at left
          injection left with hhead hrest
          injection hhead with hpod
          rw [← hpod] at hrest
          exact ⟨.tunnel tunneled hpod.symm hrest, .same rfl rfl, nofun⟩
    | connects step valid =>
      obtain ⟨quiet, htree, hendpoint, hrest⟩ := h.resolved step
      rw [answersAt, if_pos valid] at hrest
      exact ⟨.connecting hendpoint valid hrest, .same quiet htree, nofun⟩
  | calls step =>
    cases step with
    | connected =>
      cases h with
      | connecting resolved valid left =>
        injection left with hhead hrest
        injection hhead with hreached
        rw [← hreached, if_pos rfl] at hrest
        exact ⟨.calling resolved valid hreached.symm rfl hrest, .same rfl rfl, nofun⟩
  | opened streams' start =>
    cases h with
    | calling resolved valid reached named left =>
      injection left with hhead hrest
      injection hhead with hreply
      rw [← hreply] at hrest
      obtain rfl := Option.some.inj (streams.symm.trans streams')
      obtain ⟨later, hstart, filled⟩ := Transfer.start_of_place? leads
      rw [hstart] at start
      cases start
      refine ⟨.receiving (isTaken_of_reply resolved valid reached hreply.symm) ⟨rfl, rfl, rfl⟩ hrest,
        .opened filled, fun _ => ?_⟩
      rw [Tree.content?_of_get? filled.self]
      rfl
  | @takes connection transfer transfer' data tree taken =>
    cases h with
    | receiving isTaken opened left =>
      obtain ⟨hpath, rfl, unrefused⟩ := opened
      obtain ⟨content, later, held, hchunk, filled⟩ :=
        Transfer.chunk_of_place? unrefused leads (present rfl) data
      rw [hchunk] at taken
      cases taken
      rcases left_cases left with ⟨_, _, -, hrest⟩ | ⟨hlast, -⟩
      · refine ⟨.receiving isTaken ⟨hpath, rfl, unrefused⟩ hrest, .grown held filled, fun _ => ?_⟩
        rw [Tree.content?_of_get? filled.self]
        rfl
      · exact absurd hlast.symm (last_ne_chunk data)

/-- An attempt that is not connected was given all answers. -/
theorem Awaits.undialed {stage : Dialing} {error : Error}
    (h : c.Awaits m node path place (.dialing stage) (a :: rest))
    (step : Dialing.Goes m run node w stage a w' (.finished (.error error))) :
    rest = [] ∧ a.isTaken = false ∧ w'.tree = w.tree ∧ c.error? m job node path = some error := by
  cases step with
  | unresolved step =>
    obtain ⟨quiet, htree, hrest, error', hendpoint, herror⟩ := h.resolved step
    refine ⟨hrest, quiet, htree, ?_⟩
    simp only [error?, hendpoint, herror]
  | invalid step invalid =>
    obtain ⟨quiet, htree, hendpoint, hrest⟩ := h.resolved step
    rw [answersAt, if_neg (by simp [invalid])] at hrest
    refine ⟨hrest, quiet, by simp [htree], ?_⟩
    simp only [error?, hendpoint, invalid, if_true]
  | unreachable =>
    cases h with
    | connecting resolved valid left =>
      injection left with hhead hrest
      injection hhead with hreached
      rw [← hreached] at hrest
      refine ⟨hrest, rfl, World.tree_release .., ?_⟩
      simp [error?, resolved, valid, ← hreached]

/-- An attempt that ends was given all answers, and comes to what its conduct comes to. -/
theorem Awaits.ends {stage : Attempt} {result : Except Error UInt64}
    (streams : job.path? = some path) (leads : w.tree.place? path = some place)
    (present : stage.isReceiving = true → (w.tree.content? place).isSome = true)
    (h : c.Awaits m node path place stage (a :: rest))
    (step : Attempt.Goes m run job node w stage a w' (.finished result)) :
    rest = [] ∧ a.isTaken = false ∧ w'.tree = w.tree ∧
      c.error? m job node path = failure? result := by
  cases step with
  | undialed step => exact h.undialed step
  | refused =>
    cases h with
    | calling resolved valid reached named left =>
      injection left with hhead hrest
      injection hhead with hreply
      rw [← hreply] at hrest
      refine ⟨hrest, rfl, World.tree_release .., ?_⟩
      simp [error?, resolved, valid, reached, ← hreply, named]
  | acknowledged silent =>
    rw [streams] at silent
    cases silent
  | unopened streams' refused =>
    obtain rfl := Option.some.inj (streams.symm.trans streams')
    obtain ⟨later, hstart, _⟩ := Transfer.start_of_place? leads
    rw [hstart] at refused
    cases refused
  | @chokes connection transfer data tree error refused =>
    cases h with
    | receiving _ opened _ =>
      obtain ⟨-, rfl, unrefused⟩ := opened
      obtain ⟨_, _, -, hchunk, -⟩ := Transfer.chunk_of_place? unrefused leads (present rfl) data
      rw [hchunk] at refused
      cases refused
  | broken =>
    cases h with
    | receiving isTaken opened left =>
      obtain ⟨hpath, -, -⟩ := opened
      rcases left_cases left with ⟨_, _, ⟨⟩, -⟩ | ⟨hlast, hrest⟩
      refine ⟨hrest, rfl, World.tree_release .., ?_⟩
      rw [error?_of_isTaken isTaken, break?_of_broken hlast, ← hpath]
      rfl
  | unfinished refused =>
    cases h with
    | receiving _ opened _ =>
      obtain ⟨-, -, unrefused⟩ := opened
      rw [Transfer.finish, unrefused] at refused
      cases refused
  | finishes finish =>
    cases h with
    | receiving isTaken opened left =>
      rcases left_cases left with ⟨_, _, ⟨⟩, -⟩ | ⟨hlast, hrest⟩
      refine ⟨hrest, rfl, by simp [Attempt.succeed], ?_⟩
      rw [error?_of_isTaken isTaken, break?_of_ended hlast]
      rfl

end Conduct

end MonitorFleet
