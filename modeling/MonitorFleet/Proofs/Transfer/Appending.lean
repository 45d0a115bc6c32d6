import MonitorFleet.Proofs.Transfer.Disks
import MonitorFleet.Proofs.Tree.Changes
import MonitorFleet.Proofs.Tree.Straight

/-!
# A transfer is an exact append

What a stream brings goes to the end of its file, exactly: the chunks up to where the stream breaks,
in order, behind what was in the file, and nothing else. The result tells whether the stream broke,
and the counter of bytes grows by what a success reports. If the file cannot be opened, or refuses a
block, the transfer does not succeed.

## What is proved

* `Tree.disk`, `run_eq_disk`: the tree is a disk, and a transfer in the tree is one to this disk.
* `fills_of_run`: a transfer to a path that leads to a file, or to a free name.
* `fills_of_runAll`: transfers to one path, one after the other.
* `run_appends_exactly`: the whole of it, for every disk and for the tree.
-/

namespace MonitorFleet

/-- The tree as a disk. -/
def Tree.disk : Disk Tree Location where
  openFile path tree := tree.openFile path
  write place tree data :=
    match tree.append place data with
    | .ok later => (.ok (), later)
    | .error fault => (.error fault, tree)
  content? place tree := tree.content? place
  opens path tree place later h := by
    obtain rfl | ⟨-, free, filled⟩ := Tree.created_of_openFile h
    · exact .inl rfl
    · exact .inr ⟨by rw [Tree.content?, free], Tree.content?_of_get? filled.self⟩
  appends place tree data later h := by
    cases happend : tree.append place data with
    | error fault =>
      rw [happend] at h
      cases h
    | ok next =>
      rw [happend] at h
      cases h
      unfold Tree.append at happend
      split at happend
      · next content hget =>
        cases happend
        have filled := Tree.filled_put tree (content ++ data) (Tree.ne_nil_of_file hget)
        rw [Tree.content?_of_get? hget, Tree.content?_of_get? filled.self]
        rfl
      · next hget =>
        split at happend
        · cases happend
          rw [Tree.content?, hget]
          rfl
        · cases happend
      · next other _ =>
        cases happend
        have none : tree.content? place = none := by
          unfold Tree.content?
          split
          · next content hget => exact absurd hget (other content)
          · rfl
        rw [none]
        rfl

namespace Transfer

/-- A transfer in the tree, as one to a disk. -/
def toCopy (t : Transfer) : Disk.Copy Location := ⟨t.path, t.place, t.written, t.refused⟩

theorem block_toCopy (t : Transfer) (tree : Tree) (data : ByteArray) :
    Tree.disk.block t.toCopy tree data =
      (t.block tree data).map fun next => (next.1.toCopy, next.2) := by
  obtain ⟨path, place, written, refused⟩ := t
  rw [Disk.block, block, toCopy]
  cases refused with
  | some fault => rfl
  | none =>
    dsimp only [Tree.disk]
    cases tree.append place data <;> rfl

theorem blocksIn_toCopy (t : Transfer) (tree : Tree) (parts : List ByteArray) :
    Tree.disk.blocksIn t.toCopy tree parts =
      ((t.blocksIn tree parts).1.map toCopy, (t.blocksIn tree parts).2) := by
  induction parts generalizing t tree with
  | nil => rfl
  | cons data rest ih =>
    rw [Disk.blocksIn, blocksIn, block_toCopy]
    cases t.block tree data with
    | error error => rfl
    | ok next => exact ih _ _

theorem chunk_toCopy (t : Transfer) (tree : Tree) (data : ByteArray) :
    Tree.disk.chunk t.toCopy tree data =
      ((t.chunk tree data).1.map toCopy, (t.chunk tree data).2) := by
  rw [Disk.chunk, chunk, blocksIn_toCopy]
  cases t.blocksIn tree (blocks data) with
  | mk result later => cases result <;> rfl

theorem drain_toCopy (t : Transfer) (tree : Tree) (stream : List StreamItem) :
    t.drain tree stream =
      ((Tree.disk.drain t.toCopy tree stream).1, (Tree.disk.drain t.toCopy tree stream).2.1) := by
  induction stream generalizing t tree with
  | nil => rfl
  | cons item rest ih =>
    cases item with
    | broken status => rfl
    | chunk data =>
      rw [Disk.drain, drain, chunk_toCopy]
      cases t.chunk tree data with
      | mk result later =>
        cases result with
        | error error => rfl
        | ok next => exact ih _ _

/-- **A transfer in the tree is one to the tree's disk.** -/
theorem run_eq_disk (path : String) (stream : List StreamItem) (tree : Tree) (counters : Counters) :
    run path stream tree counters =
      ((Tree.disk.run path stream tree counters).result,
        (Tree.disk.run path stream tree counters).disk,
        (Tree.disk.run path stream tree counters).counters) := by
  rw [run, start, Disk.run]
  dsimp only [Tree.disk]
  cases tree.openFile path with
  | error fault => rfl
  | ok opened =>
    obtain ⟨place, opened⟩ := opened
    dsimp only
    rw [drain_toCopy]
    rfl

variable {tree : Tree} {place : Location} {path : String} {content : ByteArray}

/-- A file in the tree takes all blocks. -/
theorem writeAll_of_content? (hne : place ≠ []) (held : tree.content? place = some content)
    (parts : List ByteArray) :
    ∃ later, Tree.disk.writeAll place tree parts = (.ok (), later) ∧
      Tree.Filled tree later place (content ++ joined parts) := by
  induction parts generalizing tree content with
  | nil =>
    refine ⟨tree, rfl, ?_⟩
    rw [joined_nil, ByteArray.append_empty]
    exact Tree.filled_self (Tree.get?_of_content? held)
  | cons data parts ih =>
    obtain ⟨next, happend, hnext⟩ := Tree.append_of_content? hne held data
    obtain ⟨later, htaken, hlater⟩ := ih (Tree.content?_of_get? hnext.self)
    refine ⟨later, ?_, ?_⟩
    · have taken : Tree.disk.write place tree data = (.ok (), next) := by
        dsimp only [Tree.disk]
        rw [happend]
      rw [Disk.writeAll, taken]
      exact htaken
    · rw [joined_cons, ← ByteArray.append_assoc]
      exact hnext.trans hlater

/-- A transfer to a file, or to a free name, adds the chunks up to where the stream breaks, and
changes nothing else. -/
theorem fills_of_run (leads : tree.place? path = some place) (stream : List StreamItem)
    (counters : Counters) :
    ∃ later,
      run path stream tree counters =
        (ending path stream, later, count counters (ending path stream)) ∧
      Tree.Filled tree later place
        ((tree.content? place).getD .empty ++ joined (received stream)) := by
  obtain ⟨opened, hopen, hopened⟩ := Tree.openFile_of_place? leads
  obtain ⟨later, htaken, hlater⟩ :=
    writeAll_of_content? (Tree.isFileOrFree_of_place? leads).1 (Tree.content?_of_get? hopened.self)
      ((received stream).flatMap blocks)
  rw [Disk.joined_flatMap_blocks] at hlater
  refine ⟨later, ?_, hopened.trans hlater⟩
  rw [run_eq_disk, Disk.run_of_taken (d := Tree.disk) hopen htaken]

/-- Transfers to one path, one after the other. -/
def runAll (path : String) : List (List StreamItem) → Tree → Counters → Tree × Counters
  | [], tree, counters => (tree, counters)
  | stream :: rest, tree, counters =>
    match run path stream tree counters with
    | (_, tree, counters) => runAll path rest tree counters

/-- After transfers to one path its file is what was in it and what each of them received, in
order. -/
theorem fills_of_runAll (leads : tree.place? path = some place) (stream : List StreamItem)
    (rest : List (List StreamItem)) (counters : Counters) :
    Tree.Filled tree (runAll path (stream :: rest) tree counters).1 place
      ((tree.content? place).getD .empty ++ joined ((stream :: rest).flatMap received)) := by
  induction rest generalizing tree stream counters with
  | nil =>
    obtain ⟨later, hrun, hlater⟩ := fills_of_run leads stream counters
    rw [runAll, hrun, List.flatMap_singleton]
    exact hlater
  | cons next rest ih =>
    obtain ⟨later, hrun, hlater⟩ := fills_of_run leads stream counters
    have leads' := hlater.place? (Tree.isFileOrFree_of_place? leads) leads
    have filled := ih leads' next (count counters (ending path stream))
    rw [Tree.content?_of_get? hlater.self, Option.getD_some, ByteArray.append_assoc,
      ← joined_append] at filled
    rw [runAll, hrun, List.flatMap_cons]
    exact hlater.trans filled

/-- A transfer to a disk is an exact append. -/
structure AppendsExactly {σ φ : Type} (d : Disk σ φ) (path : String) (stream : List StreamItem)
    (s : σ) (counters : Counters) : Prop where
  /-- If the file cannot be opened, nothing of the stream is read, and nothing changes. -/
  unopened : ∀ fault, d.openFile path s = .error fault →
    d.run path stream s counters = ⟨.error (.transfer path (.write fault)), s, counters, stream⟩
  /-- If the blocks of the chunks before the break are taken, they are what is written, and what is
  behind the break is not read. The result tells whether the stream broke. -/
  taken : ∀ file opened s', d.openFile path s = .ok (file, opened) →
    d.writeAll file opened ((received stream).flatMap blocks) = (.ok (), s') →
    (d.run path stream s counters).disk = s' ∧
    (d.run path stream s counters).unread = behind stream ∧
    (d.run path stream s counters).result = ending path stream ∧
    ((d.content? file opened).isSome = true → d.content? file s' =
      some ((d.content? file s).getD .empty ++ joined (received stream)))
  /-- If one of the blocks is refused, the result is an error, and no block behind it is written. -/
  refused : ∀ file opened s' fault, d.openFile path s = .ok (file, opened) →
    d.writeAll file opened ((received stream).flatMap blocks) = (.error fault, s') →
    Disk.EndsRefused path fault stream (d.run path stream s counters).result ∧
    (d.run path stream s counters).disk = s'
  /-- The counter of bytes grows by what a success reports, and no other counter changes. -/
  counted : ∀ written, (d.run path stream s counters).result = .ok written → ∀ c,
    (d.run path stream s counters).counters.value c =
      counters.value c + if c = .transferBytes then written else 0
  /-- After an error the counters are as they were. -/
  uncounted : ∀ error, (d.run path stream s counters).result = .error error →
    (d.run path stream s counters).counters = counters

theorem appendsExactly {σ φ : Type} (d : Disk σ φ) (path : String) (stream : List StreamItem)
    (s : σ) (counters : Counters) : AppendsExactly d path stream s counters where
  unopened fault refuses := Disk.run_of_unopened refuses
  taken file opened s' opens taken := by
    rw [Disk.run_of_taken opens taken]
    refine ⟨rfl, rfl, rfl, fun keeps => ?_⟩
    rw [Disk.content?_writeAll taken, Disk.joined_flatMap_blocks]
    rcases d.opens path s file opened opens with same | ⟨absent, made⟩
    · obtain ⟨content, held⟩ := Option.isSome_iff_exists.1 keeps
      rw [← same, held]
      rfl
    · rw [made, absent]
      rfl
  refused file opened s' fault opens refused := Disk.run_of_refused opens refused
  counted written ok c := by
    rw [Disk.counters_run, ok, count, Counters.value_add]
  uncounted error failed := by
    rw [Disk.counters_run, failed, count]

/-- **A transfer is an exact append.** This is so on every disk, whichever blocks it refuses; the tree
is one, and there every path that leads to a file or to a free name takes all blocks. So after any
number of transfers to such a path the file is what was in it, followed by what each of them received,
in order. -/
theorem run_appends_exactly (path : String) (counters : Counters) :
    (∀ (σ φ : Type) (d : Disk σ φ) (stream : List StreamItem) (s : σ),
      AppendsExactly d path stream s counters) ∧
    (∀ (stream : List StreamItem) (tree : Tree), run path stream tree counters =
      ((Tree.disk.run path stream tree counters).result,
        (Tree.disk.run path stream tree counters).disk,
        (Tree.disk.run path stream tree counters).counters)) ∧
    (∀ (tree : Tree) (place : Location), tree.place? path = some place →
      (∀ stream, ∃ later,
        run path stream tree counters =
          (ending path stream, later, count counters (ending path stream)) ∧
        Tree.Filled tree later place
          ((tree.content? place).getD .empty ++ joined (received stream))) ∧
      ∀ stream rest, Tree.Filled tree (runAll path (stream :: rest) tree counters).1 place
        ((tree.content? place).getD .empty ++ joined ((stream :: rest).flatMap received))) := by
  refine ⟨fun _ _ d stream s => appendsExactly d path stream s counters,
    fun stream tree => run_eq_disk path stream tree counters, ?_⟩
  intro tree place leads
  exact ⟨fun stream => fills_of_run leads stream counters,
    fun stream rest => fills_of_runAll leads stream rest counters⟩

/-! ### A disk that fills up, and a file that does not -/

/-- A disk with a file and with room for so many bytes. It takes what there is room for of a block that
it refuses. -/
def small (room : Nat) : Disk ByteArray Unit where
  openFile _ s := .ok ((), s)
  write _ s data :=
    if s.size + data.size ≤ room then (.ok (), s ++ data)
    else (.error .noSpace, s ++ data.extract 0 (room - s.size))
  content? _ s := some s
  opens _ _ _ _ h := by
    cases h
    exact .inl rfl
  appends _ s data s' h := by
    split at h
    · cases h
      rfl
    · cases h

/-- A file that holds one byte. -/
def oneByte : Tree := ⟨[(["out"], .file ⟨#[1]⟩)], []⟩

theorem place?_oneByte : oneByte.place? "out" = some ["out"] := by
  have found : oneByte.find true "out" = .ok (.found ["out"] (.file ⟨#[1]⟩)) :=
    Tree.find_of_straight? rfl true
  rw [Tree.place?, found]
  rfl

/-- A stream breaks and is fetched anew: the file has both parts. On a disk that fills up with the
second chunk the transfer ends at the third, and does not succeed. -/
theorem run_appends_to_one_byte :
    Tree.Filled oneByte
      (runAll "out" [[.chunk ⟨#[2]⟩, .broken ⟨.unavailable, "gone"⟩, .chunk ⟨#[3]⟩],
        [.chunk ⟨#[2]⟩, .chunk ⟨#[3]⟩]] oneByte {}).1 ["out"] ⟨#[1, 2, 2, 3]⟩ ∧
    Disk.EndsRefused "out" .noSpace [.chunk ⟨#[2]⟩, .chunk ⟨#[3, 4]⟩, .chunk ⟨#[5]⟩]
      ((small 3).run "out" [.chunk ⟨#[2]⟩, .chunk ⟨#[3, 4]⟩, .chunk ⟨#[5]⟩] ⟨#[1]⟩ {}).result ∧
    ((small 3).run "out" [.chunk ⟨#[2]⟩, .chunk ⟨#[3, 4]⟩, .chunk ⟨#[5]⟩] ⟨#[1]⟩ {}).disk =
      ⟨#[1, 2, 3]⟩ := by
  refine ⟨((run_appends_exactly "out" {}).2.2 oneByte ["out"] place?_oneByte).2 _ _, ?_⟩
  exact ((run_appends_exactly "out" {}).1 _ _ (small 3) _ _).refused () ⟨#[1]⟩ ⟨#[1, 2, 3]⟩ .noSpace
    rfl rfl

end Transfer

end MonitorFleet
