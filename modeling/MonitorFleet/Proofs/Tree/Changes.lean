import MonitorFleet.Proofs.Transfer.Chunks
import MonitorFleet.Proofs.Tree.Directories

/-!
# What operations change in the tree

Opening a file and adding to it changes one location, at which a file stands afterwards; all else is
as it was (`Written`). It does not matter whether an operation succeeds: a location at which something
else stands than a file is never written to. So the directories stay where they are, and a file at
another location keeps its content.

## What is proved

* `Written.trans`, `Written.keeps`, `Written.get?_of_not`: how changes go together, and what they leave.
* `created_of_openFile`, `written_of_append`, `written_of_write`: the operations on files.
* `Transfer.written_of_start`, `Transfer.written_of_chunk`: the operations on the file of a stream.
* `place?_join`, `openFile_join`: when a file can be opened under a name in a directory.
* `eq_of_openFile_join`, `eq_of_openFile_join_join`: where a file is that was opened under a name, or
  under two.
-/

namespace MonitorFleet

namespace Tree

/-- **Another tree has files at some of these locations** that were files or free, and all else as it
was. -/
structure Written (places : Location → Prop) (tree later : Tree) : Prop where
  current : later.current = tree.current
  get? : ∀ q, later.get? q = tree.get? q ∨
    (places q ∧ tree.IsFileOrFree q ∧ ∃ content, later.get? q = some (.file content))

variable {places places' : Location → Prop} {tree later last : Tree} {place : Location}
  {path name : String} {bytes content : ByteArray}

theorem Written.refl (places : Location → Prop) (tree : Tree) : Written places tree tree :=
  ⟨rfl, fun _ => .inl rfl⟩

theorem Written.trans (h : Written places tree later) (h' : Written places later last) :
    Written places tree last where
  current := h'.current.trans h.current
  get? q := by
    rcases h.get? q with same | ⟨hq, free, _, held⟩
    · rcases h'.get? q with same' | ⟨hq, ⟨hne, free⟩, written⟩
      · exact .inl (same'.trans same)
      · exact .inr ⟨hq, ⟨hne, same ▸ free⟩, written⟩
    · rcases h'.get? q with same' | ⟨-, -, written⟩
      · exact .inr ⟨hq, free, _, same'.trans held⟩
      · exact .inr ⟨hq, free, written⟩

theorem Written.mono (h : Written places tree later) (wider : ∀ q, places q → places' q) :
    Written places' tree later :=
  ⟨h.current, fun q => (h.get? q).imp_right fun ⟨hq, rest⟩ => ⟨wider q hq, rest⟩⟩

/-- Nothing changes at other locations. -/
theorem Written.get?_of_not (h : Written places tree later) {q : Location} (hq : ¬ places q) :
    later.get? q = tree.get? q := (h.get? q).resolve_right fun written => hq written.1

theorem Written.content?_of_not (h : Written places tree later) {q : Location} (hq : ¬ places q) :
    later.content? q = tree.content? q := by
  rw [Tree.content?, Tree.content?, h.get?_of_not hq]

/-- What is no file stays. -/
theorem Written.get?_of_some (h : Written places tree later) {q : Location} {entry : Entry}
    (held : tree.get? q = some entry) (other : ∀ c, entry ≠ .file c) :
    later.get? q = some entry := by
  rcases h.get? q with same | ⟨-, ⟨-, none | ⟨c, file⟩⟩, -⟩
  · exact same.trans held
  · rw [held] at none
    cases none
  · rw [held] at file
    exact absurd (Option.some.inj file) (other c)

/-- Directories and links stay where they are. -/
theorem Written.keeps (h : Written places tree later) : Keeps tree later where
  current := h.current
  directory _ hget := h.get?_of_some hget nofun
  link _ _ hget := h.get?_of_some hget nofun

theorem Written.get?_eq_directory_iff (h : Written places tree later) (q : Location) :
    later.get? q = some .directory ↔ tree.get? q = some .directory := by
  refine ⟨fun hget => ?_, h.keeps.directory q⟩
  rcases h.get? q with same | ⟨-, -, c, file⟩
  · exact same ▸ hget
  · rw [hget] at file
    cases file

/-- Whether a directory stands at a location, a file or nothing. -/
def IsRegular (tree : Tree) (place : Location) : Prop :=
  tree.get? place = some .directory ∨ tree.IsFileOrFree place

theorem IsRegular.unlinked (h : tree.IsRegular place) (target : String) :
    tree.get? place ≠ some (.link target) := by
  intro link
  rcases h with h | ⟨-, h | ⟨c, h⟩⟩ <;> rw [link] at h <;> cases h

theorem Written.isRegular (h : Written places tree later) (regular : tree.IsRegular place) :
    later.IsRegular place := by
  rcases h.get? place with same | ⟨-, ⟨hne, -⟩, file⟩
  · rw [IsRegular, IsFileOrFree, same]
    exact regular
  · exact .inr ⟨hne, .inr file⟩

theorem Filled.written (h : Filled tree later place content) (free : tree.IsFileOrFree place) :
    Written (· = place) tree later where
  current := h.current
  get? q := by
    by_cases hq : q = place
    · subst hq
      exact .inr ⟨rfl, free, content, h.self⟩
    · exact .inl (h.others q hq)

/-! ### Opening, appending and writing -/

/-- Opening a file makes an empty one where nothing stands, and changes nothing else. -/
theorem created_of_openFile (h : tree.openFile path = .ok (place, later)) :
    later = tree ∨ place ≠ [] ∧ tree.get? place = none ∧ Filled tree later place .empty := by
  unfold openFile at h
  split at h
  · cases h
  · next parent name slash hfind =>
    split at h
    · cases h
    · cases h
      exact .inr ⟨by simp, (find_eq_ok_iff.1 hfind).2.stands, filled_put tree .empty (by simp)⟩
  · cases h
  · cases h
    exact .inl rfl

theorem written_of_openFile (h : tree.openFile path = .ok (place, later)) :
    Written (· = place) tree later := by
  obtain rfl | ⟨proper, free, filled⟩ := created_of_openFile h
  · exact .refl _ _
  · exact filled.written ⟨proper, .inl free⟩

theorem written_of_append (h : tree.append place bytes = .ok later) :
    Written (· = place) tree later := by
  unfold append at h
  split at h
  · next content hget =>
    cases h
    have hne := ne_nil_of_file hget
    exact (filled_put tree _ hne).written ⟨hne, .inr ⟨content, hget⟩⟩
  · split at h
    · cases h
      exact .refl _ _
    · cases h
  · cases h
    exact .refl _ _

theorem written_truncate (tree : Tree) (place : Location) :
    Written (· = place) tree (tree.truncate place) := by
  unfold truncate
  split
  · next content hget =>
    have hne := ne_nil_of_file hget
    exact (filled_put tree _ hne).written ⟨hne, .inr ⟨content, hget⟩⟩
  · exact .refl _ _

/-- Writing changes at most the file to which the path leads. -/
theorem written_of_write {result : Except Fault Unit}
    (h : tree.write path bytes = (result, later)) :
    later = tree ∨ ∃ place opened, tree.openFile path = .ok (place, opened) ∧
      Written (· = place) tree later := by
  unfold write at h
  split at h
  · cases h
    exact .inl rfl
  · next place opened hopen =>
    have emptied := (written_of_openFile hopen).trans (written_truncate opened place)
    refine .inr ⟨place, opened, hopen, ?_⟩
    dsimp only at h
    split at h
    · cases h
      exact emptied
    · next happend =>
      cases h
      exact emptied.trans (written_of_append happend)

/-! ### Names in a directory -/

/-- A file can be written under a name in a directory, unless a directory stands there. -/
theorem place?_join (leads : tree.directory? path = some place)
    (proper : Path.IsName name) (fits : Fits path name)
    (free : tree.IsFileOrFree (place ++ [name])) :
    tree.place? (Path.join path name) = some (place ++ [name]) := by
  have unlinked := IsRegular.unlinked (.inr free)
  rcases find_join leads proper true (fun _ => unlinked) with ⟨-, hfind⟩ | ⟨unfit, -⟩
  · rw [Tree.place?, hfind, entryIn]
    rcases free.2 with hget | ⟨c, hget⟩ <;> rw [hget] <;> rfl
  · exact absurd fits unfit

/-- When a file can be opened under a name in a directory. -/
theorem openFile_join (leads : tree.directory? path = some place)
    (proper : Path.IsName name) (regular : tree.IsRegular (place ++ [name])) :
    (Fits path name ∧ tree.get? (place ++ [name]) ≠ some .directory ∧
      tree.place? (Path.join path name) = some (place ++ [name])) ∨
    (¬ (Fits path name ∧ tree.get? (place ++ [name]) ≠ some .directory) ∧
      ∃ fault, tree.openFile (Path.join path name) = .error fault) := by
  rcases find_join leads proper true (fun _ => regular.unlinked) with
    ⟨fits, hfind⟩ | ⟨unfit, fault, -, hfind⟩
  · rcases regular with hget | free
    · refine .inr ⟨fun h => h.2 hget, .isDirectory, ?_⟩
      simp only [openFile, hfind, entryIn, hget]
    · refine .inl ⟨fits, fun hget => ?_, place?_join leads proper fits free⟩
      rcases free.2 with h | ⟨c, h⟩ <;> rw [hget] at h <;> cases h
  · exact .inr ⟨fun h => unfit h.1, fault, by simp only [openFile, hfind]⟩

/-- A file that is opened at what a name leads to in a directory is there. -/
theorem eq_of_openFile_entryIn {directory q : Location}
    (hfind : tree.find true path = .ok (tree.entryIn directory name))
    (h : tree.openFile path = .ok (q, later)) : q = directory ++ [name] := by
  unfold openFile at h
  rw [hfind, entryIn] at h
  cases hget : tree.get? (directory ++ [name]) with
  | none =>
    simp only [hget, Bool.false_eq_true, if_false] at h
    cases h
    rfl
  | some entry =>
    cases entry with
    | directory => simp only [hget] at h; cases h
    | _ => simp only [hget] at h; cases h; rfl

/-- A file that is opened under a name in a directory is there, if no link is. -/
theorem eq_of_openFile_join (leads : tree.directory? path = some place)
    (proper : Path.IsName name)
    (unlinked : ∀ target, tree.get? (place ++ [name]) ≠ some (.link target)) {q : Location}
    (h : tree.openFile (Path.join path name) = .ok (q, later)) : q = place ++ [name] := by
  rcases find_join leads proper true (fun _ => unlinked) with ⟨-, hfind⟩ | ⟨-, fault, -, hfind⟩
  · exact eq_of_openFile_entryIn hfind h
  · rw [openFile, hfind] at h
    cases h

/-- A walk by one name ends at what the directory holds under it, if that is no link. -/
theorem eq_entryIn_of_walks {goal : Place} {left : Nat} (proper : Path.IsName name)
    (unlinked : ∀ target, tree.get? (place ++ [name]) ≠ some (.link target))
    (walks : Walks tree true left place [name] goal) : goal = tree.entryIn place name := by
  rw [entryIn]
  cases walks with
  | stays blank => exact absurd blank (not_or.2 ⟨proper.1, proper.2.1⟩)
  | up => exact absurd rfl proper.2.2.1
  | absent _ free =>
    rw [free]
    rfl
  | down _ stands on =>
    cases on
    rw [stands]
  | link _ stands => exact absurd stands (unlinked _)
  | follows _ stands => exact absurd stands (unlinked _)
  | found _ stands => rw [stands]

/-- The names of a path with two names joined to it lead to the second one in the first one. -/
theorem Leads.walk_join_join {outer : String} (leads : tree.Leads path place)
    (proper' : Path.IsName outer) (proper : Path.IsName name) :
    ∃ left, ∀ follow,
      tree.walk follow maxLinks (start tree.current (Path.join (Path.join path outer) name))
        (Path.names (Path.join (Path.join path outer) name)) =
          tree.walk follow left place [outer, name] := by
  obtain ⟨before, hbefore, hjoin⟩ := Path.names_join path
  obtain ⟨before', hbefore', hjoin'⟩ := Path.names_join (Path.join path outer)
  obtain ⟨left, hleft⟩ := walk_append (walk_of_moves (Path.filter_moves_before hbefore) leads.walk)
  refine ⟨left, fun follow => ?_⟩
  -- The first name is not empty, so that it is the last one before the second.
  obtain rfl : before' = before ++ [outer] := by
    rw [hjoin outer proper'] at hbefore'
    rcases hbefore' with heq | heq
    · exact heq.symm
    · exact absurd (List.append_inj_right' heq rfl) (by simpa using proper'.1)
  rw [start, Path.isAbsolute_join _ proper, Path.isAbsolute_join _ proper', hjoin' name proper,
    List.append_assoc]
  exact hleft follow [outer, name] (List.cons_ne_nil _ _)

/-- A file that is opened under two names in a directory is there, if no links are: the first name
is that of a directory. -/
theorem eq_of_openFile_join_join {outer : String} (leads : tree.directory? path = some place)
    (proper' : Path.IsName outer) (proper : Path.IsName name)
    (unlinked' : ∀ target, tree.get? (place ++ [outer]) ≠ some (.link target))
    (unlinked : ∀ target, tree.get? (place ++ [outer] ++ [name]) ≠ some (.link target))
    {q : Location} (h : tree.openFile (Path.join (Path.join path outer) name) = .ok (q, later)) :
    q = place ++ [outer] ++ [name] := by
  cases hfind : tree.find true (Path.join (Path.join path outer) name) with
  | error fault =>
    rw [openFile, hfind] at h
    cases h
  | ok goal =>
    refine eq_of_openFile_entryIn (hfind.trans (congrArg _ ?_)) h
    have hwalk := walk_eq_ok_iff.2 (find_eq_ok_iff.1 hfind).2
    obtain ⟨left, hleft⟩ := (leads_of_directory? leads).walk_join_join proper' proper
    rw [hleft true, walk_eq_ok_iff] at hwalk
    cases hwalk with
    | stays blank => exact absurd blank (not_or.2 ⟨proper'.1, proper'.2.1⟩)
    | up => exact absurd rfl proper'.2.2.1
    | absent _ _ last => exact absurd (last name (List.mem_singleton_self _)) proper.1
    | down _ _ on => exact eq_entryIn_of_walks proper unlinked on
    | follows _ stands => exact absurd stands (unlinked' _)

end Tree

/-! ### Streams -/

namespace Transfer

variable {t t' : Transfer} {tree later : Tree} {path : String}

/-- A transfer that begins changes at most where its file is. -/
theorem written_of_start (h : start path tree = .ok (t, later)) :
    tree.openFile path = .ok (t.place, later) ∧ Tree.Written (· = t.place) tree later := by
  unfold start at h
  split at h
  · cases h
  · next hopen =>
    cases h
    exact ⟨hopen, Tree.written_of_openFile hopen⟩

theorem written_of_blocksIn {parts : List ByteArray} {result : Except Error Transfer}
    (h : t.blocksIn tree parts = (result, later)) :
    Tree.Written (· = t.place) tree later ∧ ∀ t', result = .ok t' → t'.place = t.place := by
  induction parts generalizing t tree with
  | nil =>
    cases h
    exact ⟨.refl _ _, fun _ h' => by cases h'; rfl⟩
  | cons data rest ih =>
    rw [blocksIn] at h
    split at h
    · cases h
      exact ⟨.refl _ _, fun _ h' => by cases h'⟩
    · next t₁ tree₁ hblock =>
      have one : t₁.place = t.place ∧ Tree.Written (· = t.place) tree tree₁ := by
        unfold block at hblock
        split at hblock
        · cases hblock
        · split at hblock
          · next happend =>
            cases hblock
            exact ⟨rfl, Tree.written_of_append happend⟩
          · cases hblock
            exact ⟨rfl, .refl _ _⟩
      obtain ⟨others, places⟩ := ih h
      rw [one.1] at others places
      exact ⟨one.2.trans others, places⟩

/-- A chunk changes at most the file of its transfer. -/
theorem written_of_chunk {data : ByteArray} {result : Except Error Transfer}
    (h : t.chunk tree data = (result, later)) :
    Tree.Written (· = t.place) tree later ∧ ∀ t', result = .ok t' → t'.place = t.place := by
  unfold chunk at h
  split at h
  · next hblocks =>
    cases h
    exact ⟨(written_of_blocksIn hblocks).1, nofun⟩
  · next t₁ tree₁ hblocks =>
    cases h
    obtain ⟨written, places⟩ := written_of_blocksIn hblocks
    exact ⟨written, fun _ h' => by cases h'; exact places t₁ rfl⟩

end Transfer

end MonitorFleet
