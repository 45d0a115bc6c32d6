import MonitorFleet.Proofs.Tree.Changes

/-!
# Files that only grow

A file to which bytes are added keeps what was in it as its beginning. This is so of all files of a
tree at once (`Tree.Grows`), and goes on from one operation to the next, so that it need not be known
which files an operation adds to, nor whether all of its bytes arrive.

## What is proved

* `Grows.trans`: files that grow and grow again have grown.
* `grows_of_openFile`, `grows_of_append`: to open a file and to append to it.
* `Transfer.grows_of_start`, `Transfer.grows_of_chunk`: the operations on the file of a stream.
-/

namespace MonitorFleet

namespace Tree

/-- **Another tree has all files of a tree**, each with more at its end, or as it was. -/
def Grows (tree later : Tree) : Prop :=
  ∀ q content, tree.content? q = some content → ∃ more, later.content? q = some (content ++ more)

variable {tree later last : Tree} {place : Location} {path : String} {bytes content : ByteArray}

theorem Grows.refl (tree : Tree) : Grows tree tree :=
  fun _ content h => ⟨.empty, by rwa [ByteArray.append_empty]⟩

theorem Grows.trans (h : Grows tree later) (h' : Grows later last) : Grows tree last := by
  intro q content hq
  obtain ⟨more, hmore⟩ := h q content hq
  obtain ⟨more', hmore'⟩ := h' q _ hmore
  exact ⟨more ++ more', by rw [hmore', ByteArray.append_assoc]⟩

/-- A file that gets more content than it had has grown, and the others have, too. -/
theorem Filled.grows (h : Filled tree later place content)
    (more : ∀ old, tree.content? place = some old → ∃ more, content = old ++ more) :
    Grows tree later := by
  intro q old hold
  rw [h.content?]
  by_cases hq : q = place
  · subst hq
    obtain ⟨new, rfl⟩ := more old hold
    exact ⟨new, if_pos rfl⟩
  · exact ⟨.empty, by rw [if_neg hq, hold, ByteArray.append_empty]⟩

/-- Opening a file leaves what is in it. -/
theorem grows_of_openFile (h : tree.openFile path = .ok (place, later)) : Grows tree later := by
  obtain rfl | ⟨-, free, filled⟩ := created_of_openFile h
  · exact .refl _
  · refine filled.grows fun old hold => ?_
    rw [content?, free] at hold
    cases hold

/-- Appending leaves what is in a file. -/
theorem grows_of_append (h : tree.append place bytes = .ok later) : Grows tree later := by
  unfold append at h
  split at h
  · next content hget =>
    cases h
    refine (filled_put tree _ (ne_nil_of_file hget)).grows fun old hold => ⟨bytes, ?_⟩
    rw [content?_of_get? hget] at hold
    cases hold
    rfl
  · split at h
    · cases h
      exact .refl _
    · cases h
  · cases h
    exact .refl _

end Tree

namespace Transfer

variable {t t' : Transfer} {tree later : Tree} {path : String}

/-- A transfer that begins leaves what is in its file. -/
theorem grows_of_start (h : start path tree = .ok (t, later)) : Tree.Grows tree later :=
  Tree.grows_of_openFile (written_of_start h).1

theorem grows_of_blocksIn {parts : List ByteArray} {result : Except Error Transfer}
    (h : t.blocksIn tree parts = (result, later)) : Tree.Grows tree later := by
  induction parts generalizing t tree with
  | nil =>
    cases h
    exact .refl _
  | cons data rest ih =>
    rw [blocksIn] at h
    split at h
    · cases h
      exact .refl _
    · next t₁ tree₁ hblock =>
      have one : Tree.Grows tree tree₁ := by
        unfold block at hblock
        split at hblock
        · cases hblock
        · split at hblock
          · next happend =>
            cases hblock
            exact Tree.grows_of_append happend
          · cases hblock
            exact .refl _
      exact one.trans (ih h)

/-- A chunk leaves what is in the file, be it taken in full, in part or not at all. -/
theorem grows_of_chunk {data : ByteArray} {result : Except Error Transfer}
    (h : t.chunk tree data = (result, later)) : Tree.Grows tree later := by
  unfold chunk at h
  split at h <;> cases h
  · next hblocks => exact grows_of_blocksIn hblocks
  · next hblocks => exact grows_of_blocksIn hblocks

end Transfer

end MonitorFleet
