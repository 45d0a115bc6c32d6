import MonitorFleet.Transfer
import MonitorFleet.Proofs.Tree.Files

/-!
# What chunks do to a file

A transfer opens its file and hands the chunks of a stream over in blocks. As long as its location
is that of a file, no block is refused, and the content grows by each chunk (`chunk_of_place?`),
for the blocks of a chunk are the chunk (`joined_blocks`).

## What is proved

* `start_of_place?`: a transfer to a file, or to a name at which one can be made, begins.
* `chunk_of_place?`: a chunk is added to the content, and nothing else is touched.
-/

namespace MonitorFleet

/-- Parts, one after the other. -/
def joined (parts : List ByteArray) : ByteArray := parts.foldl (· ++ ·) .empty

theorem foldl_append (start : ByteArray) (parts : List ByteArray) :
    parts.foldl (· ++ ·) start = start ++ joined parts := by
  induction parts generalizing start with
  | nil => simp [joined]
  | cons part parts ih =>
    rw [joined, List.foldl_cons, List.foldl_cons, ih, ih (.empty ++ part), ByteArray.empty_append,
      ByteArray.append_assoc]

@[simp] theorem joined_nil : joined [] = .empty := rfl

@[simp] theorem joined_cons (part : ByteArray) (parts : List ByteArray) :
    joined (part :: parts) = part ++ joined parts := by
  rw [joined, List.foldl_cons, foldl_append, ByteArray.empty_append]

@[simp] theorem joined_append (first second : List ByteArray) :
    joined (first ++ second) = joined first ++ joined second := by
  rw [joined, List.foldl_append, foldl_append]
  rfl

namespace Transfer

/-- Parts of a width, from the first byte on, are the bytes up to the end of the last part. -/
theorem joined_extracts (data : ByteArray) (width n : Nat) :
    joined ((List.range n).map fun i =>
      data.extract (i * width) (min data.size ((i + 1) * width))) =
      data.extract 0 (min data.size (n * width)) := by
  induction n with
  | zero => simp
  | succ n ih =>
    have grows : n * width ≤ (n + 1) * width := Nat.mul_le_mul_right _ (Nat.le_succ n)
    rw [List.range_succ, List.map_append, joined_append, ih, List.map_singleton, joined_cons,
      joined_nil, ByteArray.append_empty]
    rcases Nat.le_total data.size (n * width) with hle | hle
    · -- All bytes are in the parts before, and the last part is empty.
      have past : data.extract (n * width) (min data.size ((n + 1) * width)) = .empty :=
        ByteArray.extract_eq_empty_iff.2 (by omega)
      rw [past, ByteArray.append_empty, Nat.min_eq_left hle, Nat.min_eq_left (Nat.le_trans hle grows)]
    · rw [Nat.min_eq_right hle, ByteArray.extract_append_extract, Nat.zero_min,
        Nat.max_eq_right (by omega)]

/-- The blocks of a chunk are the chunk. -/
theorem joined_blocks (data : ByteArray) : joined (blocks data) = data := by
  have positive : 0 < blockSize := by decide
  unfold blocks
  generalize blockSize = width at positive
  split
  · split
    · next h =>
      have h0 : data.size = 0 := by simpa [ByteArray.isEmpty] using h
      exact (ByteArray.size_eq_zero_iff.1 h0).symm
    · simp
  · have covers : data.size ≤ (data.size + width - 1) / width * width := by
      have split := Nat.div_add_mod (data.size + width - 1) width
      have rest := Nat.mod_lt (data.size + width - 1) positive
      rw [Nat.mul_comm]
      omega
    rw [joined_extracts, Nat.min_eq_left covers, ByteArray.extract_zero_size]

variable {t : Transfer} {tree : Tree} {content : ByteArray}

/-- Blocks are added to the content. -/
theorem blocksIn_of_content? (unrefused : t.refused = none) (hne : t.place ≠ [])
    (h : tree.content? t.place = some content) (parts : List ByteArray) :
    ∃ later, t.blocksIn tree parts = (.ok t, later) ∧
      Tree.Filled tree later t.place (content ++ joined parts) := by
  induction parts generalizing tree content with
  | nil =>
    refine ⟨tree, rfl, ?_⟩
    rw [joined_nil, ByteArray.append_empty]
    exact Tree.filled_self (Tree.get?_of_content? h)
  | cons part parts ih =>
    obtain ⟨next, happend, hnext⟩ := Tree.append_of_content? hne h part
    obtain ⟨later, hlater, hfilled⟩ := ih (Tree.content?_of_get? hnext.self)
    refine ⟨later, ?_, ?_⟩
    · have hblock : t.block tree part = .ok (t, next) := by
        unfold block
        rw [unrefused]
        simp only [happend]
      rw [blocksIn, hblock]
      exact hlater
    · rw [joined_cons, ← ByteArray.append_assoc]
      exact hnext.trans hfilled

/-- A chunk is added to the content of the file that a path leads to. -/
theorem chunk_of_place? {path : String} (unrefused : t.refused = none)
    (leads : tree.place? path = some t.place) (present : (tree.content? t.place).isSome = true)
    (data : ByteArray) :
    ∃ content later, tree.content? t.place = some content ∧
      t.chunk tree data = (.ok { t with written := t.written + data.size.toUInt64 }, later) ∧
      Tree.Filled tree later t.place (content ++ data) := by
  obtain ⟨content, held⟩ := Option.isSome_iff_exists.1 present
  obtain ⟨later, hblocks, filled⟩ :=
    blocksIn_of_content? unrefused (Tree.isFileOrFree_of_place? leads).1 held (blocks data)
  rw [joined_blocks] at filled
  refine ⟨content, later, held, ?_, filled⟩
  rw [chunk, hblocks]

/-- A transfer begins with what is in its file, or with nothing. -/
theorem start_of_place? {path : String} {place : Location} (h : tree.place? path = some place) :
    ∃ later, start path tree = .ok (⟨path, place, 0, none⟩, later) ∧
      Tree.Filled tree later place ((tree.content? place).getD .empty) := by
  obtain ⟨later, hopen, hfilled⟩ := Tree.openFile_of_place? h
  refine ⟨later, ?_, hfilled⟩
  rw [start, hopen]

end Transfer

end MonitorFleet
