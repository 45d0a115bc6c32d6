import MonitorFleet.Proofs.Tree.Walks

/-!
# Files in the tree

A path leads to a file, or to a name at which one can be made, links followed (`Tree.place?`). To
write there changes what stands at that location and nothing else (`Filled`), so all paths that led
to a file or a free name still lead to the same location: no directory and no link that is passed on
the way is changed.

## What is proved

* `Filled.place?`: all paths lead where they led.
* `openFile_of_place?`, `append_of_content?`, `write_of_place?`: what opening, appending and writing
  do to the content, and that they do nothing else.
* `read_of_place?`: what is read there.
-/

namespace MonitorFleet

/-- Where a file stands, or can be made. -/
def Place.file? : Place → Option Location
  | .found place (.file _) => some place
  | .absent parent name false => some (parent ++ [name])
  | _ => none

@[simp] theorem Place.file?_found (place : Location) (content : ByteArray) :
    (Place.found place (.file content)).file? = some place := rfl

theorem Place.file?_absent (parent : Location) (name : String) (slash : Bool) :
    (Place.absent parent name slash).file? = if slash = false then some (parent ++ [name]) else none := by
  cases slash <;> rfl

namespace Tree

/-- Where a path leads to a file, or to a name at which one can be made, links followed. -/
def place? (tree : Tree) (path : String) : Option Location :=
  match tree.find true path with
  | .ok place => place.file?
  | .error _ => none

/-- The content of the file at a location. -/
def content? (tree : Tree) (place : Location) : Option ByteArray :=
  match tree.get? place with
  | some (.file content) => some content
  | _ => none

/-- Whether a file stands at a location, or nothing. -/
def IsFileOrFree (tree : Tree) (place : Location) : Prop :=
  place ≠ [] ∧ (tree.get? place = none ∨ ∃ content, tree.get? place = some (.file content))

/-- Another tree has this content in the file at a location, and all else as it was. -/
structure Filled (tree later : Tree) (place : Location) (content : ByteArray) : Prop where
  self : later.get? place = some (.file content)
  others : ∀ other, other ≠ place → later.get? other = tree.get? other
  current : later.current = tree.current

variable {tree later last : Tree} {place : Location} {content : ByteArray}

theorem filled_put (tree : Tree) (content : ByteArray) (h : place ≠ []) :
    Filled tree (tree.put place (.file content)) place content where
  self := by rw [get?_put tree _ h, if_pos rfl]
  others other ho := by rw [get?_put tree _ h, if_neg ho]
  current := rfl

theorem Filled.trans {content' : ByteArray} (h : Filled tree later place content)
    (h' : Filled later last place content') : Filled tree last place content' where
  self := h'.self
  others other ho := (h'.others other ho).trans (h.others other ho)
  current := h'.current.trans h.current

theorem Filled.content? (h : Filled tree later place content) (other : Location) :
    later.content? other = if other = place then some content else tree.content? other := by
  by_cases ho : other = place
  · rw [if_pos ho, ho, Tree.content?, h.self]
  · rw [if_neg ho, Tree.content?, Tree.content?, h.others other ho]

/-! ### Walking -/

/-- **The end of a walk tells what stands at a location**: a file, or nothing. -/
inductive Tells (tree : Tree) (place : Location) : Place → Prop where
  /-- A file stands there. -/
  | file (content : ByteArray) (hne : place ≠ []) (hget : tree.get? place = some (.file content)) :
      Tells tree place (.found place (.file content))
  /-- Nothing stands there. -/
  | free (parent : Location) (name : String) (heq : parent ++ [name] = place)
      (hget : tree.get? place = none) : Tells tree place (.absent parent name false)

theorem ne_nil_of_file (h : tree.get? place = some (.file content)) : place ≠ [] := by
  rintro rfl
  rw [get?_nil] at h
  cases h

/-- A walk to a file or a free name tells what stands there. -/
theorem Walks.tells {follow : Bool} {links : Nat} {here : Location} {names : List String}
    {goal : Place} (walks : Walks tree follow links here names goal)
    (hp : goal.file? = some place) : Tells tree place goal := by
  have stands := walks.stands
  cases goal with
  | absent parent name slash =>
    rw [Place.file?_absent] at hp
    split at hp
    · next hslash =>
      cases hp
      rw [hslash]
      exact .free parent name rfl stands
    · cases hp
  | found q entry =>
    cases entry with
    | file content =>
      cases hp
      rcases stands with directory | ⟨hget, -⟩
      · cases directory
      · exact .file content (ne_nil_of_file hget) hget
    | _ => cases hp

theorem Tells.isFileOrFree {goal : Place} (h : Tells tree place goal) : tree.IsFileOrFree place := by
  cases h with
  | file content hne hget => exact ⟨hne, .inr ⟨content, hget⟩⟩
  | free parent name heq hget => exact ⟨by simp [← heq], .inl hget⟩

/-- What a path that leads to a location tells about it. -/
theorem tells_of_place? {path : String} (h : tree.place? path = some place) :
    ∃ goal, tree.find true path = .ok goal ∧ Tells tree place goal := by
  unfold place? at h
  split at h
  · next goal hf =>
    exact ⟨goal, hf, (find_eq_ok_iff.1 hf).2.tells h⟩
  · cases h

theorem isFileOrFree_of_place? {path : String} (h : tree.place? path = some place) :
    tree.IsFileOrFree place := by
  obtain ⟨goal, _, ht⟩ := tells_of_place? h
  exact ht.isFileOrFree

/-- What is passed on a walk is no file, so it is the same in the other tree. -/
theorem Filled.get?_of_passed (h : Filled tree later place content)
    (free : tree.IsFileOrFree place) {other : Location} {entry : Entry}
    (passed : tree.get? other = some entry) (hne : ∀ c, entry ≠ .file c) :
    later.get? other = some entry := by
  have ho : other ≠ place := by
    rintro rfl
    rcases free.2 with hget | ⟨c, hget⟩
    · rw [passed] at hget
      cases hget
    · rw [passed] at hget
      cases hget
      exact hne c rfl
  rw [h.others other ho]
  exact passed

/-- A walk to a file or a free name leads there in the other tree, too. -/
theorem Filled.walks (h : Filled tree later place content) (free : tree.IsFileOrFree place)
    {follow : Bool} {links : Nat} {here : Location} {names : List String} {goal : Place}
    {q : Location} (walks : Walks tree follow links here names goal) (hq : goal.file? = some q) :
    ∃ goal', Walks later follow links here names goal' ∧ goal'.file? = some q := by
  induction walks with
  | here => cases hq
  | stays blank _ ih => exact (ih hq).imp fun _ led => ⟨.stays blank led.1, led.2⟩
  | up _ ih => exact (ih hq).imp fun _ led => ⟨.up led.1, led.2⟩
  | @absent _ here name rest sought free last =>
    rw [Place.file?_absent] at hq
    split at hq
    · next hslash =>
      cases hq
      obtain rfl : rest = [] := by simpa using hslash
      by_cases hp : here ++ [name] = place
      · exact ⟨_, .found sought (hp ▸ h.self) (by simp) (by simp), rfl⟩
      · exact ⟨_, .absent sought ((h.others _ hp).trans free) last, rfl⟩
    · cases hq
  | down sought stands _ ih =>
    have stands' := h.get?_of_passed free stands (by simp)
    exact (ih hq).imp fun _ led => ⟨.down sought stands' led.1, led.2⟩
  | link => cases hq
  | follows sought stands followed given _ ih =>
    have stands' := h.get?_of_passed free stands (by simp)
    exact (ih hq).imp fun _ led => ⟨.follows sought stands' followed given led.1, led.2⟩
  | @found _ here name entry sought stands notDirectory notLink =>
    cases entry with
    | file old =>
      cases hq
      by_cases hp : here ++ [name] = place
      · exact ⟨_, .found sought (hp ▸ h.self) (by simp) (by simp), rfl⟩
      · exact ⟨_, .found sought ((h.others _ hp).trans stands) notDirectory notLink, rfl⟩
    | _ => cases hq

/-- A path leads where it led. -/
theorem Filled.place? (h : Filled tree later place content) (free : tree.IsFileOrFree place)
    {path : String} {q : Location} (hq : tree.place? path = some q) :
    later.place? path = some q := by
  unfold Tree.place? at hq ⊢
  split at hq
  · next goal hf =>
    obtain ⟨limits, walks⟩ := find_eq_ok_iff.1 hf
    obtain ⟨goal', walks', hq'⟩ := h.walks free walks hq
    rw [find_eq_ok_iff.2 ⟨limits, h.current ▸ walks'⟩]
    exact hq'
  · cases hq

/-! ### Opening, appending, writing, reading -/

theorem filled_self (h : tree.get? place = some (.file content)) :
    Filled tree tree place content := ⟨h, fun _ _ => rfl, rfl⟩

theorem content?_of_get? (h : tree.get? place = some (.file content)) :
    tree.content? place = some content := by rw [content?, h]

theorem get?_of_content? (h : tree.content? place = some content) :
    tree.get? place = some (.file content) := by
  unfold content? at h
  split at h
  · next hget =>
    cases h
    exact hget
  · cases h

/-- Opening keeps what is in a file, and makes a missing one. -/
theorem openFile_of_place? {path : String} (h : tree.place? path = some place) :
    ∃ later, tree.openFile path = .ok (place, later) ∧
      Filled tree later place ((tree.content? place).getD .empty) := by
  obtain ⟨goal, hf, ht⟩ := tells_of_place? h
  unfold openFile
  rw [hf]
  cases ht with
  | file old hne hget =>
    refine ⟨tree, rfl, ?_⟩
    rw [content?_of_get? hget]
    exact filled_self hget
  | free parent name heq hget =>
    subst heq
    refine ⟨tree.put (parent ++ [name]) (.file .empty), rfl, ?_⟩
    rw [Tree.content?, hget]
    exact filled_put tree .empty (by simp)

/-- Appending adds to what is in a file. -/
theorem append_of_content? (hne : place ≠ []) (h : tree.content? place = some content)
    (bytes : ByteArray) :
    ∃ later, tree.append place bytes = .ok later ∧
      Filled tree later place (content ++ bytes) := by
  refine ⟨tree.put place (.file (content ++ bytes)), ?_, filled_put tree _ hne⟩
  rw [append, get?_of_content? h]

theorem filled_truncate (hne : place ≠ []) (h : tree.content? place = some content) :
    Filled tree (tree.truncate place) place .empty := by
  rw [truncate, get?_of_content? h]
  exact filled_put tree .empty hne

/-- Writing leaves nothing but what is written. -/
theorem write_of_place? {path : String} (h : tree.place? path = some place) (bytes : ByteArray) :
    ∃ later, tree.write path bytes = (.ok (), later) ∧ Filled tree later place bytes := by
  have hne := (isFileOrFree_of_place? h).1
  obtain ⟨opened, ho, hfo⟩ := openFile_of_place? h
  have hfe := hfo.trans (filled_truncate hne (content?_of_get? hfo.self))
  obtain ⟨later, ha, hfl⟩ := append_of_content? hne (content?_of_get? hfe.self) bytes
  refine ⟨later, ?_, ?_⟩
  · unfold write
    rw [ho]
    simp only [ha]
  · have := hfe.trans hfl
    rwa [ByteArray.empty_append] at this

/-- A path that takes bytes leads to a file, a free name or the device that keeps none. -/
theorem place?_of_write {path : String} {bytes : ByteArray}
    (h : tree.write path bytes = (.ok (), later)) (hb : bytes.isEmpty = false)
    (keeps : tree.entryAt? path ≠ some .sink) : ∃ place, tree.place? path = some place := by
  unfold Tree.place?
  unfold write openFile at h
  unfold entryAt? at keeps
  cases hf : tree.find true path with
  | error fault =>
    rw [hf] at h
    cases h
  | ok goal =>
    rw [hf] at h keeps
    cases goal with
    | absent parent name slash =>
      cases slash with
      | false => exact ⟨parent ++ [name], rfl⟩
      | true => cases h
    | found place entry =>
      rcases (find_eq_ok_iff.1 hf).2.stands with rfl | ⟨hget, notLink⟩
      · cases h
      · cases entry with
        | directory => cases h
        | file content => exact ⟨place, rfl⟩
        | link target => exact absurd rfl (notLink rfl target)
        | sink => exact absurd rfl keeps
        | full => simp [truncate, append, hget, hb] at h

/-- A path that leads to a file or a free name leads to no device. -/
theorem entryAt?_ne_sink {path : String} (h : tree.place? path = some place) :
    tree.entryAt? path ≠ some .sink := by
  intro sink
  unfold entryAt? at sink
  unfold Tree.place? at h
  split at sink
  · next hf =>
    cases sink
    rw [hf] at h
    cases h
  · cases sink

/-- What can be read is present. -/
theorem isPresent_of_read {path : String} (h : tree.read path = .ok content) :
    tree.isPresent path = true := by
  rw [isPresent, entryAt?]
  unfold read at h
  split at h
  · cases h
  · cases h
  · cases h
  · next hfind => rw [hfind]; rfl
  · next hfind => rw [hfind]; rfl

/-- Reading gives what is in a file. -/
theorem read_of_place? {path : String} (h : tree.place? path = some place)
    (hc : tree.content? place = some content) :
    tree.isPresent path = true ∧ tree.read path = .ok content := by
  obtain ⟨goal, hf, ht⟩ := tells_of_place? h
  cases ht with
  | file old hne hget =>
    rw [content?_of_get? hget] at hc
    cases hc
    refine ⟨?_, ?_⟩
    · rw [isPresent, entryAt?, hf]
      rfl
    · rw [read, hf]
  | free parent name heq hget =>
    rw [content?, hget] at hc
    cases hc

end Tree

end MonitorFleet
