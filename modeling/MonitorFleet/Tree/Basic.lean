import MonitorFleet.Fault

/-!
# The file tree

A tree is what stands at each location, a location being the names from the root down. Links
keep their target as a text and are followed only when a path is walked (`Tree.Walk`). Two
entries are devices: a sink takes every byte and keeps none, and a full device refuses every
byte.

`get?_put` and `get?_erase` say what writing and erasing do to every location.
-/

namespace MonitorFleet

/-- Names from the root down. -/
abbrev Location := List String

/-- What stands at a location. -/
inductive Entry where
  | directory
  | file (content : ByteArray)
  /-- A symbolic link. -/
  | link (target : String)
  /-- A device that takes every byte and keeps none. -/
  | sink
  /-- A device that refuses every byte. -/
  | full

/-- The file system: the entries below the root, and the working directory. -/
structure Tree where
  entries : List (Location × Entry)
  current : Location

namespace Tree

/-- What stands at a location; the root is a directory. -/
def get? (tree : Tree) (place : Location) : Option Entry :=
  if place = [] then some .directory
  else (tree.entries.find? fun e => e.1 == place).map (·.2)

/-- The tree with an entry put at a location, in place of what stood there. -/
def put (tree : Tree) (place : Location) (entry : Entry) : Tree :=
  { tree with entries := (place, entry) :: tree.entries.filter fun e => e.1 != place }

/-- The tree without a location and everything below it. -/
def erase (tree : Tree) (place : Location) : Tree :=
  { tree with entries := tree.entries.filter fun e => !place.isPrefixOf e.1 }

/-- The entries below a directory, with their names from there on. -/
def below (tree : Tree) (place : Location) : List (Location × Entry) :=
  tree.entries.filterMap fun e =>
    if place.isPrefixOf e.1 && place.length < e.1.length then some (e.1.drop place.length, e.2)
    else none

/-- A tree with an empty working directory and the two devices. -/
def fresh : Tree where
  entries := [
    (["work"], .directory),
    (["dev"], .directory),
    (["dev", "null"], .sink),
    (["dev", "full"], .full)]
  current := ["work"]

@[simp] theorem get?_nil (tree : Tree) : tree.get? [] = some .directory := by simp [get?]

@[simp] theorem current_put (tree : Tree) (place : Location) (entry : Entry) :
    (tree.put place entry).current = tree.current := rfl

theorem get?_put (tree : Tree) {place : Location} (entry : Entry) (h : place ≠ [])
    (other : Location) :
    (tree.put place entry).get? other = if other = place then some entry else tree.get? other := by
  unfold get? put
  by_cases ho : other = []
  · subst ho
    simp [Ne.symm h]
  · by_cases hp : other = place
    · subst hp
      simp [h]
    · have hne : (place == other) = false := by simpa using Ne.symm hp
      simp only [ho, hp, if_false, List.find?_cons, hne, List.find?_filter]
      congr 2
      funext e
      by_cases he : e.1 = other <;> simp [he, hp]

end Tree

end MonitorFleet
