import MonitorFleet.Tree.Walk

/-!
# The steps of a walk

A name on a walk stays, goes up, or is looked up in the directory. There the walk may end, go down, or go
on from the target of a link. A walk that comes to an end is told by such steps (`Tree.Walks`), so what
is said of walks is shown by induction on their steps; that a walk may fail in many ways makes no
difference to it.

## What is proved

* `Tree.walk_eq_ok_iff`: a walk ends at a place just if its steps lead there.
* `Tree.find_eq_ok_iff`: where a path leads.
* `Tree.Walks.stands`: what stands where a walk ends.
-/

namespace MonitorFleet

/-- A path that is looked up by its names. -/
structure Path.WithinLimits (path : String) : Prop where
  zero : path.toList.contains '\x00' = false
  full : path ≠ ""
  short : path.utf8ByteSize < Tree.maxPath

namespace Tree

/-- A name that is looked up in a directory. -/
structure Sought (name : String) : Prop where
  moves : ¬ (name = "" ∨ name = ".")
  down : name ≠ ".."
  short : ¬ maxName < name.utf8ByteSize

variable {tree : Tree} {follow : Bool} {links : Nat} {here : Location} {names rest : List String}
  {name path : String} {goal : Place}

/-- **The steps of a walk** that comes to an end. -/
inductive Walks (tree : Tree) (follow : Bool) : Nat → Location → List String → Place → Prop where
  | here {links : Nat} {here : Location} : Walks tree follow links here [] (.found here .directory)
  | stays {links : Nat} {here : Location} {name : String} {rest : List String} {goal : Place}
      (blank : name = "" ∨ name = ".") (on : Walks tree follow links here rest goal) :
      Walks tree follow links here (name :: rest) goal
  | up {links : Nat} {here : Location} {rest : List String} {goal : Place}
      (on : Walks tree follow links here.dropLast rest goal) :
      Walks tree follow links here (".." :: rest) goal
  /-- Nothing stands there, and the name is the last one. -/
  | absent {links : Nat} {here : Location} {name : String} {rest : List String} (sought : Sought name)
      (free : tree.get? (here ++ [name]) = none) (last : ∀ other ∈ rest, other = "") :
      Walks tree follow links here (name :: rest) (.absent here name (rest ≠ []))
  | down {links : Nat} {here : Location} {name : String} {rest : List String} {goal : Place}
      (sought : Sought name) (stands : tree.get? (here ++ [name]) = some .directory)
      (on : Walks tree follow links (here ++ [name]) rest goal) :
      Walks tree follow links here (name :: rest) goal
  /-- A link at the end is not followed. -/
  | link {links : Nat} {here : Location} {name target : String} (sought : Sought name)
      (stands : tree.get? (here ++ [name]) = some (.link target)) (unfollowed : follow = false) :
      Walks tree follow links here [name] (.found (here ++ [name]) (.link target))
  | follows {links : Nat} {here : Location} {name target : String} {rest : List String} {goal : Place}
      (sought : Sought name) (stands : tree.get? (here ++ [name]) = some (.link target))
      (followed : rest = [] → follow = true) (given : target ≠ "")
      (on : Walks tree follow links (start here target) (Path.names target ++ rest) goal) :
      Walks tree follow (links + 1) here (name :: rest) goal
  /-- Something stands there that leads nowhere else. -/
  | found {links : Nat} {here : Location} {name : String} {entry : Entry} (sought : Sought name)
      (stands : tree.get? (here ++ [name]) = some entry) (notDirectory : entry ≠ .directory)
      (notLink : ∀ target, entry ≠ .link target) :
      Walks tree follow links here [name] (.found (here ++ [name]) entry)

/-- A walk ends at a place just if its steps lead there. -/
theorem walk_eq_ok_iff :
    tree.walk follow links here names = .ok goal ↔ Walks tree follow links here names goal := by
  constructor
  · intro h
    fun_induction Tree.walk tree follow links here names with
    | case1 links here => cases h; exact .here
    | case2 links here name rest blank ih => exact .stays blank (ih h)
    | case3 links here rest _ ih => exact .up (ih h)
    | case4 links here name rest _ _ _ => cases h
    | case5 links here name rest moves down short free last =>
      cases h
      exact .absent ⟨moves, down, short⟩ free (by simpa using last)
    | case6 links here name rest _ _ _ _ _ => cases h
    | case7 links here name rest moves down short stands ih => exact .down ⟨moves, down, short⟩ stands (ih h)
    | case8 links here name rest moves down short target stands ends =>
      cases h
      obtain ⟨rfl, unfollowed⟩ := ends
      exact .link ⟨moves, down, short⟩ stands (by simpa using unfollowed)
    | case9 links here name rest _ _ _ _ _ => cases h
    | case10 here name rest _ _ _ target _ _ _ => cases h
    | case11 here name rest moves down short target stands ends given links ih =>
      exact .follows ⟨moves, down, short⟩ stands (by simpa using ends) given (ih h)
    | case12 links here name moves down short entry notDirectory notLink stands =>
      cases h
      exact .found ⟨moves, down, short⟩ stands notDirectory notLink
    | case13 links here name rest _ _ _ entry _ _ _ _ => cases h
  · intro h
    induction h with
    | here => rw [walk]
    | stays blank _ ih => rw [walk, if_pos blank, ih]
    | up _ ih => rw [walk, if_neg (by decide), if_pos rfl, ih]
    | absent sought free last =>
      rw [walk, if_neg sought.moves, if_neg sought.down, if_neg sought.short]
      simp only [free]
      exact if_pos (by simpa using last)
    | down sought stands _ ih =>
      rw [walk, if_neg sought.moves, if_neg sought.down, if_neg sought.short]
      simp only [stands, ih]
    | link sought stands unfollowed =>
      rw [walk, if_neg sought.moves, if_neg sought.down, if_neg sought.short]
      simp [stands, unfollowed]
    | @follows _ _ _ _ rest _ sought stands followed given _ ih =>
      have goes : ¬ (rest = [] ∧ ¬ follow = true) := fun ends => ends.2 (followed ends.1)
      rw [walk, if_neg sought.moves, if_neg sought.down, if_neg sought.short]
      simp only [stands, if_neg goes, if_neg given, ih]
    | @found _ _ _ entry sought stands notDirectory notLink =>
      rw [walk, if_neg sought.moves, if_neg sought.down, if_neg sought.short]
      cases entry with
      | directory => exact absurd rfl notDirectory
      | link target => exact absurd rfl (notLink target)
      | _ => simp only [stands, if_true]


theorem find_eq_walk (limits : Path.WithinLimits path) : tree.find follow path =
    tree.walk follow maxLinks (start tree.current path) (Path.names path) := by
  rw [find, if_neg (by simpa using limits.zero), if_neg limits.full, if_neg (Nat.not_le_of_lt limits.short)]

/-- A path within the limits leads to where a walk by its names does. -/
theorem find_eq_ok_iff : tree.find follow path = .ok goal ↔ Path.WithinLimits path ∧
    Walks tree follow maxLinks (start tree.current path) (Path.names path) goal := by
  constructor
  · intro h
    have limits : Path.WithinLimits path := by
      unfold find at h
      split at h
      · cases h
      · next zero =>
        split at h
        · cases h
        · next full =>
          split at h
          · cases h
          · next short => exact ⟨by simpa using zero, full, Nat.lt_of_not_le short⟩
    rw [find_eq_walk limits] at h
    exact ⟨limits, walk_eq_ok_iff.1 h⟩
  · rintro ⟨limits, walks⟩
    rw [find_eq_walk limits]
    exact walk_eq_ok_iff.2 walks

/-! ### What stands at the end -/

/-- What stands where a walk ended. -/
def Stands (tree : Tree) (follow : Bool) : Place → Prop
  | .found place entry => entry = .directory ∨
      (tree.get? place = some entry ∧ (follow = true → ∀ target, entry ≠ .link target))
  | .absent parent name _ => tree.get? (parent ++ [name]) = none

theorem Walks.stands (walks : Walks tree follow links here names goal) : tree.Stands follow goal := by
  induction walks with
  | here => exact .inl rfl
  | stays _ _ ih => exact ih
  | up _ ih => exact ih
  | absent _ free _ => exact free
  | down _ _ _ ih => exact ih
  | link _ stands unfollowed => exact .inr ⟨stands, fun followed => by simp [unfollowed] at followed⟩
  | follows _ _ _ _ _ ih => exact ih
  | found _ stands _ notLink => exact .inr ⟨stands, fun _ => notLink⟩

end Tree

end MonitorFleet
