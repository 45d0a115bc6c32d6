import MonitorFleet.Tree.Walk

/-!
# Paths that meet no link

The walk of a path recurs on the links that it may still follow and on the names that are left, so that
it cannot be evaluated as it stands. Where no link is on the way the names alone lead on; what they lead to
is computed by `Tree.straight?`, and it is where the path leads.

## What is proved

* `Tree.find_of_straight?`: a path that meets no link leads where its names lead.
* `Tree.makeDirectories_of_absent`: a directory is made whose name alone is missing.
-/

namespace MonitorFleet.Tree

variable {tree : Tree} {here : Location} {names : List String} {path : String}
  {result : Except Fault Place}

/-- Where names lead from a directory, unless a link is on the way. -/
def straightFrom? (tree : Tree) (here : Location) : List String → Option (Except Fault Place)
  | [] => some (.ok (.found here .directory))
  | name :: rest =>
    if name = "" ∨ name = "." then tree.straightFrom? here rest
    else if name = ".." then tree.straightFrom? here.dropLast rest
    else if maxName < name.utf8ByteSize then some (.error .nameTooLong)
    else match tree.get? (here ++ [name]) with
      | none =>
        some (if rest.all (· = "") then .ok (.absent here name (rest ≠ [])) else .error .notFound)
      | some .directory => tree.straightFrom? (here ++ [name]) rest
      | some (.link _) => none
      | some entry =>
        some (if rest = [] then .ok (.found (here ++ [name]) entry) else .error .notDirectory)

/-- Where a path leads from the working directory, unless a link is on its way. -/
def straight? (tree : Tree) (path : String) : Option (Except Fault Place) :=
  if path.toList.contains '\x00' then some (.error .zeroByte)
  else if path = "" then some (.error .notFound)
  else if maxPath ≤ path.utf8ByteSize then some (.error .nameTooLong)
  else tree.straightFrom? (start tree.current path) (Path.names path)

theorem walk_of_straightFrom? (h : tree.straightFrom? here names = some result) (follow : Bool)
    (links : Nat) : tree.walk follow links here names = result := by
  induction names generalizing here with
  | nil =>
    cases h
    rw [walk]
  | cons name rest ih =>
    rw [straightFrom?] at h
    rw [walk]
    by_cases stays : name = "" ∨ name = "."
    · rw [if_pos stays] at h ⊢
      exact ih h
    · rw [if_neg stays] at h ⊢
      by_cases rises : name = ".."
      · rw [if_pos rises] at h ⊢
        exact ih h
      · rw [if_neg rises] at h ⊢
        by_cases long : maxName < name.utf8ByteSize
        · rw [if_pos long] at h ⊢
          exact Option.some.inj h
        · rw [if_neg long] at h ⊢
          cases stands : tree.get? (here ++ [name]) with
          | none =>
            rw [stands] at h
            exact Option.some.inj h
          | some entry =>
            rw [stands] at h
            cases entry with
            | directory => exact ih h
            | link target => cases h
            | file content => exact Option.some.inj h
            | sink => exact Option.some.inj h
            | full => exact Option.some.inj h

/-- A path that meets no link leads where its names lead, whether links would be followed or not. -/
theorem find_of_straight? (h : tree.straight? path = some result) (follow : Bool) :
    tree.find follow path = result := by
  unfold straight? at h
  unfold find
  by_cases zero : path.toList.contains '\x00' = true
  · rw [if_pos zero] at h ⊢
    exact Option.some.inj h
  · rw [if_neg zero] at h ⊢
    by_cases empty : path = ""
    · rw [if_pos empty] at h ⊢
      exact Option.some.inj h
    · rw [if_neg empty] at h ⊢
      by_cases long : maxPath ≤ path.utf8ByteSize
      · rw [if_pos long] at h ⊢
        exact Option.some.inj h
      · rw [if_neg long] at h ⊢
        exact walk_of_straightFrom? h follow maxLinks

theorem entryAt?_of_absent {parent : Location} {name : String} {slash : Bool}
    (h : tree.straight? path = some (.ok (.absent parent name slash))) : tree.entryAt? path = none := by
  rw [entryAt?, find_of_straight? h]

/-- A directory is made whose name alone is missing. -/
theorem makeDirectories_of_absent {parent : Location} {name : String} {slash : Bool}
    (h : tree.straight? path = some (.ok (.absent parent name slash))) :
    tree.makeDirectories path = (.ok (), tree.put (parent ++ [name]) .directory) := by
  have named : path ≠ "" := by
    rintro rfl
    cases h
  rw [makeDirectories, Path.ancestors, makeDirectoriesFrom, if_neg named, makeDirectory,
    find_of_straight? h]

end MonitorFleet.Tree
