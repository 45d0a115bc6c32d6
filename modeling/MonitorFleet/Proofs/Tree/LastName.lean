import MonitorFleet.Proofs.Tree.Files

/-!
# The name of the file that a path leads to

A path may lead to a file of quite another name, but only by way of a link: unless the last name of
the path names a link itself, it is the name of the file, wherever the names before it lead. So two
paths that end in different names and name no links do not lead to the same file.

## What is proved

* `Path.getLast?_names_join`: the last name of a path.
* `Tree.Walks.getLast?`, `Tree.getLast?_of_place?`: it is the name of the file.
-/

namespace MonitorFleet

/-! ### Names -/

/-- The last name of a path is the part that was joined to it. -/
theorem Path.getLast?_names_join (base : String) {name : String} (h : '/' ∉ name.toList) :
    (names (join base name)).getLast? = some name := by
  have alone : names name = [name] := by
    rw [names, Text.splitOn_of_not_mem h, List.map_singleton, String.ofList_toList]
  have relative : isAbsolute name = false := by
    rw [isAbsolute, beq_eq_false_iff_ne]
    exact fun h' => h (List.mem_of_head? h')
  have behind : ∀ before : List Char,
      ((Text.splitOn '/' (before ++ '/' :: name.toList)).map String.ofList).getLast? = some name := by
    intro before
    rw [Text.splitOn_append, Text.splitOn_of_not_mem h]
    simp
  rw [join, relative, if_neg Bool.false_ne_true]
  by_cases hempty : base = ""
  · rw [hempty, if_pos (by simp), String.empty_append, alone]
    rfl
  · by_cases hslash : endsInSlash base = true
    · rw [if_pos (by simp [hslash]), names, String.toList_append]
      obtain ⟨before, hbefore⟩ := List.getLast?_eq_some_iff.1 (eq_of_beq hslash)
      rw [hbefore, List.append_assoc]
      exact behind before
    · rw [if_neg (by simp [hempty, hslash]), names, String.toList_append, String.toList_append,
        List.append_assoc]
      exact behind base.toList

/-! ### Walks -/

namespace Tree

variable {tree : Tree} {place : Location}

/-- Whether a path names a link, which is not followed. -/
def isLink (tree : Tree) (path : String) : Bool :=
  match tree.find false path with
  | .ok (.found _ (.link _)) => true
  | _ => false

theorem getLast?_of_cons {first name : String} {rest : List String}
    (last : (first :: rest).getLast? = some name) (hne : first ≠ name) :
    rest.getLast? = some name := by
  cases rest with
  | nil => exact absurd (Option.some.inj last) hne
  | cons next rest => exact last

/-- A walk whose last name names no link leads to something of this name. -/
theorem Walks.getLast? {links : Nat} {here : Location} {names : List String} {goal : Place}
    {name : String} (walks : Walks tree true links here names goal) (hp : goal.file? = some place)
    (last : names.getLast? = some name) (proper : name ≠ "" ∧ name ≠ "." ∧ name ≠ "..")
    (unlinked : ∀ q target, ¬ Walks tree false links here names (.found q (.link target))) :
    place.getLast? = some name := by
  induction walks with
  | here => cases last
  | @stays _ _ first _ _ blank _ ih =>
    have hne : first ≠ name := by
      rintro rfl
      exact blank.elim proper.1 proper.2.1
    exact ih hp (getLast?_of_cons last hne) fun q target on => unlinked q target (.stays blank on)
  | up _ ih =>
    exact ih hp (getLast?_of_cons last (Ne.symm proper.2.2)) fun q target on =>
      unlinked q target (.up on)
  | @absent _ _ _ rest _ _ _ =>
    rw [Place.file?_absent] at hp
    split at hp
    · next ends =>
      cases hp
      obtain rfl : rest = [] := by simpa using ends
      rw [List.getLast?_concat]
      exact last
    · cases hp
  | @down _ _ _ rest _ sought stands on ih =>
    cases rest with
    | nil =>
      cases on
      cases hp
    | cons next rest => exact ih hp last fun q target on => unlinked q target (.down sought stands on)
  | link => cases hp
  | @follows _ _ _ _ rest _ sought stands _ given _ ih =>
    cases rest with
    | nil => exact absurd (.link sought stands rfl) (unlinked _ _)
    | cons next rest =>
      have more : next :: rest = [] → false = true := fun ends => by cases ends
      refine ih hp ?_ fun q target on => unlinked q target (.follows sought stands more given on)
      rw [List.getLast?_append, show (next :: rest).getLast? = some name from last]
      rfl
  | @found _ _ _ entry _ _ _ _ =>
    cases entry with
    | file content =>
      cases hp
      rw [List.getLast?_concat]
      exact last
    | _ => cases hp

/-- The file that a path leads to has the last name of the path, if that names no link. -/
theorem getLast?_of_place? {path name : String} (h : tree.place? path = some place)
    (last : (Path.names path).getLast? = some name) (proper : name ≠ "" ∧ name ≠ "." ∧ name ≠ "..")
    (unlinked : tree.isLink path = false) : place.getLast? = some name := by
  unfold place? at h
  unfold isLink at unlinked
  split at h
  · next goal hf =>
    obtain ⟨limits, walks⟩ := find_eq_ok_iff.1 hf
    refine walks.getLast? h last proper fun q target link => ?_
    rw [find_eq_ok_iff.2 ⟨limits, link⟩] at unlinked
    cases unlinked
  · cases h

end Tree

end MonitorFleet
