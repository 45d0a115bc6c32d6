import Mathlib.Data.List.Induction
import MonitorFleet.Proofs.Tree.Changes

/-!
# Making directories

To make a directory with those above it is to go up until one is there or can be made, and to make the
others on the way back, each in the one that was just made. So either the directory was there before
and nothing is changed, or it is new and empty. Only `..` may lead out of a directory that was just
made, to one that was there before.

## What is proved

* `Walks.put`: a directory that is made where a walk ends is found by the walk.
* `makeDirectories_join`: what making a directory under a name of another one does.
* `makes_of_makeDirectoriesFrom`: a directory is made at once, or after those above it.
* `makeDirectories_of_isDirectory`, `isDirectory_of_makeDirectories`: to make a directory that is there
  changes nothing, and one that was made is there.
* `keeps_of_makeDirectoriesFrom`: the directories that were there stay.
* `founds_of_makeDirectories`: **a directory that is made with those above it** was there before, or is
  empty.
-/

namespace MonitorFleet

/-! ### Paths -/

namespace Path

variable {absolute : Bool} {parts first rest : List String} {name : String}

theorem endsInSlash_append (before : String) {last : String} (full : last ≠ "")
    (slashless : '/' ∉ last.toList) : endsInSlash (before ++ last) = false := by
  rw [endsInSlash, String.toList_append, List.getLast?_append, beq_eq_false_iff_ne]
  cases hlast : last.toList.getLast? with
  | none => exact absurd (String.toList_eq_nil_iff.1 (List.getLast?_eq_none_iff.1 hlast)) full
  | some c =>
    intro closed
    cases closed
    exact slashless (List.mem_of_getLast? hlast)

/-- The path of some components and a name is the path of the components with the name joined to it. -/
theorem ofComponents_concat (absolute : Bool) (slashless : ∀ part ∈ parts, part ≠ "" ∧ '/' ∉ part.toList)
    (proper : IsName name) :
    ofComponents absolute (parts ++ [name]) = join (ofComponents absolute parts) name := by
  rcases List.eq_nil_or_concat parts with rfl | ⟨front, last, rfl⟩
  · cases absolute with
    | true => simp [ofComponents, join, proper.relative, endsInSlash]
    | false => simp [ofComponents, join, proper.relative]
  · rw [List.concat_eq_append] at slashless ⊢
    obtain ⟨full, slash⟩ := slashless last (by simp)
    obtain ⟨before, written⟩ : ∃ before, ofComponents absolute (front ++ [last]) = before ++ last := by
      unfold ofComponents
      cases front with
      | nil => exact ⟨_, by rw [List.nil_append, String.intercalate_singleton]⟩
      | cons part parts =>
        rw [String.intercalate_append_of_ne_nil (List.cons_ne_nil _ _) (List.cons_ne_nil _ _),
          String.intercalate_singleton, ← String.append_assoc]
        exact ⟨_, rfl⟩
    have joined : ofComponents absolute (front ++ [last] ++ [name]) = before ++ last ++ "/" ++ name := by
      rw [← written, ofComponents, ofComponents, String.intercalate_append_of_ne_nil (by simp)
        (List.cons_ne_nil _ _), String.intercalate_singleton]
      simp only [String.append_assoc]
    have full' : before ++ last ≠ "" := fun empty => full (String.append_eq_empty_iff.1 empty).2
    rw [joined, written]
    simp [join, proper.relative, full', endsInSlash_append before full slash]

theorem filter_names_join (base : String) (proper : IsName name) :
    (names (join base name)).filter moves = (names base).filter moves ++ [name] := by
  obtain ⟨before, hbefore, hjoin⟩ := names_join base
  have alone : [name].filter moves = [name] := by simp [proper.moves]
  rw [hjoin name proper, List.filter_append, alone, filter_moves_before hbefore]

theorem components_eq_ite (path : String) : components path =
    if !isAbsolute path && (names path).head? == some "." then "." :: (names path).filter moves
    else (names path).filter moves :=
  rfl

/-- The components of a path with a name joined to it. -/
theorem components_join (base : String) (proper : IsName name) :
    components (join base name) = components base ++ [name] := by
  obtain ⟨before, hbefore, hjoin⟩ := names_join base
  have first : ((names (join base name)).head? == some ".") = ((names base).head? == some ".") := by
    rw [hjoin name proper]
    cases before with
    | nil =>
      have other : (some name == some ".") = false := by simpa using proper.2.1
      rcases hbefore with heq | heq <;> rw [heq] <;> exact other
    | cons part parts => rcases hbefore with heq | heq <;> rw [heq] <;> rfl
  rw [components_eq_ite, components_eq_ite, isAbsolute_join base proper, filter_names_join base proper, first]
  split <;> rfl

theorem ancestors_join (base : String) (proper : IsName name) :
    ancestors (join base name) = join base name :: ofComponents (isAbsolute base) (components base) ::
      parents (isAbsolute base) (components base).reverse := by
  rw [ancestors, components_join base proper, isAbsolute_join base proper, List.reverse_append,
    List.reverse_singleton, List.singleton_append, parents, List.reverse_reverse]

theorem isName_of_mem_names {path part : String} (h : part ∈ names path) (down : moves part = true)
    (up : part ≠ "..") : IsName part := by
  rw [moves, Bool.and_eq_true] at down
  obtain ⟨cs, hcs, rfl⟩ := List.mem_map.1 h
  refine ⟨by simpa using down.1, by simpa using down.2, up, ?_⟩
  rw [String.toList_ofList]
  exact Text.not_mem_of_mem_splitOn hcs

/-- Whether a path can begin like this: with nothing, or with a `.` if it is relative. -/
def BeginsAt (absolute : Bool) (first : List String) : Prop :=
  first = [] ∨ absolute = false ∧ first = ["."]

theorem components_eq (path : String) : ∃ first, BeginsAt (isAbsolute path) first ∧
    components path = first ++ (names path).filter moves := by
  rw [components_eq_ite]
  split
  · next h =>
    rw [Bool.and_eq_true, Bool.not_eq_true'] at h
    exact ⟨["."], .inr ⟨h.1, rfl⟩, rfl⟩
  · exact ⟨[], .inl rfl, rfl⟩

theorem BeginsAt.slashless (begins : BeginsAt absolute first) (proper : ∀ part ∈ rest, IsName part) :
    ∀ part ∈ first ++ rest, part ≠ "" ∧ '/' ∉ part.toList := by
  intro part hpart
  rcases List.mem_append.1 hpart with hpart | hpart
  · rcases begins with rfl | ⟨-, rfl⟩
    · cases hpart
    · rw [List.mem_singleton.1 hpart]
      decide
  · exact ⟨(proper part hpart).1, (proper part hpart).2.2.2⟩

/-- The path of components goes by their names. -/
theorem names_ofComponents (begins : BeginsAt absolute first) (proper : ∀ part ∈ rest, IsName part) :
    isAbsolute (ofComponents absolute (first ++ rest)) = absolute ∧
      (names (ofComponents absolute (first ++ rest))).filter moves = rest := by
  induction rest using List.reverseRecOn with
  | nil =>
    rcases begins with rfl | ⟨rfl, rfl⟩
    · cases absolute <;> exact ⟨by decide +kernel, by decide +kernel⟩
    · exact ⟨by decide +kernel, by decide +kernel⟩
  | append_singleton rest name ih =>
    have before := fun part hpart => proper part (List.mem_append_left _ hpart)
    have last := proper name (by simp)
    obtain ⟨absolute', kept⟩ := ih before
    rw [← List.append_assoc, ofComponents_concat absolute (begins.slashless before) last]
    refine ⟨(isAbsolute_join _ last).trans absolute', ?_⟩
    rw [filter_names_join _ last, kept]

end Path

/-! ### Locations -/

namespace Tree

/-- Whether every entry of a tree stands in a directory. -/
def IsSound (tree : Tree) : Prop :=
  ∀ place name, tree.get? (place ++ [name]) ≠ none → tree.get? place = some .directory

/-- Nothing stands below a free location. -/
theorem IsSound.get?_eq_none {tree : Tree} (sound : tree.IsSound) {place : Location}
    (free : tree.get? place = none) (q : Location) : tree.get? (place ++ q) = none := by
  induction q using List.reverseRecOn with
  | nil => rwa [List.append_nil]
  | append_singleton q name ih =>
    refine Decidable.byContradiction fun stands => ?_
    rw [← List.append_assoc] at stands
    rw [sound _ name stands] at ih
    cases ih

variable {tree later mid : Tree} {place parent : Location} {path name base : String}

/-- A directory that is made where a walk ends is found by the walk. -/
theorem Walks.put {follow slash : Bool} {links : Nat} {here : Location} {names : List String}
    (walks : Walks tree follow links here names (.absent parent name slash)) :
    Walks (tree.put (parent ++ [name]) .directory) true links here names
      (.found (parent ++ [name]) .directory) := by
  have free : tree.get? (parent ++ [name]) = none := walks.stands
  have kept : ∀ {q : Location} {entry : Entry}, tree.get? q = some entry →
      (tree.put (parent ++ [name]) .directory).get? q = some entry := by
    intro q entry hget
    rw [get?_put tree _ (by simp), if_neg fun heq => by rw [heq, free] at hget; cases hget]
    exact hget
  generalize reached : Place.absent parent name slash = goal at walks
  induction walks with
  | here => cases reached
  | stays blank _ ih => exact .stays blank (ih reached)
  | up _ ih => exact .up (ih reached)
  | absent sought _ last =>
    cases reached
    have made : (tree.put (parent ++ [name]) .directory).get? (parent ++ [name]) =
        some .directory := by
      rw [get?_put tree _ (by simp), if_pos rfl]
    exact .down sought made (.ofStays fun other hother => by simp [Path.moves, last other hother])
  | down sought stands _ ih => exact .down sought (kept stands) (ih reached)
  | link => cases reached
  | follows sought stands _ given _ ih =>
    exact .follows sought (kept stands) (fun _ => rfl) given (ih reached)
  | found => cases reached

/-- A directory that is made is where its path leads. -/
theorem directory?_put {follow slash : Bool}
    (h : tree.find follow path = .ok (.absent parent name slash)) :
    tree.get? (parent ++ [name]) = none ∧
      (tree.put (parent ++ [name]) .directory).directory? path = some (parent ++ [name]) := by
  obtain ⟨limits, walks⟩ := find_eq_ok_iff.1 h
  have found : (tree.put (parent ++ [name]) .directory).find true path =
      .ok (.found (parent ++ [name]) .directory) := find_eq_ok_iff.2 ⟨limits, walks.put⟩
  exact ⟨walks.stands, by rw [directory?, found]⟩

/-! ### Making a directory -/

/-- Another tree has a directory at a location that was one or free, and all else as it was. -/
structure Made (place : Location) (tree later : Tree) : Prop where
  current : later.current = tree.current
  self : later.get? place = some .directory
  before : tree.get? place = some .directory ∨ tree.get? place = none
  others : ∀ q, q ≠ place → later.get? q = tree.get? q

theorem Made.keeps (h : Made place tree later) : Keeps tree later where
  current := h.current
  directory q hget := by
    by_cases hq : q = place
    · exact hq ▸ h.self
    · exact (h.others q hq).trans hget
  link q target hget := by
    by_cases hq : q = place
    · subst hq
      rcases h.before with hbefore | hbefore <;> rw [hget] at hbefore <;> cases hbefore
    · exact (h.others q hq).trans hget

theorem Made.content? (h : Made place tree later) (q : Location) :
    later.content? q = tree.content? q := by
  by_cases hq : q = place
  · subst hq
    rw [Tree.content?, Tree.content?, h.self]
    rcases h.before with hbefore | hbefore <;> rw [hbefore]
  · rw [Tree.content?, Tree.content?, h.others q hq]

theorem Made.isRegular (h : Made place tree later) {q : Location} (regular : tree.IsRegular q) :
    later.IsRegular q := by
  by_cases hq : q = place
  · exact .inl (hq ▸ h.self)
  · rw [IsRegular, IsFileOrFree, h.others q hq]
    exact regular

theorem made_self (h : tree.get? place = some .directory) : Made place tree tree :=
  ⟨rfl, h, .inl h, fun _ _ => rfl⟩

theorem made_put (hne : place ≠ []) (h : tree.get? place = none) :
    Made place tree (tree.put place .directory) where
  current := rfl
  self := by rw [get?_put tree _ hne, if_pos rfl]
  before := .inr h
  others q hq := by rw [get?_put tree _ hne, if_neg hq]

/-- Making a directory under a name in another one: it is made if the name is free, and else it
has to be there. -/
theorem makeDirectories_join {path name : String} (leads : tree.directory? path = some place)
    (proper : Path.IsName name) :
    (Fits path name ∧ tree.get? (place ++ [name]) = none ∧ tree.makeDirectories (Path.join path name) =
      (.ok (), tree.put (place ++ [name]) .directory)) ∨
    ¬ (Fits path name ∧ tree.get? (place ++ [name]) = none) ∧ ∃ fault,
      tree.makeDirectories (Path.join path name) =
        (if tree.isDirectory (Path.join path name) then .ok () else .error fault, tree) := by
  have full := Path.join_ne_empty path proper
  unfold makeDirectories Path.ancestors
  rw [makeDirectoriesFrom, if_neg full, makeDirectory]
  rcases find_join leads proper false nofun with ⟨fits, hfind⟩ | ⟨unfit, fault, hfault, hfind⟩
  · rw [hfind, entryIn]
    cases hget : tree.get? (place ++ [name]) with
    | none => exact .inl ⟨fits, rfl, rfl⟩
    | some entry => exact .inr ⟨fun free => Option.some_ne_none _ free.2, .exists_, rfl⟩
  · rw [hfind]
    exact .inr ⟨fun free => unfit free.1, fault, if_pos hfault⟩

/-- What stands under a name, if the path with the name joined to it leads to a directory. -/
theorem get?_of_isDirectory_join {path name : String} (leads : tree.Leads path place)
    (proper : Path.IsName name) (unlinked : ∀ target, tree.get? (place ++ [name]) ≠ some (.link target))
    (there : tree.isDirectory (Path.join path name) = true) :
    Fits path name ∧ tree.get? (place ++ [name]) = some .directory := by
  obtain ⟨q, hq⟩ := isDirectory_iff.1 there
  rcases leads.find_join proper true (fun _ => unlinked) with ⟨fits, hfind⟩ | ⟨-, fault, -, hfind⟩
  · refine ⟨fits, ?_⟩
    rw [directory?, hfind, entryIn] at hq
    cases hget : tree.get? (place ++ [name]) with
    | none => rw [hget] at hq; cases hq
    | some entry =>
      rw [hget] at hq
      cases entry with
      | directory => rfl
      | _ => cases hq
  · rw [directory?, hfind] at hq
    cases hq

/-! ### Making those above it -/

/-- A directory to which something leads was there before, and nothing is changed, or it is new and
empty. -/
inductive Founds (leads : Tree → Location → Prop) (tree : Tree) : Tree → Prop where
  | there {place : Location} (h : leads tree place) : Founds leads tree tree
  | made {later : Tree} {place : Location} (h : leads later place) (free : tree.get? place = none)
      (empty : ∀ q, q ≠ [] → later.get? (place ++ q) = none) (keeps : Keeps tree later) :
      Founds leads tree later

theorem Founds.imp {leads leads' : Tree → Location → Prop} (h : Founds leads tree later)
    (implies : ∀ tree place, leads tree place → leads' tree place) : Founds leads' tree later := by
  cases h with
  | there h => exact .there (implies _ _ h)
  | made h free empty keeps => exact .made (implies _ _ h) free empty keeps

/-- What making a directory comes to, if it may be there already. -/
def Makes (tree : Tree) (path : String) (later : Tree) : Prop :=
  (∃ parent name slash, tree.find false path = .ok (.absent parent name slash) ∧
    later = tree.put (parent ++ [name]) .directory) ∨ tree.isDirectory path = true ∧ later = tree

/-- A directory is made at once, or after those above it if one of these is missing. -/
theorem makes_of_makeDirectoriesFrom {above : List String} (full : path ≠ "")
    (h : makeDirectoriesFrom (path :: above) tree = (.ok (), later)) :
    tree.Makes path later ∨ ∃ mid, tree.find false path = .error .notFound ∧
      makeDirectoriesFrom above tree = (.ok (), mid) ∧ mid.Makes path later := by
  -- What is refused has to be there already.
  have refused : ∀ {tree : Tree} {fault : Fault},
      (if tree.isDirectory path then Except.ok () else .error fault, tree) = (.ok (), later) →
      tree.Makes path later := by
    intro tree fault result
    split at result
    · next there =>
      cases result
      exact .inr ⟨there, rfl⟩
    · cases result
  have made : ∀ {tree : Tree}, tree.makeDirectory path = .ok later → tree.Makes path later := by
    intro tree result
    unfold makeDirectory at result
    split at result
    · cases result
    · cases result
    · next hfind =>
      cases result
      exact .inl ⟨_, _, _, hfind, rfl⟩
  rw [makeDirectoriesFrom, if_neg full] at h
  cases hmake : tree.makeDirectory path with
  | ok first =>
    rw [hmake] at h
    cases h
    exact .inl (made hmake)
  | error fault =>
    rw [hmake] at h
    by_cases hfault : fault = .notFound
    · subst hfault
      have missing : tree.find false path = .error .notFound := by
        unfold makeDirectory at hmake
        split at hmake <;> cases hmake
        assumption
      simp only [ne_eq, not_true, if_false] at h
      split at h
      · cases h
      · next mid habove =>
        refine .inr ⟨mid, missing, habove, ?_⟩
        split at h
        · next hmake =>
          cases h
          exact made hmake
        · exact refused h
    · simp only [ne_eq, hfault, not_false_eq_true, if_true] at h
      exact .inl (refused h)

/-- A walk that need not follow the last link ends at something if one that follows it does. -/
theorem Walks.unfollowed {links : Nat} {here : Location} {names : List String} {entry : Entry}
    (walks : Walks tree true links here names (.found place entry)) :
    ∃ place' entry', Walks tree false links here names (.found place' entry') := by
  generalize reached : Place.found place entry = goal at walks
  induction walks with
  | here => exact ⟨_, _, .here⟩
  | stays blank _ ih =>
    obtain ⟨q, last, on⟩ := ih reached
    exact ⟨q, last, .stays blank on⟩
  | up _ ih =>
    obtain ⟨q, last, on⟩ := ih reached
    exact ⟨q, last, .up on⟩
  | absent => cases reached
  | down sought stands _ ih =>
    obtain ⟨q, last, on⟩ := ih reached
    exact ⟨q, last, .down sought stands on⟩
  | link sought stands => exact ⟨_, _, .link sought stands rfl⟩
  | @follows _ _ _ _ rest _ sought stands _ given _ ih =>
    -- A link at the end is what is found; one before the end is followed in any case.
    cases rest with
    | nil => exact ⟨_, _, .link sought stands rfl⟩
    | cons next rest =>
      obtain ⟨q, last, on⟩ := ih reached
      exact ⟨q, last, .follows sought stands (fun ends => by cases ends) given on⟩
  | found sought stands notDirectory notLink => exact ⟨_, _, .found sought stands notDirectory notLink⟩

/-- To make a directory that is there changes nothing, and is no failure. -/
theorem makeDirectories_of_isDirectory (there : tree.isDirectory path = true) :
    tree.makeDirectories path = (.ok (), tree) := by
  obtain ⟨place, hplace⟩ := isDirectory_iff.1 there
  obtain ⟨limits, walks⟩ := find_eq_ok_iff.1 (find_of_directory? hplace)
  obtain ⟨place', entry', walks'⟩ := walks.unfollowed
  have hfind : tree.find false path = .ok (.found place' entry') := find_eq_ok_iff.2 ⟨limits, walks'⟩
  simp [makeDirectories, Path.ancestors, makeDirectoriesFrom, limits.full, makeDirectory, hfind, there]

/-- A directory that was made is there. -/
theorem isDirectory_of_makeDirectories (full : path ≠ "")
    (h : tree.makeDirectories path = (.ok (), later)) : later.isDirectory path = true := by
  have made : ∀ {tree : Tree}, tree.Makes path later → later.isDirectory path = true := by
    rintro tree (⟨_, _, _, hfind, rfl⟩ | ⟨there, rfl⟩)
    · exact isDirectory_iff.2 ⟨_, (directory?_put hfind).2⟩
    · exact there
  rcases makes_of_makeDirectoriesFrom full h with makes | ⟨mid, -, -, makes⟩
  · exact made makes
  · exact made makes

/-- A directory that is made leaves the others, and the links, where they are. -/
theorem keeps_of_makeDirectory (h : tree.makeDirectory path = .ok later) : Keeps tree later := by
  unfold makeDirectory at h
  split at h
  · cases h
  · cases h
  · next hfind =>
    cases h
    exact (made_put (by simp) (directory?_put hfind).1).keeps

/-- To make directories leaves those that are there, and the links, where they are, also if it fails
on the way. -/
theorem keeps_of_makeDirectoriesFrom {paths : List String} {result : Except Fault Unit}
    (h : makeDirectoriesFrom paths tree = (result, later)) : Keeps tree later := by
  induction paths generalizing result later with
  | nil =>
    cases h
    exact .refl _
  | cons path above ih =>
    rw [makeDirectoriesFrom] at h
    split at h
    · cases h
      exact .refl _
    · split at h
      · next hmake =>
        cases h
        exact keeps_of_makeDirectory hmake
      · split at h
        · cases h
          exact .refl _
        · split at h
          · next habove =>
            cases h
            exact ih habove
          · next mid habove =>
            have kept := ih habove
            split at h <;> cases h
            · next hmake => exact kept.trans (keeps_of_makeDirectory hmake)
            · exact kept

/-- One step down: a directory is made in the one above it, which was there before or is new. -/
theorem founds_join (sound : tree.IsSound) (proper : Path.IsName name) {above : List String}
    (h : makeDirectoriesFrom (Path.join base name :: above) tree = (.ok (), later))
    (ih : tree.find false (Path.join base name) = .error .notFound → ∀ mid,
      makeDirectoriesFrom above tree = (.ok (), mid) → Founds (·.Leads base) tree mid) :
    Founds (fun t place => t.directory? (Path.join base name) = some place) tree later := by
  rcases makes_of_makeDirectoriesFrom (Path.join_ne_empty base proper) h with
    (⟨parent, last, slash, hfind, rfl⟩ | ⟨there, rfl⟩) | ⟨mid, missing, habove, hmakes⟩
  · obtain ⟨free, leads⟩ := directory?_put hfind
    have made := made_put (by simp) free
    refine .made leads free (fun q hq => ?_) made.keeps
    rw [made.others _ (by simpa using hq)]
    exact sound.get?_eq_none free q
  · obtain ⟨place, leads⟩ := isDirectory_iff.1 there
    exact .there leads
  · cases ih missing mid habove with
    | there leads =>
      exact absurd missing (leads.find_join_ne_notFound proper)
    | @made _ place leads free empty keeps =>
      have absent := empty [name] (List.cons_ne_nil _ _)
      rcases hmakes with ⟨parent, last, slash, hfind, rfl⟩ | ⟨there, rfl⟩
      · rcases leads.find_join proper false nofun with ⟨-, hok⟩ | ⟨-, fault, -, herror⟩
        · obtain ⟨-, leads'⟩ := directory?_put hfind
          rw [hok, entryIn, absent] at hfind
          cases hfind
          have made := made_put (by simp) absent
          refine .made leads' (sound.get?_eq_none free _) (fun q hq => ?_) (keeps.trans made.keeps)
          rw [made.others _ (by simpa using hq), List.append_assoc]
          exact empty _ (by simp)
        · rw [herror] at hfind
          cases hfind
      · have stands := (get?_of_isDirectory_join leads proper (by simp [absent]) there).2
        rw [absent] at stands
        cases stands

/-- A path on which no name moves is there. -/
theorem founds_of_stays {above : List String} (zero : path.toList.contains '\x00' = false)
    (short : path.utf8ByteSize < maxPath) (stays : ∀ name ∈ Path.names path, Path.moves name = false)
    (h : makeDirectoriesFrom (path :: above) tree = (.ok (), later)) :
    Founds (·.Leads path) tree later := by
  have there : Founds (·.Leads path) tree tree := .there ⟨zero, walk_eq_ok_iff.2 (.ofStays stays)⟩
  by_cases full : path = ""
  · rw [makeDirectoriesFrom, if_pos full] at h
    cases h
    exact there
  · have hfind : tree.find false path = .ok (.found (start tree.current path) .directory) :=
      find_eq_ok_iff.2 ⟨⟨zero, full, short⟩, .ofStays stays⟩
    rcases makes_of_makeDirectoriesFrom full h with
      (⟨_, _, _, habsent, -⟩ | ⟨-, rfl⟩) | ⟨_, missing, -⟩
    · rw [hfind] at habsent
      cases habsent
    · exact there
    · rw [hfind] at missing
      cases missing

/-- Making a path of components and those above it. Names alone follow what it begins with. -/
theorem founds_ofComponents {absolute : Bool} {first rest : List String} (sound : tree.IsSound)
    (begins : Path.BeginsAt absolute first) (proper : ∀ part ∈ rest, Path.IsName part)
    (h : makeDirectoriesFrom (Path.ofComponents absolute (first ++ rest) ::
      Path.parents absolute (first ++ rest).reverse) tree = (.ok (), later)) :
    Founds (·.Leads (Path.ofComponents absolute (first ++ rest))) tree later := by
  induction rest using List.reverseRecOn generalizing later with
  | nil =>
    have stays := List.filter_eq_nil_iff.1 (Path.names_ofComponents begins proper).2
    have plain : (Path.ofComponents absolute (first ++ [])).toList.contains '\x00' = false ∧
        (Path.ofComponents absolute (first ++ [])).utf8ByteSize < maxPath := by
      rcases begins with rfl | ⟨rfl, rfl⟩
      · cases absolute <;> exact ⟨by decide +kernel, by decide +kernel⟩
      · exact ⟨by decide +kernel, by decide +kernel⟩
    exact founds_of_stays plain.1 plain.2 (fun name hname => by simpa using stays name hname) h
  | append_singleton rest name ih =>
    have before := fun part hpart => proper part (List.mem_append_left _ hpart)
    have last := proper name (by simp)
    rw [← List.append_assoc, Path.ofComponents_concat absolute (begins.slashless before) last] at h ⊢
    rw [List.reverse_append, List.reverse_singleton, List.singleton_append, Path.parents,
      List.reverse_reverse] at h
    exact (founds_join sound last h fun _ mid => ih before).imp fun _ _ => leads_of_directory?

/-- **A directory that is made with those above it** was there before, or is new and empty, unless the
one above it is missing and its path goes back up. -/
theorem founds_of_makeDirectories (sound : tree.IsSound) (proper : Path.IsName name)
    (plain : tree.isDirectory base = true ∨ ".." ∉ Path.names base)
    (h : tree.makeDirectories (Path.join base name) = (.ok (), later)) :
    Founds (fun t place => t.directory? (Path.join base name) = some place) tree later := by
  rw [makeDirectories, Path.ancestors_join base proper] at h
  refine founds_join sound proper h fun missing mid habove => ?_
  obtain ⟨first, begins, written⟩ := Path.components_eq base
  have zero : base.toList.contains '\x00' = false := by
    rw [find, Path.contains_zero_join base proper] at missing
    split at missing
    · cases missing
    · next zero => exact (Bool.or_eq_false_iff.1 (Bool.eq_false_iff.2 zero)).1
  have up : ".." ∉ Path.names base := plain.resolve_left fun there => by
    obtain ⟨place, leads⟩ := isDirectory_iff.1 there
    exact (leads_of_directory? leads).find_join_ne_notFound proper missing
  have names : ∀ part ∈ (Path.names base).filter Path.moves, Path.IsName part := by
    intro part hpart
    obtain ⟨hmem, hmoves⟩ := List.mem_filter.1 hpart
    exact Path.isName_of_mem_names hmem hmoves fun heq => up (heq ▸ hmem)
  rw [written] at habove
  obtain ⟨absolute, same⟩ := Path.names_ofComponents begins names
  exact (founds_ofComponents sound begins names habove).imp fun _ _ leads =>
    leads.of_same zero absolute.symm same.symm

end Tree

end MonitorFleet
