import MonitorFleet.Proofs.Tree.LastName

/-!
# Directories in the tree

A path leads to a directory, links followed (`Tree.directory?`). What stands in the directory under a
name is what the path with this name joined to it leads to (`find_join`), unless the name is too long
or names a link. A tree that keeps the directories and the links of another one (`Keeps`) has all
directories where they were.

## What is proved

* `Path.names_join`: the names of a path with a name joined to it.
* `Tree.walk_append`: a walk to a directory goes on from there.
* `Tree.walk_of_moves`: empty names and `.` make no difference to a walk to a directory.
* `Tree.Leads.find_join`, `Tree.find_join`: what a name leads to in a directory.
* `Tree.Keeps.directory?`: paths lead to the directories to which they led.
-/

namespace MonitorFleet

/-! ### Paths -/

namespace Path

/-- Whether a name stands for an entry of its directory: it is not empty, goes nowhere else and has
no slash. -/
def IsName (name : String) : Prop := name ≠ "" ∧ name ≠ "." ∧ name ≠ ".." ∧ '/' ∉ name.toList

theorem IsName.relative {name : String} (h : IsName name) : isAbsolute name = false := by
  rw [isAbsolute, beq_eq_false_iff_ne]
  exact fun h' => h.2.2.2 (List.mem_of_head? h')

variable {base name : String}

theorem toList_join (hbase : base ≠ "") (h : IsName name) :
    (endsInSlash base = true ∧ join base name = base ++ name) ∨
      (endsInSlash base = false ∧ join base name = base ++ "/" ++ name) := by
  rw [join, h.relative, if_neg Bool.false_ne_true]
  cases hslash : endsInSlash base <;> simp [hbase]

theorem join_empty (name : String) : join "" name = name := by
  simp [join]

theorem names_of_isName (h : IsName name) : names name = [name] := by
  rw [names, Text.splitOn_of_not_mem h.2.2.2, List.map_singleton, String.ofList_toList]

/-- The names of a path with a name joined to it are those of the path, without the empty name
behind a slash at its end. -/
theorem names_join (base : String) :
    ∃ before, (names base = before ∨ names base = before ++ [""]) ∧
      ∀ name, IsName name → names (join base name) = before ++ [name] := by
  have behind : ∀ (front : List Char) (name : String), IsName name →
      (Text.splitOn '/' (front ++ '/' :: name.toList)).map String.ofList =
        (Text.splitOn '/' front).map String.ofList ++ [name] := by
    intro front name h
    rw [Text.splitOn_append, Text.splitOn_of_not_mem h.2.2.2, List.map_append, List.map_singleton,
      String.ofList_toList]
  by_cases hbase : base = ""
  · subst hbase
    exact ⟨[], .inr rfl, fun name h => by rw [join_empty, names_of_isName h, List.nil_append]⟩
  · cases hslash : endsInSlash base with
    | true =>
      obtain ⟨front, hfront⟩ := List.getLast?_eq_some_iff.1 (eq_of_beq hslash)
      refine ⟨(Text.splitOn '/' front).map String.ofList, .inr ?_, fun name h => ?_⟩
      · rw [names, hfront, Text.splitOn_append, List.map_append]
        rfl
      · rcases toList_join hbase h with ⟨-, heq⟩ | ⟨open', -⟩
        · rw [heq, names, String.toList_append, hfront, List.append_assoc]
          exact behind front name h
        · rw [hslash] at open'
          cases open'
    | false =>
      refine ⟨names base, .inl rfl, fun name h => ?_⟩
      rcases toList_join hbase h with ⟨closed, -⟩ | ⟨-, heq⟩
      · rw [hslash] at closed
        cases closed
      · rw [heq, names, names, String.toList_append, String.toList_append, List.append_assoc]
        exact behind base.toList name h

theorem isAbsolute_join (base : String) (h : IsName name) :
    isAbsolute (join base name) = isAbsolute base := by
  by_cases hbase : base = ""
  · subst hbase
    rw [join_empty, h.relative]
    rfl
  · have hne : base.toList ≠ [] := fun hnil => hbase (String.toList_eq_nil_iff.1 hnil)
    obtain ⟨c, cs, hcs⟩ := List.exists_cons_of_ne_nil hne
    rcases toList_join hbase h with ⟨-, heq⟩ | ⟨-, heq⟩ <;>
      simp [heq, isAbsolute, hcs]

theorem join_ne_empty (base : String) (h : IsName name) : join base name ≠ "" := by
  intro hempty
  have hnil := congrArg String.toList hempty
  have hne : name.toList ≠ [] := fun hnil => h.1 (String.toList_eq_nil_iff.1 hnil)
  rw [join, h.relative, if_neg Bool.false_ne_true] at hnil
  split at hnil <;> simp [hne] at hnil

theorem contains_zero_join (base : String) (h : IsName name) :
    (join base name).toList.contains '\x00' =
      (base.toList.contains '\x00' || name.toList.contains '\x00') := by
  by_cases hbase : base = ""
  · subst hbase
    simp [join_empty]
  · rcases toList_join hbase h with ⟨-, heq⟩ | ⟨-, heq⟩ <;> simp [heq]

/-- Whether a name on the way goes anywhere: the empty name and `.` stay. -/
def moves (name : String) : Bool := name ≠ "" && name ≠ "."

/-- The empty name behind a slash at the end of a path does not move. -/
theorem filter_moves_before {before : List String}
    (h : names base = before ∨ names base = before ++ [""]) :
    before.filter moves = (names base).filter moves := by
  rcases h with heq | heq <;> rw [heq]
  rw [List.filter_append]
  exact (List.append_nil _).symm

theorem IsName.moves {name : String} (h : IsName name) : moves name = true := by
  simp [Path.moves, h.1, h.2.1]

end Path

namespace Tree

variable {tree later : Tree} {path name : String} {place : Location}

/-- Where a path leads to a directory, links followed. -/
def directory? (tree : Tree) (path : String) : Option Location :=
  match tree.find true path with
  | .ok (.found place .directory) => some place
  | _ => none

theorem find_of_directory? (h : tree.directory? path = some place) :
    tree.find true path = .ok (.found place .directory) := by
  unfold directory? at h
  split at h
  · next hfind =>
    cases h
    exact hfind
  · cases h

theorem isDirectory_iff : tree.isDirectory path = true ↔ ∃ place, tree.directory? path = some place := by
  unfold isDirectory entryAt? directory?
  cases tree.find true path with
  | error fault => simp
  | ok goal =>
    cases goal with
    | absent parent name slash => simp
    | found place entry => cases entry <;> simp

/-! ### Names in a directory -/

/-- A walk to a directory goes on from there, with the links that are left. -/
theorem walk_append {links : Nat} {here : Location} {names : List String}
    (h : tree.walk true links here names = .ok (.found place .directory)) :
    ∃ left, ∀ follow rest, rest ≠ [] →
      tree.walk follow links here (names ++ rest) = tree.walk follow left place rest := by
  rw [walk_eq_ok_iff] at h
  generalize reached : Place.found place .directory = goal at h
  induction h with
  | @here links _ =>
    cases reached
    exact ⟨links, fun _ _ _ => rfl⟩
  | stays blank _ ih =>
    refine (ih reached).imp fun left goes follow rest more => ?_
    rw [List.cons_append, walk, if_pos blank]
    exact goes follow rest more
  | up _ ih =>
    refine (ih reached).imp fun left goes follow rest more => ?_
    rw [List.cons_append, walk, if_neg (by decide), if_pos rfl]
    exact goes follow rest more
  | absent => cases reached
  | down sought stands _ ih =>
    refine (ih reached).imp fun left goes follow rest more => ?_
    rw [List.cons_append, walk, if_neg sought.moves, if_neg sought.down, if_neg sought.short]
    simp only [stands]
    exact goes follow rest more
  | link => cases reached
  | @follows _ _ _ _ names _ sought stands _ given _ ih =>
    refine (ih reached).imp fun left goes follow rest more => ?_
    have followed : ¬ (names ++ rest = [] ∧ ¬ follow = true) := by simp [more]
    rw [List.cons_append, walk, if_neg sought.moves, if_neg sought.down, if_neg sought.short]
    simp only [stands, if_neg followed, if_neg given]
    rw [← List.append_assoc]
    exact goes follow rest more
  | found _ _ notDirectory =>
    cases reached
    exact absurd rfl notDirectory

/-- Names that stay make no difference in front of others. -/
theorem Walks.behind {follow : Bool} {links : Nat} {here : Location} {front names : List String}
    {goal : Place} (stays : ∀ name ∈ front, Path.moves name = false)
    (on : Walks tree follow links here names goal) :
    Walks tree follow links here (front ++ names) goal := by
  induction front with
  | nil => exact on
  | cons name front ih =>
    have blank : name = "" ∨ name = "." := by
      simpa [Path.moves, Decidable.or_iff_not_imp_left] using stays name (List.mem_cons_self ..)
    exact .stays blank (ih fun other hother => stays other (List.mem_cons_of_mem name hother))

theorem Walks.ofStays {follow : Bool} {links : Nat} {here : Location} {names : List String}
    (stays : ∀ name ∈ names, Path.moves name = false) :
    Walks tree follow links here names (.found here .directory) := by
  rw [← List.append_nil names]
  exact .behind stays .here

/-- Names begin with those that stay, before the first one that moves. -/
theorem exists_of_filter_eq {name : String} {rest names : List String} (first : Path.moves name = true)
    (same : names.filter Path.moves = (name :: rest).filter Path.moves) :
    ∃ front others, names = front ++ name :: others ∧ (∀ n ∈ front, Path.moves n = false) ∧
      others.filter Path.moves = rest.filter Path.moves := by
  rw [List.filter_cons, if_pos first] at same
  obtain ⟨front, others, split, stays, -, heq⟩ := List.filter_eq_cons_iff.1 same
  exact ⟨front, others, split, fun n hn => by simpa using stays n hn, heq⟩

theorem Sought.moves_eq {name : String} (sought : Sought name) : Path.moves name = true := by
  simpa [Path.moves, not_or] using sought.moves

/-- Names that stay make no difference to what leads to a directory. -/
theorem walk_of_moves {links : Nat} {here : Location} {names names' : List String}
    (same : names.filter Path.moves = names'.filter Path.moves)
    (h : tree.walk true links here names' = .ok (.found place .directory)) :
    tree.walk true links here names = .ok (.found place .directory) := by
  rw [walk_eq_ok_iff] at h ⊢
  generalize reached : Place.found place .directory = goal at h ⊢
  induction h generalizing names with
  | here => exact .ofStays fun name hname => by simpa using List.filter_eq_nil_iff.1 same name hname
  | @stays _ _ name _ _ blank _ ih =>
    have stays : Path.moves name = false := by
      rcases blank with rfl | rfl <;> rfl
    rw [List.filter_cons, stays, if_neg Bool.false_ne_true] at same
    exact ih same reached
  | up _ ih =>
    obtain ⟨front, others, rfl, stays, same⟩ := exists_of_filter_eq rfl same
    exact .behind stays (.up (ih same reached))
  | absent => cases reached
  | down sought stands _ ih =>
    obtain ⟨front, others, rfl, stays, same⟩ := exists_of_filter_eq sought.moves_eq same
    exact .behind stays (.down sought stands (ih same reached))
  | link => cases reached
  | follows sought stands _ given _ ih =>
    obtain ⟨front, others, rfl, stays, same⟩ := exists_of_filter_eq sought.moves_eq same
    refine .behind stays (.follows sought stands (fun _ => rfl) given (ih ?_ reached))
    rw [List.filter_append, List.filter_append, same]
  | found _ _ notDirectory =>
    cases reached
    exact absurd rfl notDirectory

/-- That the names of a path lead to a directory, links followed, however long the path is. The
empty path leads to the working directory. -/
structure Leads (tree : Tree) (path : String) (place : Location) : Prop where
  zero : path.toList.contains '\x00' = false
  walk : tree.walk true maxLinks (start tree.current path) (Path.names path) =
    .ok (.found place .directory)

theorem leads_of_directory? (h : tree.directory? path = some place) : tree.Leads path place := by
  obtain ⟨limits, walks⟩ := find_eq_ok_iff.1 (find_of_directory? h)
  exact ⟨limits.zero, walk_eq_ok_iff.2 walks⟩

theorem Leads.of_same {path' : String} (h : tree.Leads path' place)
    (zero : path.toList.contains '\x00' = false)
    (absolute : Path.isAbsolute path = Path.isAbsolute path')
    (same : (Path.names path).filter Path.moves = (Path.names path').filter Path.moves) :
    tree.Leads path place :=
  ⟨zero, by rw [start, absolute]; exact walk_of_moves same h.walk⟩

/-- What a directory holds under a name. -/
def entryIn (tree : Tree) (place : Location) (name : String) : Place :=
  match tree.get? (place ++ [name]) with
  | none => .absent place name false
  | some entry => .found (place ++ [name]) entry

/-- Whether a name keeps to the limits when it is joined to a path. -/
def Fits (path name : String) : Prop :=
  name.toList.contains '\x00' = false ∧ name.utf8ByteSize ≤ maxName ∧
    (Path.join path name).utf8ByteSize < maxPath

instance (path name : String) : Decidable (Fits path name) :=
  inferInstanceAs (Decidable (_ ∧ _ ∧ _))

/-- A walk to what a path with a name joined to it names ends in the directory of the path. -/
theorem Leads.walk_join (leads : tree.Leads path place) (proper : Path.IsName name) :
    ∃ left, ∀ follow,
      tree.walk follow maxLinks (start tree.current (Path.join path name))
        (Path.names (Path.join path name)) = tree.walk follow left place [name] := by
  obtain ⟨before, hbefore, hjoin⟩ := Path.names_join path
  obtain ⟨left, hleft⟩ := walk_append (walk_of_moves (Path.filter_moves_before hbefore) leads.walk)
  refine ⟨left, fun follow => ?_⟩
  rw [start, Path.isAbsolute_join path proper, hjoin name proper]
  exact hleft follow [name] (List.cons_ne_nil _ _)

/-- What a name leads to in a directory: the entry of this name, if the name keeps to the limits;
else it is refused. A link is not to be followed. -/
theorem Leads.find_join (leads : tree.Leads path place) (proper : Path.IsName name)
    (follow : Bool) (unlinked : follow = true →
      ∀ target, tree.get? (place ++ [name]) ≠ some (.link target)) :
    (Fits path name ∧ tree.find follow (Path.join path name) = .ok (tree.entryIn place name)) ∨
      (¬ Fits path name ∧ ∃ fault, fault ≠ .notFound ∧
        tree.find follow (Path.join path name) = .error fault) := by
  obtain ⟨left, hleft⟩ := leads.walk_join proper
  unfold find Fits
  rw [Path.contains_zero_join path proper, leads.zero, Bool.false_or]
  by_cases hzero : name.toList.contains '\x00' = true
  · exact .inr ⟨fun fits => Bool.false_ne_true (fits.1.symm.trans hzero), .zeroByte, nofun,
      if_pos hzero⟩
  · rw [if_neg hzero, if_neg (Path.join_ne_empty path proper)]
    by_cases hlong : maxPath ≤ (Path.join path name).utf8ByteSize
    · exact .inr ⟨by omega, .nameTooLong, nofun, if_pos hlong⟩
    · rw [if_neg hlong, hleft follow, Tree.walk, if_neg (not_or.2 ⟨proper.1, proper.2.1⟩),
        if_neg proper.2.2.1]
      by_cases hname : maxName < name.utf8ByteSize
      · exact .inr ⟨by omega, .nameTooLong, nofun, if_pos hname⟩
      · refine .inl ⟨⟨by simpa using hzero, by omega, by omega⟩, ?_⟩
        rw [if_neg hname, entryIn]
        cases hget : tree.get? (place ++ [name]) with
        | none => rfl
        | some entry =>
          cases entry with
          | directory => simp [Tree.walk]
          | link target =>
            cases follow with
            | true => exact absurd hget (unlinked rfl target)
            | false => rfl
          | _ => rfl

theorem find_join (leads : tree.directory? path = some place) (proper : Path.IsName name)
    (follow : Bool) (unlinked : follow = true →
      ∀ target, tree.get? (place ++ [name]) ≠ some (.link target)) :
    (Fits path name ∧ tree.find follow (Path.join path name) = .ok (tree.entryIn place name)) ∨
      (¬ Fits path name ∧ ∃ fault, fault ≠ .notFound ∧
        tree.find follow (Path.join path name) = .error fault) :=
  (leads_of_directory? leads).find_join proper follow unlinked

theorem Leads.find_join_ne_notFound (leads : tree.Leads path place) (proper : Path.IsName name) :
    tree.find false (Path.join path name) ≠ .error .notFound := by
  rcases leads.find_join proper false nofun with ⟨-, hfind⟩ | ⟨-, fault, hne, hfind⟩
  · rw [hfind]
    exact nofun
  · rw [hfind]
    exact fun h => hne (Except.error.inj h)

/-! ### Later trees -/

/-- Another tree has the directories and the links of a tree where they are. -/
structure Keeps (tree later : Tree) : Prop where
  current : later.current = tree.current
  directory : ∀ place, tree.get? place = some .directory → later.get? place = some .directory
  link : ∀ place target, tree.get? place = some (.link target) →
    later.get? place = some (.link target)

theorem Keeps.refl (tree : Tree) : Keeps tree tree := ⟨rfl, fun _ => id, fun _ _ => id⟩

theorem Keeps.trans {last : Tree} (h : Keeps tree later) (h' : Keeps later last) :
    Keeps tree last where
  current := h'.current.trans h.current
  directory place hget := h'.directory place (h.directory place hget)
  link place target hget := h'.link place target (h.link place target hget)

/-- A walk to a directory leads there in the later tree, too. -/
theorem Keeps.walks (h : Keeps tree later) {links : Nat} {here : Location} {names : List String}
    (walks : Walks tree true links here names (.found place .directory)) :
    Walks later true links here names (.found place .directory) := by
  generalize reached : Place.found place .directory = goal at walks ⊢
  induction walks with
  | here => exact .here
  | stays blank _ ih => exact .stays blank (ih reached)
  | up _ ih => exact .up (ih reached)
  | absent => cases reached
  | down sought stands _ ih => exact .down sought (h.directory _ stands) (ih reached)
  | link => cases reached
  | follows sought stands followed given _ ih =>
    exact .follows sought (h.link _ _ stands) followed given (ih reached)
  | found _ _ notDirectory =>
    cases reached
    exact absurd rfl notDirectory

/-- Paths lead to the directories to which they led. -/
theorem Keeps.directory? (h : Keeps tree later) (leads : tree.directory? path = some place) :
    later.directory? path = some place := by
  obtain ⟨limits, walks⟩ := find_eq_ok_iff.1 (find_of_directory? leads)
  have found : later.find true path = .ok (.found place .directory) :=
    find_eq_ok_iff.2 ⟨limits, h.current ▸ h.walks walks⟩
  rw [Tree.directory?, found]

end Tree

end MonitorFleet
