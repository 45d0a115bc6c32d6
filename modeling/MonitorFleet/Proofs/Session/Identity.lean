import Mathlib.Computability.Language
import MonitorFleet.Proofs.Session.Creating

/-!
# The identity of a session

An id is a word of a regular language, the one of the values of labels, and it is the name of a directory
right below the base. So different ids have directories of their own, neither of which is in the other.
What is no id is refused before anything is made.

A session that was made can be opened, and is the same session, and it cannot be made once more. That it
is opened with the settings of a new session takes a directory that is new. It is, unless the base was
missing and its path goes back up: making the base may then lead to a directory that was there before, with
settings in it.

## What is proved

* `isValidId_iff`: which texts are accepted as ids.
* `isId_generatedId`: every id that is made of a random number is one.
* `components_apart`: different ids name directories apart from each other.
* `opens_of_init`, `opens_new_of_init`, `existing_of_init`: what can be done with a session that was made.
* `identified`: **the identity of the sessions of a base**, from making to opening.
* `stale_of_detour`: a session that was made in a directory with settings in it.
-/

open scoped Computability

namespace MonitorFleet.Session

/-! ### Ids -/

/-- Letters and digits. -/
def IsAlphanumeric (c : Char) : Prop :=
  ('A' ≤ c ∧ c ≤ 'Z') ∨ ('a' ≤ c ∧ c ≤ 'z') ∨ ('0' ≤ c ∧ c ≤ '9')

/-- What may stand inside the value of a label. -/
def IsInner (c : Char) : Prop := IsAlphanumeric c ∨ c = '.' ∨ c = '_' ∨ c = '-'

/-- The words of one letter that is such. -/
def letters (P : Char → Prop) : Language Char := {w | ∃ c, P c ∧ w = [c]}

/-- The values of labels: `[A-Za-z0-9]([A-Za-z0-9._-]*[A-Za-z0-9])?`. -/
def labelValue : Language Char :=
  letters IsAlphanumeric * (1 + (letters IsInner)∗ * letters IsAlphanumeric)

/-- Whether a text is an id: the value of a label, of no more than 63 characters. -/
def IsId (id : String) : Prop := id.toList ∈ labelValue ∧ id.toList.length ≤ 63

theorem isAlphanum_iff (c : Char) : c.isAlphanum = true ↔ IsAlphanumeric c := by
  have ranges : c.isAlphanum = ((decide ('A' ≤ c ∧ c ≤ 'Z') || decide ('a' ≤ c) && decide (c ≤ 'z')) ||
      decide ('0' ≤ c) && decide (c ≤ '9')) := rfl
  simp only [ranges, Bool.or_eq_true, Bool.and_eq_true, decide_eq_true_eq, or_assoc, IsAlphanumeric]

theorem isIdChar_iff (c : Char) : isIdChar c = true ↔ IsInner c := by
  simp only [isIdChar, Bool.or_eq_true, isAlphanum_iff, decide_eq_true_eq, IsInner]
  tauto

theorem mem_letters (P : Char → Prop) (w : List Char) : w ∈ letters P ↔ ∃ c, P c ∧ w = [c] := Iff.rfl

theorem mem_kstar_letters (P : Char → Prop) (w : List Char) : w ∈ (letters P)∗ ↔ ∀ c ∈ w, P c := by
  rw [Language.mem_kstar]
  constructor
  · rintro ⟨words, rfl, single⟩ c hc
    obtain ⟨word, hword, hmem⟩ := List.mem_flatten.1 hc
    obtain ⟨d, hd, rfl⟩ := single word hword
    rw [List.mem_singleton.1 hmem]
    exact hd
  · intro all
    have singles : w = (w.map fun c => [c]).flatten := by
      rw [← List.flatMap_def, List.flatMap_singleton']
    refine ⟨w.map fun c => [c], singles, fun word hword => ?_⟩
    obtain ⟨c, hc, rfl⟩ := List.mem_map.1 hword
    exact ⟨c, all c hc, rfl⟩

/-- The values of labels have letters or digits at both ends. -/
theorem mem_labelValue_iff (w : List Char) : w ∈ labelValue ↔ (∀ c ∈ w, IsInner c) ∧
    (∃ c, w.head? = some c ∧ IsAlphanumeric c) ∧ ∃ c, w.getLast? = some c ∧ IsAlphanumeric c := by
  simp only [labelValue, Language.mem_mul, Language.mem_add, Language.mem_one, mem_letters,
    mem_kstar_letters]
  constructor
  · rintro ⟨_, ⟨first, hfirst, rfl⟩, _, rfl | ⟨inside, hinside, _, ⟨last, hlast, rfl⟩, rfl⟩, rfl⟩
    · exact ⟨by simpa [IsInner] using .inl hfirst, ⟨first, rfl, hfirst⟩, ⟨first, rfl, hfirst⟩⟩
    · have ends : (first :: inside ++ [last]).getLast? = some last := List.getLast?_concat
      refine ⟨fun c hc => ?_, ⟨first, rfl, hfirst⟩, ⟨last, ends, hlast⟩⟩
      simp only [List.singleton_append, List.mem_cons, List.mem_append, List.not_mem_nil, or_false] at hc
      rcases hc with rfl | hc | rfl
      · exact .inl hfirst
      · exact hinside c hc
      · exact .inl hlast
  · rintro ⟨all, ⟨first, hhead, hfirst⟩, last, htail, hlast⟩
    obtain ⟨rest, rfl⟩ := List.head?_eq_some_iff.1 hhead
    refine ⟨[first], ⟨first, hfirst, rfl⟩, rest, ?_, rfl⟩
    rcases List.eq_nil_or_concat rest with rfl | ⟨inside, d, rfl⟩
    · exact .inl rfl
    · rw [List.concat_eq_append] at all htail ⊢
      have ends : (first :: inside ++ [d]).getLast? = some d := List.getLast?_concat
      obtain rfl := Option.some.inj (ends.symm.trans htail)
      exact .inr ⟨inside, fun c hc => all c (by simp [hc]), [d], ⟨d, hlast, rfl⟩, rfl⟩

/-- What is accepted as an id. -/
theorem isValidId_iff (id : String) : isValidId id = true ↔ IsId id := by
  simp only [isValidId, maxId, IsId, mem_labelValue_iff, Bool.and_eq_true, List.all_eq_true,
    isIdChar_iff, Option.any_eq_true, isAlphanum_iff]
  constructor
  · rintro ⟨⟨⟨short, inner⟩, first⟩, last⟩
    exact ⟨⟨inner, first, last⟩, of_decide_eq_true short⟩
  · rintro ⟨⟨inner, first, last⟩, short⟩
    exact ⟨⟨⟨decide_eq_true short, inner⟩, first⟩, last⟩

theorem isValidId_eq_false {id : String} (foreign : ¬ IsId id) : isValidId id = false :=
  Bool.eq_false_iff.2 fun valid => foreign ((isValidId_iff id).1 valid)

theorem IsId.isName {id : String} (h : IsId id) : Path.IsName id :=
  isName_of_isValidId ((isValidId_iff id).2 h)

theorem isAlphanum_of_mem_hexDigits {c : Char} {n k : Nat} (h : c ∈ hexDigits n k) :
    c.isAlphanum = true := by
  have digit : ∀ d < 16, (Nat.digitChar d).isAlphanum = true := by decide
  induction k generalizing n with
  | zero => cases h
  | succ k ih =>
    rcases List.mem_append.1 h with h | h
    · exact ih h
    · rw [List.mem_singleton.1 h]
      exact digit _ (Nat.mod_lt n (by decide))

theorem length_hexDigits (n k : Nat) : (hexDigits n k).length = k := by
  induction k generalizing n with
  | zero => rfl
  | succ k ih => rw [hexDigits, List.length_append, ih, List.length_singleton]

/-- Every id that is made of a random number is one. -/
theorem isId_generatedId (random : UInt32) : IsId (generatedId random) := by
  have digits : (generatedId random).toList = hexDigits random.toNat 8 := String.toList_ofList
  have long : (hexDigits random.toNat 8).length = 8 := length_hexDigits _ 8
  have full : hexDigits random.toNat 8 ≠ [] := fun h => by simp [h] at long
  have proper : ∀ c ∈ hexDigits random.toNat 8, IsAlphanumeric c := fun c hc =>
    (isAlphanum_iff c).1 (isAlphanum_of_mem_hexDigits hc)
  rw [IsId, digits, mem_labelValue_iff, long]
  exact ⟨⟨fun c hc => .inl (proper c hc),
    ⟨_, List.head?_eq_some_head full, proper _ (List.head_mem full)⟩,
    ⟨_, List.getLast?_eq_some_getLast full, proper _ (List.getLast_mem full)⟩⟩, by decide⟩

/-! ### Directories -/

/-- Different ids name directories apart from each other. -/
theorem components_apart {base id other : String} (isId : IsId id) (isId' : IsId other)
    (different : id ≠ other) :
    ¬ Path.components (Path.join base id) <+: Path.components (Path.join base other) := by
  rw [Path.components_join base isId.isName, Path.components_join base isId'.isName,
    List.prefix_append_right_inj]
  simpa using different

/-! ### Making and opening -/

variable {s : Session} {id base : String} {random : UInt32} {tree later last : Tree}

/-- To make a session leaves the directories that are there. -/
theorem keeps_of_init {result : Except Error Session}
    (h : init id base random tree = (result, later)) : Tree.Keeps tree later := by
  unfold init at h
  generalize (if id = "" then generatedId random else id) = id' at h
  simp only at h
  split at h
  · cases h
    exact .refl _
  · split at h
    · cases h
      exact .refl _
    · split at h <;> cases h
      · next hmake => exact Tree.keeps_of_makeDirectoriesFrom hmake
      · next hmake => exact Tree.keeps_of_makeDirectoriesFrom hmake

/-- To refuse a session makes nothing. -/
theorem unmade_of_init {reason : String}
    (h : init id base random tree = (.error (.session reason), later)) : later = tree := by
  unfold init at h
  generalize (if id = "" then generatedId random else id) = id' at h
  simp only at h
  split at h
  · cases h
    rfl
  · split at h
    · cases h
      rfl
    · split at h <;> cases h

theorem isDirectory_of_init (h : init id base random tree = (.ok s, later)) :
    later.isDirectory s.dir = true := by
  obtain ⟨same, valid, -, made⟩ := eq_of_init h
  have dir : s.dir = Path.join base s.id := congrArg Session.dir same
  exact Tree.isDirectory_of_makeDirectories
    (dir ▸ Path.join_ne_empty base (isName_of_isValidId valid)) made

/-- A session that was made is opened with the settings that are in its directory. -/
theorem opens_of_init (h : init id base random tree = (.ok s, later)) :
    Session.open s.id base later = (Config.load later s.dir).map fun config => { s with config } := by
  obtain ⟨same, valid, -, -⟩ := eq_of_init h
  have there := isDirectory_of_init h
  have full : s.id ≠ "" := (isName_of_isValidId valid).1
  rw [same] at there ⊢
  unfold Session.open
  simp only [if_neg full, valid, Bool.not_true, Bool.false_eq_true, if_false, there]
  cases Config.load later (Path.join base s.id) <;> rfl

/-- A session that was made in a new directory is opened as it is. -/
theorem opens_new_of_init (sound : tree.IsSound)
    (plain : tree.isDirectory base = true ∨ ".." ∉ Path.names base)
    (h : init id base random tree = (.ok s, later)) : Session.open s.id base later = .ok s := by
  obtain ⟨home, settled, empty⟩ := settled_of_init sound plain h
  obtain ⟨same, valid, -, -⟩ := eq_of_init h
  have free := empty ["config.json"] (List.cons_ne_nil _ _)
  have opened := (open_iff settled valid (congrArg Session.dir same) (.inl free)).2 free
  rwa [← same] at opened

/-- A session that was made cannot be made once more, as long as its directory stays. -/
theorem existing_of_init (h : init id base random tree = (.ok s, later)) (kept : later.Keeps last)
    (random' : UInt32) : init s.id base random' last = (.error (existing s.dir), last) := by
  obtain ⟨same, valid, -, -⟩ := eq_of_init h
  have dir : s.dir = Path.join base s.id := congrArg Session.dir same
  obtain ⟨place, leads⟩ := Tree.isDirectory_iff.1 (isDirectory_of_init h)
  have there : last.isPresent (Path.join base s.id) = true :=
    dir ▸ isPresent_of_isDirectory (Tree.isDirectory_iff.2 ⟨place, kept.directory? leads⟩)
  simp [init, (isName_of_isValidId valid).1, valid, there, existing, dir]

/-- Where a session is made whose base is there. -/
theorem eq_put_of_init {home : Location} (leads : tree.directory? base = some home)
    (h : init id base random tree = (.ok s, later)) :
    tree.get? (home ++ [s.id]) = none ∧ later = tree.put (home ++ [s.id]) .directory := by
  obtain ⟨same, valid, absent, made⟩ := eq_of_init h
  have dir : s.dir = Path.join base s.id := congrArg Session.dir same
  rw [dir] at made absent
  rcases Tree.makeDirectories_join leads (isName_of_isValidId valid) with
    ⟨-, free, hmake⟩ | ⟨-, fault, hmake⟩
  · rw [hmake] at made
    cases made
    exact ⟨free, rfl⟩
  · cases there : tree.isDirectory (Path.join base s.id) with
    | true => exact absurd (absent.symm.trans (isPresent_of_isDirectory there)) Bool.false_ne_true
    | false =>
      rw [hmake, there] at made
      cases made

/-- What is known of a session that was made. -/
structure Founded (id base : String) (random : UInt32) (tree : Tree) (s : Session) (later : Tree) :
    Prop where
  /-- It has the id that was asked for, or one of its own. -/
  named : s.id = if id = "" then generatedId random else id
  isId : IsId s.id
  /-- Its directory is right below the base, and its settings are those of a new session. -/
  fresh : s = fresh s.id base
  /-- If the base was there, its directory is all that is new. -/
  below : ∀ home, tree.directory? base = some home →
    tree.get? (home ++ [s.id]) = none ∧ later = tree.put (home ++ [s.id]) .directory
  /-- It is opened with the settings that are in its directory. -/
  opens : Session.open s.id base later = (Config.load later s.dir).map fun config => { s with config }
  /-- It is opened as it is, unless the base was missing and its path goes back up. -/
  opensNew : tree.IsSound → tree.isDirectory base = true ∨ ".." ∉ Path.names base →
    Session.open s.id base later = .ok s
  /-- It cannot be made once more, as long as its directory stays. -/
  again : ∀ last random', later.Keeps last →
    init s.id base random' last = (.error (existing s.dir), last)

/-- The identity of the sessions of a base, from making to opening. -/
structure Identified (base : String) : Prop where
  /-- What is no id cannot be made, and nothing is. -/
  unmade : ∀ id random tree, id ≠ "" → ¬ IsId id →
    init id base random tree = (.error (invalidId id), tree)
  /-- Nor can it be opened, be it empty or not. -/
  unopened : ∀ id tree, ¬ IsId id → ∃ reason, Session.open id base tree = .error (.session reason)
  /-- An empty id is replaced by one that is made of a random number. -/
  generated : ∀ random tree, IsId (generatedId random) ∧
    init "" base random tree = init (generatedId random) base random tree
  /-- The directory of an id is right below the base. -/
  child : ∀ id, IsId id → Path.IsName id ∧
    Path.components (Path.join base id) = Path.components base ++ [id]
  /-- No directory of an id is that of another one, or in it. -/
  apart : ∀ id other, IsId id → IsId other → id ≠ other →
    Path.join base id ≠ Path.join base other ∧
      ¬ Path.components (Path.join base id) <+: Path.components (Path.join base other)
  /-- What is known of a session that was made. -/
  made : ∀ id random tree s later, init id base random tree = (.ok s, later) →
    Founded id base random tree s later
  /-- If it is refused to make a session, nothing is made. -/
  refused : ∀ id random tree reason later,
    init id base random tree = (.error (.session reason), later) → later = tree

theorem founded_of_init (h : init id base random tree = (.ok s, later)) :
    Founded id base random tree s later where
  named := by
    unfold init at h
    generalize (if id = "" then generatedId random else id) = id' at h ⊢
    simp only at h
    split at h
    · cases h
    · split at h
      · cases h
      · split at h <;> cases h
        rfl
  isId := (isValidId_iff _).1 (eq_of_init h).2.1
  fresh := (eq_of_init h).1
  below _ leads := eq_put_of_init leads h
  opens := opens_of_init h
  opensNew sound plain := opens_new_of_init sound plain h
  again _ random' kept := existing_of_init h kept random'

/-- **The identity of the sessions of a base**, from making to opening. -/
theorem identified (base : String) : Identified base where
  unmade id random tree full foreign := by
    simp [init, full, isValidId_eq_false foreign]
  unopened id tree foreign := by
    by_cases empty : id = ""
    · exact ⟨"session id is required", by simp [Session.open, empty]⟩
    · exact ⟨s!"session id '{id}' is not a valid Kubernetes label value",
        by simp [Session.open, empty, isValidId_eq_false foreign, invalidId]⟩
  generated random tree := by
    have isId := isId_generatedId random
    exact ⟨isId, by simp only [init, if_pos, if_neg isId.isName.1]⟩
  child id isId := ⟨isId.isName, Path.components_join base isId.isName⟩
  apart id other isId isId' different := by
    have apart : ¬ Path.components (Path.join base id) <+: Path.components (Path.join base other) :=
      components_apart isId isId' different
    exact ⟨fun same => apart (same ▸ List.prefix_rfl), apart⟩
  made _ _ _ _ _ := founded_of_init
  refused _ _ _ _ _ := unmade_of_init

/-- The session `s1` is made and opened, and cannot be made once more after `s2` was made beside it. -/
theorem identified_plain : ∃ last, Session.open "s1" "b" bareMade = .ok plain ∧
    bareMade = bare.put ["b", "s1"] .directory ∧
    (init "s2" "b" 0 bareMade).2 = last ∧
    init "s1" "b" 1 last = (.error (existing "b/s1"), last) := by
  have founded := (identified "b").made _ _ _ _ _ init_plain
  have there : bare.find true "b" = .ok (.found ["b"] .directory) := Tree.find_of_straight? rfl true
  have leads : bare.directory? "b" = some ["b"] := by rw [Tree.directory?, there]
  exact ⟨_, founded.opensNew isSound_bare (.inr (by decide +kernel)), (founded.below _ leads).2, rfl,
    founded.again _ 1 (keeps_of_init Prod.mk.eta.symm)⟩

/-! ### A detour -/

/-- Settings that are not those of a new session. -/
def ported : Config := { Config.default with monitorPort := 9000 }

/-- The session `s1`, made by a path that goes down to a missing directory and back up. -/
def detoured : Session := ⟨"s1", "x/../b/s1", .direct, .default⟩

/-- **A session that was made where settings were**: the directory was not found as long as the one on
the way was missing, and was there as soon as this one was made. It is opened with these settings. -/
theorem stale_of_detour : ∃ later, init "s1" "x/../b" 0 (settledTree ported) = (.ok detoured, later) ∧
    Session.open "s1" "x/../b" later = .ok { detoured with config := ported } ∧
    Session.open "s1" "x/../b" later ≠ .ok detoured := by
  have joined : Path.join "x/../b" "s1" = "x/../b/s1" := by decide +kernel
  have above : Path.ancestors "x/../b/s1" = ["x/../b/s1", "x/../b", "x/..", "x", ""] := by
    decide +kernel
  have valid : isValidId "s1" = true := by decide +kernel
  -- Nothing is found behind the missing directory before it is made.
  have missing (follow : Bool) : (settledTree ported).find follow "x/../b/s1" = .error .notFound ∧
      (settledTree ported).find follow "x/../b" = .error .notFound ∧
      (settledTree ported).find follow "x/.." = .error .notFound ∧
      (settledTree ported).find follow "x" = .ok (.absent [] "x" false) :=
    ⟨Tree.find_of_straight? rfl follow, Tree.find_of_straight? rfl follow,
      Tree.find_of_straight? rfl follow, Tree.find_of_straight? rfl follow⟩
  have made (follow : Bool) :
      ((settledTree ported).put ["x"] .directory).find follow "x/../b/s1" =
        .ok (.found ["b", "s1"] .directory) ∧
      ((settledTree ported).put ["x"] .directory).find follow "x/../b" = .ok (.found ["b"] .directory) ∧
      ((settledTree ported).put ["x"] .directory).find follow "x/.." = .ok (.found [] .directory) :=
    ⟨Tree.find_of_straight? rfl follow, Tree.find_of_straight? rfl follow,
      Tree.find_of_straight? rfl follow⟩
  have init : init "s1" "x/../b" 0 (settledTree ported) =
      (.ok detoured, (settledTree ported).put ["x"] .directory) := by
    simp [init, joined, valid, Tree.isPresent, Tree.isDirectory, Tree.entryAt?, Tree.makeDirectories,
      above, Tree.makeDirectoriesFrom, Tree.makeDirectory, missing, made, detoured]
  have found : ((settledTree ported).put ["x"] .directory).find true (Config.path "x/../b/s1") =
      .ok (.found ["b", "s1", "config.json"] (.file ported.text.toUTF8)) := Tree.find_of_straight? rfl true
  have leads : ((settledTree ported).put ["x"] .directory).place? (Config.path "x/../b/s1") =
      some ["b", "s1", "config.json"] := by
    rw [Tree.place?, found]
    rfl
  have content : ((settledTree ported).put ["x"] .directory).content? ["b", "s1", "config.json"] =
      some ported.text.toUTF8 := by
    simp [Tree.content?, Tree.get?, Tree.put, settledTree]
  have sane : ported.fault? = none := by decide +kernel
  have loaded := ported.load_of_content? leads content
  rw [sane] at loaded
  have opened : Session.open "s1" "x/../b" ((settledTree ported).put ["x"] .directory) =
      .ok { detoured with config := ported } := by
    have opens := opens_of_init init
    have dir : detoured.dir = "x/../b/s1" := rfl
    rw [dir, loaded] at opens
    exact opens
  refine ⟨_, init, opened, fun same => ?_⟩
  rw [opened] at same
  exact absurd (congrArg Session.config (Except.ok.inj same)) (by decide +kernel)

end MonitorFleet.Session
