/-!
# Values by name

A `NameMap` keeps a value for each of some names, of nodes or of labels, in ascending order of the
names, which is the order of their UTF-8 bytes. No name occurs twice: `sorted` is part of the type.

`get?_insert` and `get?_erase` say what the operations do to every name, `mem_names` that the names
are those with a value, and `mem_entries` that the entries are the names with their values.
-/

namespace MonitorFleet

/-- Values by name, in ascending order of the names. -/
structure NameMap (α : Type) where
  entries : List (String × α)
  sorted : entries.Pairwise fun a b => a.1 < b.1

namespace NameMap

variable {α : Type}

/-- The map without entries. -/
def empty : NameMap α := ⟨[], .nil⟩

instance : Inhabited (NameMap α) := ⟨empty⟩

instance [DecidableEq α] : DecidableEq (NameMap α) := fun m m' =>
  decidable_of_iff (m.entries = m'.entries)
    ⟨fun h => by cases m; cases m'; cases h; rfl, congrArg entries⟩

/-- The names, in order. -/
def names (m : NameMap α) : List String := m.entries.map (·.1)

def size (m : NameMap α) : Nat := m.entries.length

def isEmpty (m : NameMap α) : Bool := m.entries.isEmpty

/-- The value of a name. -/
def get? (m : NameMap α) (name : String) : Option α :=
  (m.entries.find? fun e => e.1 == name).map (·.2)

/-- Puts an entry at its place in a sorted list, in place of one of the same name. -/
def insertEntry (name : String) (value : α) : List (String × α) → List (String × α)
  | [] => [(name, value)]
  | e :: es =>
    if e.1 < name then e :: insertEntry name value es
    else if e.1 = name then (name, value) :: es
    else (name, value) :: e :: es

theorem mem_insertEntry {name : String} {value : α} {es : List (String × α)} {x : String × α}
    (h : x ∈ insertEntry name value es) : x = (name, value) ∨ x ∈ es := by
  induction es with
  | nil => simpa [insertEntry] using h
  | cons e es ih =>
    unfold insertEntry at h
    split at h
    · rcases List.mem_cons.1 h with rfl | h
      · simp
      · rcases ih h with h | h <;> simp [h]
    · split at h
      · rcases List.mem_cons.1 h with rfl | h <;> simp_all
      · rcases List.mem_cons.1 h with rfl | h <;> simp_all

theorem sorted_insertEntry (name : String) (value : α) {es : List (String × α)}
    (h : es.Pairwise fun a b => a.1 < b.1) :
    (insertEntry name value es).Pairwise fun a b => a.1 < b.1 := by
  induction es with
  | nil => simp [insertEntry]
  | cons e es ih =>
    obtain ⟨he, hs⟩ := List.pairwise_cons.1 h
    unfold insertEntry
    split
    · next hlt =>
      refine List.pairwise_cons.2 ⟨fun x hx => ?_, ih hs⟩
      rcases mem_insertEntry hx with rfl | hx
      · exact hlt
      · exact he x hx
    · next hge =>
      split
      · next heq =>
        subst heq
        exact List.pairwise_cons.2 ⟨he, hs⟩
      · next hne =>
        have hlt : name < e.1 := by
          rcases String.le_total name e.1 with hle | hle
          · exact Std.lt_of_le_of_ne hle (Ne.symm hne)
          · exact absurd (Std.lt_of_le_of_ne hle hne) hge
        refine List.pairwise_cons.2 ⟨fun x hx => ?_, h⟩
        rcases List.mem_cons.1 hx with rfl | hx
        · exact hlt
        · exact String.lt_trans hlt (he x hx)

/-- The map with a value for a name, in place of the one it had. -/
def insert (m : NameMap α) (name : String) (value : α) : NameMap α :=
  ⟨insertEntry name value m.entries, sorted_insertEntry name value m.sorted⟩

/-- The map without a name. -/
def erase (m : NameMap α) (name : String) : NameMap α :=
  ⟨m.entries.filter fun e => e.1 != name, m.sorted.filter _⟩

/-- The map of a list of entries; of several for one name, the last one stays. -/
def ofList (entries : List (String × α)) : NameMap α :=
  entries.foldl (fun m e => m.insert e.1 e.2) empty

@[simp] theorem get?_empty (name : String) : (empty : NameMap α).get? name = none := rfl

theorem get?_insert (m : NameMap α) (name other : String) (value : α) :
    (m.insert name value).get? other = if other = name then some value else m.get? other := by
  obtain ⟨es, hs⟩ := m
  simp only [get?, insert]
  induction es with
  | nil =>
    by_cases h : other = name
    · simp [insertEntry, h]
    · simp [insertEntry, h, Ne.symm h]
  | cons e es ih =>
    obtain ⟨-, hs⟩ := List.pairwise_cons.1 hs
    unfold insertEntry
    split
    · next hlt =>
      by_cases he : e.1 = other
      · have : other ≠ name := by
          rintro rfl
          exact String.lt_irrefl _ (he ▸ hlt)
        simp [he, this]
      · simpa [he] using ih hs
    · split
      · next heq =>
        subst heq
        by_cases he : e.1 = other
        · simp [he]
        · simp [he, Ne.symm he]
      · by_cases he : name = other
        · simp [he]
        · simp [he, Ne.symm he]

theorem get?_erase (m : NameMap α) (name other : String) :
    (m.erase name).get? other = if other = name then none else m.get? other := by
  simp only [get?, erase, List.find?_filter]
  by_cases h : other = name
  · subst h
    simp
  · rw [if_neg h]
    congr 2
    funext e
    by_cases he : e.1 = other <;> simp [he, h]

theorem nodup_names (m : NameMap α) : m.names.Nodup := by
  refine List.pairwise_map.2 (m.sorted.imp ?_)
  intro a b hlt heq
  rw [heq] at hlt
  exact String.lt_irrefl _ hlt

theorem mem_names (m : NameMap α) (name : String) :
    name ∈ m.names ↔ ∃ value, m.get? name = some value := by
  simp only [names, get?, List.mem_map, Option.map_eq_some_iff]
  constructor
  · rintro ⟨e, he, rfl⟩
    have found : (m.entries.find? fun x => x.1 == e.1).isSome :=
      List.find?_isSome.2 ⟨e, he, beq_self_eq_true e.1⟩
    obtain ⟨x, hx⟩ := Option.isSome_iff_exists.1 found
    exact ⟨x.2, x, hx, rfl⟩
  · rintro ⟨_, e, he, -⟩
    exact ⟨e, List.mem_of_find?_eq_some he, by simpa using List.find?_some he⟩

theorem mem_entries (m : NameMap α) (name : String) (value : α) :
    (name, value) ∈ m.entries ↔ m.get? name = some value := by
  obtain ⟨es, hs⟩ := m
  simp only [get?]
  induction es with
  | nil => simp
  | cons e es ih =>
    obtain ⟨he, hs⟩ := List.pairwise_cons.1 hs
    rw [List.mem_cons, ih hs, List.find?_cons]
    by_cases h : e.1 = name
    · -- No later entry has the name of the first one.
      have later : (es.find? fun x => x.1 == name) = none := by
        refine List.find?_eq_none.2 fun x hx => ?_
        have hlt := he x hx
        rw [h] at hlt
        simpa using fun heq : x.1 = name => String.lt_irrefl name (heq ▸ hlt)
      rw [later, show (e.1 == name) = true from beq_iff_eq.2 h, ← h, eq_comm, Prod.ext_iff]
      simp
    · rw [show (e.1 == name) = false from beq_eq_false_iff_ne.2 h]
      simp [Prod.ext_iff, Ne.symm h]

end NameMap

/-- Names in ascending order, each once. -/
abbrev NameSet := NameMap Unit

namespace NameSet

/-- The set with one more name. -/
def add (s : NameSet) (name : String) : NameSet := s.insert name ()

/-- The names of a list, each once and in order. -/
def ofNames (names : List String) : NameSet := NameMap.ofList (names.map fun n => (n, ()))

end NameSet

end MonitorFleet
