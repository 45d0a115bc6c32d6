import MonitorFleet.NameMap
import MonitorFleet.Text.Split

/-!
# What selectors mean

An API server reads a selector as terms with commas between them, all of which have to hold of a
pod's labels. A term is spelled `key=value`, `key==value` or `key!=value`, where neither the key nor
the value holds a character that means something in a selector (`IsPlain`); the last kind of term
holds also of a pod without the label. A text in which some part between commas spells no term
matches nothing.

## What is proved

* `Spells.unique`: a text spells one term at most.
* `matches_append`: a selector of two parts matches what both parts match.
* `matches_single`, `matches_unequal`: the selectors of a single term, by the term.
* `matches_empty_of_foreign`: a selector without any term for a key that matches a pod with this
  label alone matches the pod without labels.
-/

namespace MonitorFleet.Selector

/-- A term of a selector. -/
inductive Term where
  | equals (key value : String)
  | differs (key value : String)

namespace Term

def key : Term → String
  | equals key _ => key
  | differs key _ => key

/-- Whether a term holds of labels. -/
def Holds (labels : NameMap String) : Term → Prop
  | equals key value => labels.get? key = some value
  | differs key value => labels.get? key ≠ some value

end Term

/-- Whether a character means something in a selector. -/
def isMark (c : Char) : Bool := c = ',' || c = '=' || c = '!'

/-- A text that can stand on a side of a term. -/
def IsPlain (cs : List Char) : Prop := ∀ c ∈ cs, isMark c = false

instance (cs : List Char) : Decidable (IsPlain cs) := List.decidableBAll _ cs

/-- **The term that a text spells.** -/
inductive Spells : List Char → Term → Prop where
  /-- `key=value`. -/
  | single {key value : List Char} (hkey : IsPlain key) (hvalue : IsPlain value) :
      Spells (key ++ '=' :: value) (.equals (String.ofList key) (String.ofList value))
  /-- `key==value`. -/
  | double {key value : List Char} (hkey : IsPlain key) (hvalue : IsPlain value) :
      Spells (key ++ '=' :: '=' :: value) (.equals (String.ofList key) (String.ofList value))
  /-- `key!=value`. -/
  | unequal {key value : List Char} (hkey : IsPlain key) (hvalue : IsPlain value) :
      Spells (key ++ '!' :: '=' :: value) (.differs (String.ofList key) (String.ofList value))

/-- Whether a selector matches a pod, by its labels. -/
def Matches (selector : String) (labels : NameMap String) : Prop :=
  ∀ part ∈ Text.splitOn ',' selector.toList, ∃ t, Spells part t ∧ t.Holds labels

/-! ### Terms -/

/-- Two texts that are cut at their first marks. -/
theorem eq_of_mark {before before' after after' : List Char} {c c' : Char} (plain : IsPlain before)
    (plain' : IsPlain before') (mark : isMark c = true) (mark' : isMark c' = true)
    (h : before ++ c :: after = before' ++ c' :: after') :
    before = before' ∧ c = c' ∧ after = after' := by
  induction before generalizing before' with
  | nil =>
    cases before' with
    | nil => simpa using h
    | cons b before' =>
      obtain ⟨rfl, -⟩ := List.cons.inj h
      rw [plain' c (List.mem_cons_self ..)] at mark
      cases mark
  | cons a before ih =>
    cases before' with
    | nil =>
      obtain ⟨rfl, -⟩ := List.cons.inj h
      rw [plain a (List.mem_cons_self ..)] at mark'
      cases mark'
    | cons b before' =>
      obtain ⟨rfl, hrest⟩ := List.cons.inj h
      obtain ⟨rfl, hc, hafter⟩ := ih (fun c hc => plain c (List.mem_cons_of_mem _ hc))
        (fun c hc => plain' c (List.mem_cons_of_mem _ hc)) hrest
      exact ⟨rfl, hc, hafter⟩

theorem not_isPlain_mark {c : Char} {cs : List Char} (mark : isMark c = true) :
    ¬ IsPlain (c :: cs) := by
  intro plain
  rw [plain c (List.mem_cons_self ..)] at mark
  cases mark

/-- A text spells one term at most. -/
theorem Spells.unique {part : List Char} {t t' : Term} (h : Spells part t) (h' : Spells part t') :
    t = t' := by
  -- All that stands before the first mark is the key, and the mark tells the terms apart, except
  -- that a value can begin with no second `=`.
  generalize hp : part = other at h'
  cases h with
  | @single key value hkey hvalue =>
    cases h' with
    | single hkey' _ =>
      obtain ⟨rfl, -, rfl⟩ := eq_of_mark hkey hkey' rfl rfl hp
      rfl
    | double hkey' _ =>
      obtain ⟨-, -, rfl⟩ := eq_of_mark hkey hkey' rfl rfl hp
      exact absurd hvalue (not_isPlain_mark rfl)
    | unequal hkey' _ => simpa using (eq_of_mark hkey hkey' rfl rfl hp).2.1
  | @double key value hkey hvalue =>
    cases h' with
    | single hkey' hvalue' =>
      obtain ⟨-, -, rfl⟩ := eq_of_mark hkey hkey' rfl rfl hp
      exact absurd hvalue' (not_isPlain_mark rfl)
    | double hkey' _ =>
      obtain ⟨rfl, -, h⟩ := eq_of_mark hkey hkey' rfl rfl hp
      cases h
      rfl
    | unequal hkey' _ => simpa using (eq_of_mark hkey hkey' rfl rfl hp).2.1
  | @unequal key value hkey hvalue =>
    cases h' with
    | single hkey' _ => simpa using (eq_of_mark hkey hkey' rfl rfl hp).2.1
    | double hkey' _ => simpa using (eq_of_mark hkey hkey' rfl rfl hp).2.1
    | unequal hkey' _ =>
      obtain ⟨rfl, -, h⟩ := eq_of_mark hkey hkey' rfl rfl hp
      cases h
      rfl

theorem Spells.isPlain_key {part : List Char} {t : Term} (h : Spells part t) :
    IsPlain t.key.toList := by
  cases h with
  | single hkey _ => simpa [Term.key] using hkey
  | double hkey _ => simpa [Term.key] using hkey
  | unequal hkey _ => simpa [Term.key] using hkey

/-- A text that spells a term has no comma. -/
theorem Spells.not_mem_comma {part : List Char} {t : Term} (h : Spells part t) : ',' ∉ part := by
  have free : ∀ {cs : List Char}, IsPlain cs → ',' ∉ cs := by
    intro cs plain hmem
    exact Bool.noConfusion (plain ',' hmem)
  cases h with
  | single hkey hvalue => simp [free hkey, free hvalue]
  | double hkey hvalue => simp [free hkey, free hvalue]
  | unequal hkey hvalue => simp [free hkey, free hvalue]

/-! ### Selectors -/

/-- A selector of two parts matches what both parts match. -/
theorem matches_append (first second : String) (labels : NameMap String) :
    Matches (first ++ "," ++ second) labels ↔ Matches first labels ∧ Matches second labels := by
  have parts : Text.splitOn ',' (first ++ "," ++ second).toList =
      Text.splitOn ',' first.toList ++ Text.splitOn ',' second.toList := by
    rw [← Text.splitOn_append]
    simp
  simp only [Matches, parts, List.mem_append, or_imp, forall_and]

/-- A selector that spells a term matches what the term holds of. -/
theorem matches_of_spells {selector : String} {t : Term} (h : Spells selector.toList t)
    (labels : NameMap String) : Matches selector labels ↔ t.Holds labels := by
  rw [Matches, Text.splitOn_of_not_mem h.not_mem_comma]
  constructor
  · intro matched
    obtain ⟨t', h', holds⟩ := matched _ (List.mem_singleton.2 rfl)
    rwa [h.unique h']
  · rintro holds part hpart
    obtain rfl := List.mem_singleton.1 hpart
    exact ⟨t, h, holds⟩

theorem matches_single {key value : String} (hkey : IsPlain key.toList)
    (hvalue : IsPlain value.toList) (labels : NameMap String) :
    Matches (key ++ "=" ++ value) labels ↔ labels.get? key = some value := by
  have spelled : Spells (key ++ "=" ++ value).toList (.equals key value) := by
    simpa using Spells.single hkey hvalue
  exact matches_of_spells spelled labels

theorem matches_unequal {key value : String} (hkey : IsPlain key.toList)
    (hvalue : IsPlain value.toList) (labels : NameMap String) :
    Matches (key ++ "!=" ++ value) labels ↔ labels.get? key ≠ some value := by
  have spelled : Spells (key ++ "!=" ++ value).toList (.differs key value) := by
    simpa using Spells.unequal hkey hvalue
  exact matches_of_spells spelled labels

/-- A selector cannot ask for a label whose key is not plain: if it matches a pod with this
label alone, it matches the pod without labels. -/
theorem matches_empty_of_foreign {selector key value : String} (foreign : ¬ IsPlain key.toList)
    (matched : Matches selector (NameMap.empty.insert key value)) :
    Matches selector .empty := by
  intro part hpart
  obtain ⟨t, spelled, holds⟩ := matched part hpart
  refine ⟨t, spelled, ?_⟩
  have other : t.key ≠ key := by
    rintro rfl
    exact foreign spelled.isPlain_key
  cases t with
  | equals k v =>
    have absent : (NameMap.empty.insert key value).get? k = none :=
      (NameMap.get?_insert ..).trans (if_neg other)
    rw [Term.Holds, absent] at holds
    cases holds
  | differs k v => simp [Term.Holds]

end MonitorFleet.Selector
