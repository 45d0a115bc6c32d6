import MonitorFleet.Proofs.Json.Readers
import Mathlib.Data.List.Nodup

/-!
# Groups of fields

A group of fields is given by members: under their keys in an object, or in the order of the fields
in a list (`Group`). What it gives to each field (`Gives`) does not depend on the order of the
members of an object, nor on the members that belong to no field.

A reader goes through the members one after the other (`Collects`). What it has in the end is what
the group gives: each field has the value of its member, and without one what it had before
(`collects_iff`).
-/

namespace MonitorFleet.Json

/-! ### Groups -/

/-- A group of members: an object, or a list of the values of the first keys. -/
def Group (keys : List String) (text : List Char) (members : List (String × List Char)) : Prop :=
  Bracketed .object IsPair text members ∨ ∃ values, values.length ≤ keys.length ∧
    members = keys.zip values ∧ Bracketed .list (fun cs value => cs = value) text values

theorem Group.head {keys : List String} {text : List Char} {members : List (String × List Char)}
    (h : Group keys text members) : Begins text := by
  obtain ⟨contents, rfl, -⟩ | ⟨values, -, -, contents, rfl, -⟩ := h
  · exact Bracket.begins_open ..
  · exact Bracket.begins_open ..

/-- What a group gives under each key, as the text of a value. None of the keys stands twice,
and the members under other keys are values of the grammar. -/
def Gives (keys : List String) (text : List Char) (given : String → Option (List Char)) : Prop :=
  ∃ members, Group keys text members ∧ (∀ key ∈ keys, (members.map Prod.fst).count key ≤ 1) ∧
    (∀ member ∈ members, member.1 ∉ keys → IsJson .value member.2) ∧
    given = fun key => members.lookup key

/-! ### Fields -/

/-- What is held afterwards: the value that the given text spells; without one what was held
before. -/
def Held {β : Type} (spells : List Char → β → Prop) (given : Option (List Char))
    (before after : Option β) : Prop :=
  match given with
  | none => after = before
  | some text => ∃ v, after = some v ∧ spells text v

/-- A field of what is gathered from a group. -/
structure Field (α : Type) where
  key : String
  Value : Type
  /-- The value, if the field was given. -/
  get : α → Option Value
  put : α → Value → α
  /-- How the value is spelled. -/
  Spells : List Char → Value → Prop

namespace Field

variable {α : Type} {a b c : α} {text : List Char} {members : List (String × List Char)}

/-- A field takes what is given. -/
def Takes (f : Field α) (given : Option (List Char)) (a b : α) : Prop :=
  Held f.Spells given (f.get a) (f.get b)

/-- What members do to a field: it is given at most once, and takes what is given. -/
structure Becomes (f : Field α) (members : List (String × List Char)) (a b : α) : Prop where
  once : (members.map Prod.fst).count f.key + (if (f.get a).isSome then 1 else 0) ≤ 1
  takes : f.Takes (members.lookup f.key) a b

theorem becomes_nil (f : Field α) : f.Becomes [] a b ↔ f.get b = f.get a := by
  constructor
  · exact fun h => h.takes
  · refine fun h => ⟨?_, h⟩
    simp only [List.map_nil, List.count_nil, Nat.zero_add]
    split <;> omega

theorem becomes_congr (f : Field α) (h : f.get a = f.get c) :
    f.Becomes members a b ↔ f.Becomes members c b := by
  have takes (given : Option (List Char)) : f.Takes given a b ↔ f.Takes given c b := by
    rw [Takes, Takes, h]
  constructor
  · exact fun hb => ⟨h ▸ hb.once, (takes _).1 hb.takes⟩
  · exact fun hb => ⟨h ▸ hb.once, (takes _).2 hb.takes⟩

/-- A member under another key does nothing to a field. -/
theorem becomes_cons_of_ne (f : Field α) {key : String} (h : key ≠ f.key) :
    f.Becomes ((key, text) :: members) a b ↔ f.Becomes members a b := by
  have count : (((key, text) :: members).map Prod.fst).count f.key =
      (members.map Prod.fst).count f.key := by
    rw [List.map_cons, List.count_cons_of_ne h]
  have lookup : ((key, text) :: members).lookup f.key = members.lookup f.key := by
    rw [List.lookup_cons, beq_false_of_ne (Ne.symm h)]
  constructor
  · exact fun hb => ⟨count ▸ hb.once, lookup ▸ hb.takes⟩
  · exact fun hb => ⟨count ▸ hb.once, lookup ▸ hb.takes⟩

/-- The first member under the key of a field gives it its value, and is the only one. -/
theorem becomes_cons_self (f : Field α) (put : ∀ v, f.get (f.put a v) = some v) :
    f.Becomes ((f.key, text) :: members) a b ↔
      f.get a = none ∧ ∃ v, f.Spells text v ∧ f.Becomes members (f.put a v) b := by
  have lookup : ((f.key, text) :: members).lookup f.key = some text := List.lookup_cons_self
  have absent (h : (members.map Prod.fst).count f.key = 0) : members.lookup f.key = none := by
    rw [List.lookup_eq_none_iff]
    intro member hm
    rw [bne_iff_ne]
    rintro hkey
    exact List.count_eq_zero.1 h (List.mem_map.2 ⟨member, hm, hkey.symm⟩)
  constructor
  · rintro ⟨once, takes⟩
    rw [lookup] at takes
    obtain ⟨v, hv, spells⟩ := takes
    rw [List.map_cons, List.count_cons_self] at once
    have fresh : f.get a = none := by
      cases hget : f.get a with
      | none => rfl
      | some _ => simp only [hget, Option.isSome_some, if_true] at once; omega
    refine ⟨fresh, v, spells, ?_, ?_⟩
    · simp only [put, Option.isSome_some, if_true]
      omega
    · rw [absent (by omega)]
      exact hv.trans (put v).symm
  · rintro ⟨fresh, v, spells, once, takes⟩
    simp only [put, Option.isSome_some, if_true] at once
    rw [absent (by omega)] at takes
    refine ⟨?_, ?_⟩
    · simp only [List.map_cons, List.count_cons_self, fresh, Option.isSome_none,
        Bool.false_eq_true, if_false]
      omega
    · rw [lookup]
      exact ⟨v, takes.trans (put v), spells⟩

end Field

/-! ### Gathering -/

section

variable {α : Type} {fields : List (Field α)} {a b c : α}
  {members : List (String × List Char)}

/-- What is needed of fields so that each of them keeps its own value. -/
structure Apart (fields : List (Field α)) : Prop where
  nodup : (fields.map Field.key).Nodup
  get_put {f : Field α} (hf : f ∈ fields) (a : α) (v : f.Value) : f.get (f.put a v) = some v
  get_put_ne {f f' : Field α} (hf : f ∈ fields) (hf' : f' ∈ fields) (h : f.key ≠ f'.key) (a : α)
    (v : f.Value) : f'.get (f.put a v) = f'.get a
  ext {a b : α} (h : ∀ f ∈ fields, f.get a = f.get b) : a = b

/-- A member is added to what was given: as the value of a field that was not given before, or, if
it belongs to no field, not at all. -/
inductive Adds (fields : List (Field α)) : α → String × List Char → α → Prop where
  | known {f : Field α} {a : α} {text : List Char} {v : f.Value} (hf : f ∈ fields)
      (fresh : f.get a = none) (hv : f.Spells text v) : Adds fields a (f.key, text) (f.put a v)
  | unknown {a : α} {key : String} {text : List Char} (hkey : key ∉ fields.map Field.key)
      (hv : IsJson .value text) : Adds fields a (key, text) a

/-- Members are added one after the other. -/
inductive Collects (fields : List (Field α)) : α → List (String × List Char) → α → Prop where
  | nil {a : α} : Collects fields a [] a
  | cons {a b c : α} {member : String × List Char} {members : List (String × List Char)}
      (h : Adds fields a member b) (others : Collects fields b members c) :
      Collects fields a (member :: members) c

theorem Apart.eq_of_key (h : Apart fields) {f f' : Field α} (hf : f ∈ fields) (hf' : f' ∈ fields)
    (hkey : f.key = f'.key) : f = f' := List.inj_on_of_nodup_map h.nodup hf hf' hkey

/-- A member under the key of a field gives the field its value. -/
theorem Apart.adds_field (h : Apart fields) {f : Field α} (hf : f ∈ fields) {text : List Char}
    (hadds : Adds fields a (f.key, text) b) :
    f.get a = none ∧ ∃ v, f.Spells text v ∧ f.put a v = b := by
  generalize hm : (f.key, text) = member at hadds
  cases hadds with
  | @known f' _ _ v hf' fresh hv =>
    cases h.eq_of_key hf hf' (congrArg Prod.fst hm)
    cases hm
    exact ⟨fresh, v, hv, rfl⟩
  | unknown hkey _ =>
    cases hm
    exact absurd (List.mem_map_of_mem hf) hkey

/-- A member of a field does to the fields what its value does to its own one. -/
theorem Apart.becomes_known (h : Apart fields) {f : Field α} (hf : f ∈ fields) {text : List Char} :
    (∀ f' ∈ fields, f'.Becomes ((f.key, text) :: members) a b) ↔ f.get a = none ∧
      ∃ v, f.Spells text v ∧ ∀ f' ∈ fields, f'.Becomes members (f.put a v) b := by
  have other {f' : Field α} (hf' : f' ∈ fields) (hne : f.key ≠ f'.key) (v : f.Value) :
      f'.Becomes ((f.key, text) :: members) a b ↔ f'.Becomes members (f.put a v) b :=
    (f'.becomes_cons_of_ne hne).trans (f'.becomes_congr (h.get_put_ne hf hf' hne a v).symm)
  constructor
  · intro becomes
    obtain ⟨fresh, v, hv, own⟩ := (f.becomes_cons_self (h.get_put hf a)).1 (becomes f hf)
    refine ⟨fresh, v, hv, fun f' hf' => ?_⟩
    by_cases hkey : f.key = f'.key
    · exact h.eq_of_key hf hf' hkey ▸ own
    · exact (other hf' hkey v).1 (becomes f' hf')
  · rintro ⟨fresh, v, hv, becomes⟩ f' hf'
    by_cases hkey : f.key = f'.key
    · obtain rfl := h.eq_of_key hf hf' hkey
      exact (f.becomes_cons_self (h.get_put hf a)).2 ⟨fresh, v, hv, becomes f hf⟩
    · exact (other hf' hkey v).2 (becomes f' hf')

theorem becomes_unknown {key : String} (hkey : key ∉ fields.map Field.key) {text : List Char} :
    (∀ f ∈ fields, f.Becomes ((key, text) :: members) a b) ↔
      ∀ f ∈ fields, f.Becomes members a b := by
  have ne {f : Field α} (hf : f ∈ fields) : key ≠ f.key := by
    rintro rfl
    exact hkey (List.mem_map_of_mem hf)
  exact forall₂_congr fun f hf => f.becomes_cons_of_ne (ne hf)

/-- **What is gathered is what the members give**, in whatever order they stand. -/
theorem collects_iff (h : Apart fields) : Collects fields a members b ↔
    (∀ member ∈ members, member.1 ∉ fields.map Field.key → IsJson .value member.2) ∧
      ∀ f ∈ fields, f.Becomes members a b := by
  -- For any state before: a member changes it, and what the others do is said of the changed one.
  induction members generalizing a with
  | nil =>
    constructor
    · rintro ⟨⟩
      exact ⟨nofun, fun f _ => f.becomes_nil.2 rfl⟩
    · rintro ⟨-, same⟩
      rw [h.ext fun f hf => (f.becomes_nil.1 (same f hf)).symm]
      exact .nil
  | cons member members ih =>
    rw [List.forall_mem_cons]
    constructor
    · intro hcollects
      obtain ⟨next, hadds, others⟩ : ∃ next, Adds fields a member next ∧
          Collects fields next members b := by
        cases hcollects with
        | cons hadds others => exact ⟨_, hadds, others⟩
      obtain ⟨values, becomes⟩ := ih.1 others
      cases hadds with
      | @known f _ text v hf fresh hv =>
        refine ⟨⟨fun hkey => absurd (List.mem_map_of_mem hf) hkey, values⟩, ?_⟩
        exact (h.becomes_known hf).2 ⟨fresh, v, hv, becomes⟩
      | unknown hkey hv => exact ⟨⟨fun _ => hv, values⟩, (becomes_unknown hkey).2 becomes⟩
    · rintro ⟨⟨value, values⟩, becomes⟩
      obtain ⟨key, text⟩ := member
      by_cases hkey : key ∈ fields.map Field.key
      · obtain ⟨f, hf, rfl⟩ := List.mem_map.1 hkey
        obtain ⟨fresh, v, hv, becomes⟩ := (h.becomes_known hf).1 becomes
        exact .cons (.known hf fresh hv) (ih.2 ⟨values, becomes⟩)
      · exact .cons (.unknown hkey (value hkey)) (ih.2 ⟨values, (becomes_unknown hkey).1 becomes⟩)

/-- Where no field was given before, a field becomes what the members give it, if they do so at most
once. -/
theorem Field.becomes_of_fresh {f : Field α} (fresh : f.get a = none) : f.Becomes members a b ↔
    (members.map Prod.fst).count f.key ≤ 1 ∧ f.Takes (members.lookup f.key) a b := by
  constructor
  · rintro ⟨once, takes⟩
    simp only [fresh, Option.isSome_none, Bool.false_eq_true, if_false, Nat.add_zero] at once
    exact ⟨once, takes⟩
  · rintro ⟨once, takes⟩
    exact ⟨by simpa [fresh] using once, takes⟩

end

end MonitorFleet.Json
