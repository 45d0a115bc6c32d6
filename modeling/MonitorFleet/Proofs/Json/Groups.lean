import MonitorFleet.Proofs.Json.Fields
import MonitorFleet.Proofs.Json.Skipping

/-!
# Groups are recognized

Where every field of a shape is read by its own form (`Made`), the shape reads just the groups that
give each field at most once and in its form, as an object or as a list. The object is read member
by member, the list element by element; both add what they read to what was given before.

## What is proved

* `Made.recognizes_readPair`: which members are read, and what they add.
* `Made.readMembers_sound`, `Made.readMembers_complete`: so are all members of an object.
* `Made.readElements_sound`, `Made.readElements_complete`: so are all elements of a list.
* `Made.recognizes_read`: which texts a group of fields is read from, and what is read.
-/

namespace MonitorFleet.Json

variable {α : Type} {shape : Shape α} {fields : List (Field α)} {a b : α}

/-- A shape is made of fields: it names them in order, knows which of them were given, and reads
each of them by its form. -/
structure Made (shape : Shape α) (fields : List (Field α)) : Prop extends Apart fields where
  keys : shape.keys = fields.map Field.key
  isGiven {i : Nat} {f : Field α} (hf : fields[i]? = some f) (a : α) :
    shape.isGiven a i = (f.get a).isSome
  reads {i : Nat} {f : Field α} (hf : fields[i]? = some f) (a : α) :
    Recognizes (shape.readField i a) Ends
      (Padded fun text b => ∃ v, f.Spells text v ∧ f.put a v = b)
  begins {f : Field α} (hf : f ∈ fields) {text : List Char} {v : f.Value} (h : f.Spells text v) :
    Begins text

/-! ### One member -/

namespace Made

/-- The place of a key is that of its field. -/
theorem index (h : Made shape fields) {key : String} {i : Nat} :
    shape.keys.findIdx? (· = key) = some i ↔ ∃ f, fields[i]? = some f ∧ f.key = key := by
  rw [h.keys, List.findIdx?_eq_some_iff_getElem]
  constructor
  · rintro ⟨hi, hkey, -⟩
    rw [List.length_map] at hi
    exact ⟨fields[i], List.getElem?_eq_getElem hi, by simpa using hkey⟩
  · rintro ⟨f, hf, rfl⟩
    obtain ⟨hi, rfl⟩ := List.getElem?_eq_some_iff.1 hf
    refine ⟨by simpa using hi, by simp, fun j hji hj => ?_⟩
    have inner : i < (fields.map Field.key).length := by simpa using hi
    have same : (fields.map Field.key)[j] = (fields.map Field.key)[i] := by simpa using hj
    exact absurd (h.nodup.getElem_inj_iff.1 same) (Nat.ne_of_lt hji)

theorem index_none (h : Made shape fields) {key : String} :
    shape.keys.findIdx? (· = key) = none ↔ key ∉ fields.map Field.key := by
  simp [h.keys]

/-- The value of a key is recognized, with its colon. -/
theorem recognizes_readMember (h : Made shape fields) (key : String) (a : α) :
    Recognizes (shape.readMember key a) Ends (fun text b => ∃ before after value,
      text = before ++ ':' :: (after ++ value) ∧ IsBlanks before ∧ IsBlanks after ∧
        Adds fields a (key, value) b) where
  sound := by
    rintro cs rest b ⟨hr, heq⟩
    unfold Shape.readMember at heq
    split at heq
    · next i hi =>
      obtain ⟨f, hf, rfl⟩ := h.index.1 hi
      split at heq
      · cases heq
      · next fresh =>
        split at heq
        · cases heq
        · next rest' hcolon =>
          obtain ⟨_, hcs, before, rfl, hbefore⟩ := recognizes_readColon.sound ⟨rest'.2, hcolon⟩
          obtain ⟨_, hrest, after, value, rfl, hafter, v, hv, rfl⟩ :=
            (h.reads hf a).sound (Reads.of_within heq)
          refine ⟨_, ?_, before, after, value, rfl, hbefore, hafter, ?_⟩
          · simp [hcs, hrest]
          · refine .known (List.mem_of_getElem? hf) ?_ hv
            simpa [h.isGiven hf] using fresh
    · next hi =>
      split at heq
      · cases heq
      · next rest' hcolon =>
        obtain ⟨_, hcs, before, rfl, hbefore⟩ := recognizes_readColon.sound ⟨rest'.2, hcolon⟩
        obtain ⟨_, hskip, rfl⟩ := map_eq_ok_iff.1 heq
        obtain ⟨_, hrest, after, value, rfl, hafter, hv⟩ :=
          recognizes_skipValue.sound (Reads.of_within hskip)
        refine ⟨_, ?_, before, after, value, rfl, hbefore, hafter, .unknown (h.index_none.1 hi) hv⟩
        simp [hcs, hrest]
  complete := by
    rintro _ b ⟨before, after, value, rfl, hbefore, hafter, hadds⟩ rest hrest
    have split : before ++ ':' :: (after ++ value) ++ rest =
        before ++ [':'] ++ (after ++ value ++ rest) := by simp
    rw [split]
    obtain ⟨hc, hcolon⟩ := recognizes_readColon.complete (a := ()) ⟨before, rfl, hbefore⟩
      (after ++ value ++ rest) trivial
    cases hadds with
    | @known f _ _ v hf fresh hv =>
      obtain ⟨i, hi⟩ := List.getElem?_of_mem hf
      obtain ⟨hr, heq⟩ := ((h.reads hi a).complete ⟨after, value, rfl, hafter, v, hv, rfl⟩ rest
        hrest).after hc
      have notGiven : shape.isGiven a i = false := by simp [h.isGiven hi, fresh]
      refine ⟨hr, ?_⟩
      simp only [Shape.readMember, h.index.2 ⟨f, hi, rfl⟩, notGiven, Bool.false_eq_true, if_false,
        hcolon]
      exact heq
    | unknown hkey hv =>
      obtain ⟨hr, heq⟩ := (recognizes_skipValue.complete (a := ()) ⟨after, value, rfl, hafter, hv⟩
        rest hrest).after hc
      refine ⟨hr, ?_⟩
      simp only [Shape.readMember, h.index_none.2 hkey, hcolon]
      exact map_eq_ok_iff.2 ⟨_, heq, rfl⟩

/-- The members that are read, from the key on, and what they add. -/
theorem recognizes_readPair (h : Made shape fields) (a : α) :
    Recognizes (shape.readPair a) Ends (fun text b => ∃ member, IsPair text member ∧
      Adds fields a member b) where
  sound := by
    rintro cs rest b ⟨hr, heq⟩
    unfold Shape.readPair at heq
    split at heq
    · cases heq
    · next c cs =>
      split at heq
      · next quote =>
        subst quote
        split at heq
        · cases heq
        · next key rest' hkey =>
          obtain ⟨_, hcs, body, rfl, hbody⟩ := recognizes_readText.sound (Reads.of_within hkey)
          obtain ⟨_, hrest, before, after, value, rfl, hbefore, hafter, hadds⟩ :=
            (h.recognizes_readMember key a).sound (Reads.of_within heq)
          refine ⟨_, ?_, (key, value), ⟨body, before, after, rfl, hbody, hbefore, hafter⟩, hadds⟩
          simp [hcs, hrest]
      · cases heq
  complete := by
    rintro _ b ⟨⟨key, value⟩, ⟨body, before, after, rfl, hbody, hbefore, hafter⟩, hadds⟩ rest hrest
    have split : '"' :: (body ++ '"' :: (before ++ ':' :: (after ++ value))) ++ rest =
        '"' :: (body ++ ['"'] ++ (before ++ ':' :: (after ++ value) ++ rest)) := by simp
    rw [split]
    obtain ⟨ht, htext⟩ := (recognizes_readText.complete ⟨body, rfl, hbody⟩
      (before ++ ':' :: (after ++ value) ++ rest) trivial).behind '"'
    obtain ⟨hr, heq⟩ := ((h.recognizes_readMember key a).complete
      ⟨before, after, value, rfl, hbefore, hafter, hadds⟩ rest hrest).after ht
    refine ⟨hr, ?_⟩
    simp only [Shape.readPair, if_true, htext]
    exact heq

/-! ### The members of an object -/

theorem readMembers_sound (h : Made shape fields) {bound : Nat} {first : Bool}
    {cs rest : List Char} {hle : cs.length ≤ bound} {hr : rest.length < bound}
    (heq : shape.readMembers bound first a cs hle = .ok (b, ⟨rest, hr⟩)) :
    ∃ contents members, cs = contents ++ '\x7d' :: rest ∧ Inside IsPair first contents members ∧
      Collects fields a members b := by
  fun_induction Shape.readMembers shape bound first a cs hle with
  | case1 => cases heq
  | case2 first a cs _ after hskip _ =>
    cases heq
    obtain ⟨blanks, hblanks, hcs⟩ := exists_blanks cs
    exact ⟨blanks, [], by rw [hcs, hskip], .nil hblanks, .nil⟩
  | case3 => cases heq
  | case4 a cs _ c after hskip _ _ next rest' ha hpair ih =>
    obtain ⟨before, hbefore, hcs⟩ := exists_blanks cs
    obtain ⟨e, hafter, member, hmember, hadds⟩ := (h.recognizes_readPair a).sound ⟨ha, hpair⟩
    obtain ⟨others, members, rfl, hothers, hcollects⟩ := ih heq
    refine ⟨_, _, ?_, .first hbefore hmember hothers, .cons hadds hcollects⟩
    rw [hcs, hskip, hafter]
    simp
  | case5 => cases heq
  | case6 => cases heq
  | case7 first a cs _ after notFirst _ _ next rest' ha hpair hskip _ _ ih =>
    obtain ⟨blanks, hblanks, hcs⟩ := exists_blanks cs
    obtain ⟨before, hbefore, hafter⟩ := exists_blanks after
    obtain ⟨e, hnext, member, hmember, hadds⟩ := (h.recognizes_readPair a).sound ⟨ha, hpair⟩
    obtain ⟨others, members, rfl, hothers, hcollects⟩ := ih heq
    obtain rfl : first = false := Bool.eq_false_iff.2 notFirst
    refine ⟨_, _, ?_, .next hblanks hbefore hmember hothers, .cons hadds hcollects⟩
    rw [hcs, hskip, hafter, hnext]
    simp
  | case8 => cases heq

section

variable {before after e rest : List Char} {member : String × List Char} {bound : Nat}

theorem readMembers_close {first : Bool} {blanks : List Char} (hblanks : IsBlanks blanks)
    (hle : (blanks ++ '\x7d' :: rest).length ≤ bound) : ∃ hr,
      shape.readMembers bound first a (blanks ++ '\x7d' :: rest) hle = .ok (a, ⟨rest, hr⟩) := by
  have skipped : skipBlanks (blanks ++ '\x7d' :: rest) = '\x7d' :: rest :=
    Bracket.object.skipBlanks_close hblanks rest
  refine ⟨by simp at hle; omega, ?_⟩
  rw [Shape.readMembers]
  split
  · next heq => rw [skipped] at heq; cases heq
  · next heq => rw [skipped] at heq; cases heq; rfl

/-- The first member is read, and then the others. -/
theorem readMembers_first (h : Made shape fields) (hbefore : IsBlanks before)
    (hmember : IsPair e member) (hadds : Adds fields a member b) (hrest : Ends rest)
    (hle : (before ++ (e ++ rest)).length ≤ bound) : ∃ hr,
      shape.readMembers bound true a (before ++ (e ++ rest)) hle =
        shape.readMembers bound false b rest hr := by
  have reads := (h.recognizes_readPair a).complete ⟨member, hmember, hadds⟩ rest hrest
  obtain ⟨c, cs, he, -, -, -, hclose⟩ := hmember.head
  have skipped : skipBlanks (before ++ (e ++ rest)) = c :: (cs ++ rest) := by
    rw [skipBlanks_before hbefore (hmember.head.append rest), he, List.cons_append]
  rw [he, List.cons_append] at reads
  obtain ⟨hp, hpair⟩ := reads
  refine ⟨by simp at hle; omega, ?_⟩
  rw [Shape.readMembers]
  split
  · next heq => rw [skipped] at heq; cases heq
  · next heq =>
    rw [skipped] at heq
    cases heq
    simp only [if_neg hclose, if_true, hpair]

/-- A comma and a member are read, and then the others. -/
theorem readMembers_next (h : Made shape fields) (hafter : IsBlanks after)
    (hbefore : IsBlanks before) (hmember : IsPair e member) (hadds : Adds fields a member b)
    (hrest : Ends rest) (hle : (after ++ ',' :: (before ++ (e ++ rest))).length ≤ bound) : ∃ hr,
      shape.readMembers bound false a (after ++ ',' :: (before ++ (e ++ rest))) hle =
        shape.readMembers bound false b rest hr := by
  have skipped := skipBlanks_comma hafter (before ++ (e ++ rest))
  have inside := skipBlanks_before hbefore (hmember.head.append rest)
  have reads := (h.recognizes_readPair a).complete ⟨member, hmember, hadds⟩ rest hrest
  rw [← inside] at reads
  obtain ⟨hp, hpair⟩ := reads
  have close : (skipBlanks (before ++ (e ++ rest))).head? ≠ some '\x7d' := by
    obtain ⟨c, cs, rfl, -, -, -, hclose⟩ := hmember.head
    rw [inside]
    simpa using hclose
  refine ⟨by simp at hle; omega, ?_⟩
  rw [Shape.readMembers]
  split
  · next heq => rw [skipped] at heq; cases heq
  · next heq =>
    rw [skipped] at heq
    cases heq
    simp only [if_neg close, hpair]
    rfl

theorem readMembers_complete (h : Made shape fields) {first : Bool} {contents : List Char}
    {members : List (String × List Char)} (hinside : Inside IsPair first contents members)
    (hcollects : Collects fields a members b)
    (hle : (contents ++ '\x7d' :: rest).length ≤ bound) : ∃ hr,
      shape.readMembers bound first a (contents ++ '\x7d' :: rest) hle = .ok (b, ⟨rest, hr⟩) := by
  induction hinside generalizing a with
  | nil hblanks =>
    cases hcollects
    exact readMembers_close hblanks hle
  | first hbefore hmember hothers ih =>
    cases hcollects with
    | cons hadds hcollects =>
      simp only [List.append_assoc] at hle ⊢
      obtain ⟨hr, heq⟩ := h.readMembers_first hbefore hmember hadds (hothers.ends .object rest) hle
      obtain ⟨hr', heq'⟩ := ih hcollects hr
      exact ⟨hr', heq.trans heq'⟩
  | next hafter hbefore hmember hothers ih =>
    cases hcollects with
    | cons hadds hcollects =>
      simp only [List.append_assoc, List.cons_append] at hle ⊢
      obtain ⟨hr, heq⟩ := h.readMembers_next hafter hbefore hmember hadds
        (hothers.ends .object rest) hle
      obtain ⟨hr', heq'⟩ := ih hcollects hr
      exact ⟨hr', heq.trans heq'⟩

end

/-! ### The elements of a list -/

/-- The end of a list is recognized. -/
theorem recognizes_readListEnd : Recognizes Shape.readListEnd (fun _ => True)
    (fun text _ => ∃ blanks, text = blanks ++ [']'] ∧ IsBlanks blanks) where
  sound := by
    rintro cs rest ⟨⟩ ⟨hr, heq⟩
    obtain ⟨blanks, hblanks, hcs⟩ := exists_blanks cs
    unfold Shape.readListEnd at heq
    split at heq
    · cases heq
    · next c after hskip =>
      split at heq
      · next close =>
        subst close
        cases heq
        rw [hskip] at hcs
        exact ⟨blanks ++ [']'], by simpa using hcs, blanks, rfl, hblanks⟩
      · split at heq <;> cases heq
  complete := by
    rintro _ ⟨⟩ ⟨blanks, rfl, hblanks⟩ rest -
    have skipped : skipBlanks (blanks ++ [']'] ++ rest) = ']' :: rest := by
      rw [List.append_assoc]
      exact Bracket.list.skipBlanks_close hblanks rest
    refine ⟨by simp; omega, ?_⟩
    unfold Shape.readListEnd
    split
    · next heq => rw [skipped] at heq; cases heq
    · next heq => rw [skipped] at heq; cases heq; rfl

theorem next_of_drop {i : Nat} {f : Field α} {remaining : List (Field α)}
    (hd : fields.drop i = f :: remaining) :
    fields[i]? = some f ∧ fields.drop (i + 1) = remaining := by
  constructor
  · rw [← Nat.add_zero i, ← List.getElem?_drop, hd]
    rfl
  · rw [← List.tail_drop, hd, List.tail_cons]

/-- The value of a field is not that of one behind it. -/
theorem fresh_put (h : Made shape fields) {i : Nat} {f : Field α} {remaining : List (Field α)}
    (hd : fields.drop i = f :: remaining) (fresh : ∀ f' ∈ remaining, f'.get a = none)
    (v : f.Value) : ∀ f' ∈ remaining, f'.get (f.put a v) = none := by
  intro f' hf'
  have nodup : ((f :: remaining).map Field.key).Nodup :=
    hd ▸ h.nodup.sublist ((List.drop_sublist i fields).map Field.key)
  have mem : ∀ g ∈ f :: remaining, g ∈ fields := fun g hg => List.mem_of_mem_drop (hd ▸ hg)
  have ne : f.key ≠ f'.key := by
    intro hkey
    exact (List.nodup_cons.1 nodup).1 (List.mem_map.2 ⟨f', hf', hkey.symm⟩)
  rw [h.get_put_ne (mem f (List.mem_cons_self ..)) (mem f' (List.mem_cons_of_mem f hf')) ne]
  exact fresh f' hf'

/-- What is read of a list where a field is still to come: the closing bracket, or an element,
behind a comma unless it is the first one. -/
theorem readElements_cases {bound i n : Nat} {cs rest : List Char} {hle : cs.length ≤ bound}
    {hr : rest.length < bound}
    (heq : shape.readElements bound i a cs hle (n + 1) = .ok (b, ⟨rest, hr⟩)) :
    (∃ blanks, cs = blanks ++ ']' :: rest ∧ IsBlanks blanks ∧ a = b) ∨
      ∃ element next after hafter,
        (i = 0 ∧ cs = element ∨
          i ≠ 0 ∧ ∃ blanks, cs = blanks ++ ',' :: element ∧ IsBlanks blanks) ∧
        Reads (shape.readField i a) element next after ∧
        shape.readElements bound (i + 1) next after hafter n = .ok (b, ⟨rest, hr⟩) := by
  obtain ⟨blanks, hblanks, hcs⟩ := exists_blanks cs
  simp only [Shape.readElements] at heq
  split at heq
  · cases heq
  · next c element hskip =>
    rw [hskip] at hcs
    split at heq
    · next close =>
      cases heq
      exact .inl ⟨blanks, close ▸ hcs, hblanks, rfl⟩
    · split at heq
      · next first =>
        split at heq
        · cases heq
        · next hread => exact .inr ⟨cs, _, _, _, .inl ⟨first, rfl⟩, ⟨_, hread⟩, heq⟩
      · next notFirst =>
        split at heq
        · next comma =>
          have behind : i ≠ 0 ∧ ∃ blanks, cs = blanks ++ ',' :: element ∧ IsBlanks blanks :=
            ⟨notFirst, blanks, comma ▸ hcs, hblanks⟩
          split at heq
          · cases heq
          · split at heq
            · cases heq
            · split at heq
              · cases heq
              · next hread => exact .inr ⟨element, _, _, _, .inr behind, ⟨_, hread⟩, heq⟩
        · cases heq

theorem readElements_sound (h : Made shape fields) {bound i : Nat} {remaining : List (Field α)}
    (hd : fields.drop i = remaining) (fresh : ∀ f ∈ remaining, f.get a = none)
    {cs rest : List Char} {hle : cs.length ≤ bound} {hr : rest.length < bound}
    (heq : shape.readElements bound i a cs hle remaining.length = .ok (b, ⟨rest, hr⟩)) :
    ∃ contents values, cs = contents ++ ']' :: rest ∧
      Inside (fun cs value => cs = value) (decide (i = 0)) contents values ∧
      values.length ≤ remaining.length ∧
      Collects fields a ((remaining.map Field.key).zip values) b := by
  -- On the fields to come. None of them was given before, and a value leaves the others so.
  induction remaining generalizing i a cs with
  | nil =>
    obtain ⟨_, hend, rfl⟩ := map_eq_ok_iff.1 heq
    obtain ⟨_, hcs, blanks, rfl, hblanks⟩ := recognizes_readListEnd.sound (Reads.of_within hend)
    exact ⟨blanks, [], by simpa using hcs, .nil hblanks, Nat.le_refl _, .nil⟩
  | cons f remaining ih =>
    obtain ⟨hf, hd'⟩ := next_of_drop hd
    have others := fun f' hf' => fresh f' (List.mem_cons_of_mem f hf')
    obtain ⟨blanks, rfl, hblanks, rfl⟩ | ⟨element, next, after, _, hlead, hread, heq⟩ :=
      readElements_cases heq
    · refine ⟨blanks, [], rfl, .nil hblanks, Nat.zero_le _, ?_⟩
      rw [List.zip_nil_right]
      exact .nil
    · obtain ⟨_, rfl, before, value, rfl, hbefore, v, hv, rfl⟩ := (h.reads hf a).sound hread
      obtain ⟨contents, values, rfl, hinside, hlen, hcollects⟩ :=
        ih hd' (h.fresh_put hd others v) heq
      have adds := Adds.known (List.mem_of_getElem? hf) (fresh f (List.mem_cons_self ..)) hv
      have inside : Inside (fun cs value => cs = value) false contents values := by
        simpa using hinside
      obtain ⟨first, rfl⟩ | ⟨notFirst, blanks, rfl, hblanks⟩ := hlead
      · refine ⟨before ++ (value ++ contents), value :: values, by simp, ?_,
          Nat.succ_le_succ hlen, .cons adds hcollects⟩
        rw [decide_eq_true first]
        exact .first hbefore rfl inside
      · refine ⟨blanks ++ ',' :: (before ++ (value ++ contents)), value :: values, by simp, ?_,
          Nat.succ_le_succ hlen, .cons adds hcollects⟩
        rw [decide_eq_false notFirst]
        exact .next hblanks hbefore rfl inside

section

variable {before after value rest : List Char} {bound i : Nat}

theorem readElements_close {blanks : List Char} (hblanks : IsBlanks blanks)
    (hle : (blanks ++ ']' :: rest).length ≤ bound) (n : Nat) : ∃ hr,
      shape.readElements bound i a (blanks ++ ']' :: rest) hle n = .ok (a, ⟨rest, hr⟩) := by
  cases n with
  | zero =>
    have reads := recognizes_readListEnd.complete (a := ()) ⟨blanks, rfl, hblanks⟩ rest trivial
    rw [List.append_assoc] at reads
    obtain ⟨hr, heq⟩ := reads.within hle
    exact ⟨hr, map_eq_ok_iff.2 ⟨_, heq, rfl⟩⟩
  | succ n =>
    have skipped : skipBlanks (blanks ++ ']' :: rest) = ']' :: rest :=
      Bracket.list.skipBlanks_close hblanks rest
    refine ⟨by simp at hle; omega, ?_⟩
    rw [Shape.readElements]
    split
    · next heq => rw [skipped] at heq; cases heq
    · next heq => rw [skipped] at heq; cases heq; simp only [if_true]

/-- The first element is read, and then the others. -/
theorem readElements_first (hbefore : IsBlanks before) (hvalue : Begins value)
    (hread : Reads (shape.readField 0 a) (before ++ (value ++ rest)) b rest)
    (hle : (before ++ (value ++ rest)).length ≤ bound) (n : Nat) : ∃ hr,
      shape.readElements bound 0 a (before ++ (value ++ rest)) hle (n + 1) =
        shape.readElements bound 1 b rest hr n := by
  obtain ⟨hr, heq⟩ := hread
  obtain ⟨c, cs, hc, -, -, hclose, -⟩ := hvalue.append rest
  have skipped := (skipBlanks_before hbefore (hvalue.append rest)).trans hc
  refine ⟨by simp at hle; omega, ?_⟩
  rw [Shape.readElements]
  split
  · next heq => rw [skipped] at heq; cases heq
  · next heq' =>
    rw [skipped] at heq'
    cases heq'
    simp only [if_neg hclose, if_true, heq]

/-- A comma and an element are read, and then the others. -/
theorem readElements_next (hi : i ≠ 0) (hafter : IsBlanks after) (hbefore : IsBlanks before)
    (hvalue : Begins value)
    (hread : Reads (shape.readField i a) (before ++ (value ++ rest)) b rest)
    (hle : (after ++ ',' :: (before ++ (value ++ rest))).length ≤ bound) (n : Nat) : ∃ hr,
      shape.readElements bound i a (after ++ ',' :: (before ++ (value ++ rest))) hle (n + 1) =
        shape.readElements bound (i + 1) b rest hr n := by
  have skipped := skipBlanks_comma hafter (before ++ (value ++ rest))
  have comma : (',' : Char) ≠ ']' := by decide
  obtain ⟨hr, heq⟩ := hread
  obtain ⟨c, cs, hc, -, -, hclose, -⟩ := hvalue.append rest
  have inside := (skipBlanks_before hbefore (hvalue.append rest)).trans hc
  refine ⟨by simp at hle; omega, ?_⟩
  rw [Shape.readElements]
  split
  · next heq => rw [skipped] at heq; cases heq
  · next heq' =>
    rw [skipped] at heq'
    cases heq'
    simp only [if_neg comma, if_neg hi, if_true, inside, if_neg hclose, heq]

/-- The next element is read as the value of its field. -/
theorem reads_element (h : Made shape fields) {f : Field α} (hf : fields[i]? = some f)
    (hadds : Adds fields a (f.key, value) b) (hbefore : IsBlanks before) (hrest : Ends rest) :
    Begins value ∧ Reads (shape.readField i a) (before ++ (value ++ rest)) b rest := by
  have mem := List.mem_of_getElem? hf
  obtain ⟨-, v, hv, rfl⟩ := h.adds_field mem hadds
  have reads := (h.reads hf a).complete ⟨before, value, rfl, hbefore, v, hv, rfl⟩ rest hrest
  rw [List.append_assoc] at reads
  exact ⟨h.begins mem hv, reads⟩

theorem readElements_complete (h : Made shape fields) {remaining : List (Field α)}
    (hd : fields.drop i = remaining) {first : Bool} (hfirst : first = decide (i = 0))
    {contents : List Char} {values : List (List Char)}
    (hinside : Inside (fun cs value => cs = value) first contents values)
    (hlen : values.length ≤ remaining.length)
    (hcollects : Collects fields a ((remaining.map Field.key).zip values) b)
    (hle : (contents ++ ']' :: rest).length ≤ bound) : ∃ hr,
      shape.readElements bound i a (contents ++ ']' :: rest) hle remaining.length =
        .ok (b, ⟨rest, hr⟩) := by
  induction hinside generalizing i a remaining with
  | nil hblanks =>
    rw [List.zip_nil_right] at hcollects
    cases hcollects
    exact readElements_close hblanks hle _
  | first hbefore hvalue hothers ih =>
    subst hvalue
    cases remaining with
    | nil => simp at hlen
    | cons f remaining =>
      obtain ⟨hf, hd'⟩ := next_of_drop hd
      obtain rfl : i = 0 := of_decide_eq_true hfirst.symm
      cases hcollects with
      | cons hadds hcollects =>
        obtain ⟨begins, hread⟩ := h.reads_element hf hadds hbefore (hothers.ends .list rest)
        simp only [List.append_assoc] at hle ⊢
        obtain ⟨hr, heq⟩ := readElements_first hbefore begins hread hle remaining.length
        obtain ⟨hr', heq'⟩ := ih hd' rfl (Nat.le_of_succ_le_succ hlen) hcollects hr
        exact ⟨hr', heq.trans heq'⟩
  | next hafter hbefore hvalue hothers ih =>
    subst hvalue
    cases remaining with
    | nil => simp at hlen
    | cons f remaining =>
      obtain ⟨hf, hd'⟩ := next_of_drop hd
      have notFirst : i ≠ 0 := of_decide_eq_false hfirst.symm
      cases hcollects with
      | cons hadds hcollects =>
        obtain ⟨begins, hread⟩ := h.reads_element hf hadds hbefore (hothers.ends .list rest)
        simp only [List.append_assoc, List.cons_append] at hle ⊢
        obtain ⟨hr, heq⟩ := readElements_next notFirst hafter hbefore begins hread hle
          remaining.length
        obtain ⟨hr', heq'⟩ := ih hd' (by simp) (Nat.le_of_succ_le_succ hlen) hcollects hr
        exact ⟨hr', heq.trans heq'⟩

end

/-! ### The whole group -/

/-- What is gathered from the members of a group is what the group gives. -/
theorem gathered_iff (h : Made shape fields) (fresh : ∀ f ∈ fields, f.get a = none)
    (text : List Char) (b : α) :
    (∃ members, Group shape.keys text members ∧ Collects fields a members b) ↔
      ∃ given, Gives shape.keys text given ∧ ∀ f ∈ fields, f.Takes (given f.key) a b := by
  have once (members : List (String × List Char)) :
      (∀ key ∈ shape.keys, (members.map Prod.fst).count key ≤ 1) ↔
        ∀ f ∈ fields, (members.map Prod.fst).count f.key ≤ 1 := by
    simp [h.keys]
  constructor
  · rintro ⟨members, group, hcollects⟩
    obtain ⟨values, becomes⟩ := (collects_iff h.toApart).1 hcollects
    have takes := fun f hf => (Field.becomes_of_fresh (fresh f hf)).1 (becomes f hf)
    refine ⟨fun key => members.lookup key, ⟨members, group, ?_, ?_, rfl⟩,
      fun f hf => (takes f hf).2⟩
    · exact (once members).2 fun f hf => (takes f hf).1
    · rwa [h.keys]
  · rintro ⟨_, ⟨members, group, unique, values, rfl⟩, takes⟩
    rw [h.keys] at values
    refine ⟨members, group, (collects_iff h.toApart).2 ⟨values, fun f hf => ?_⟩⟩
    exact (Field.becomes_of_fresh (fresh f hf)).2 ⟨(once members).1 unique f hf, takes f hf⟩

theorem recognizes_group (h : Made shape fields) (fresh : ∀ f ∈ fields, f.get a = none) :
    Recognizes (shape.read a) (fun _ => True)
      (Padded fun text b => ∃ members, Group shape.keys text members ∧
        Collects fields a members b) := by
  have length : shape.keys.length = fields.length := by rw [h.keys, List.length_map]
  refine Recognizes.afterBlanks ⟨?_, ?_⟩ ?_
  · rintro cs rest b ⟨hr, heq⟩
    cases cs with
    | nil => cases heq
    | cons c cs =>
      simp only at heq
      split at heq
      · next list =>
        subst list
        rw [length] at heq
        obtain ⟨contents, values, rfl, hinside, hlen, hcollects⟩ :=
          h.readElements_sound List.drop_zero fresh heq
        rw [← h.keys] at hcollects
        refine ⟨'[' :: (contents ++ [']']), by simp, _, .inr ⟨values, ?_, rfl, ?_⟩, hcollects⟩
        · rwa [length]
        · exact ⟨contents, rfl, hinside⟩
      · split at heq
        · next object =>
          subst object
          obtain ⟨contents, members, rfl, hinside, hcollects⟩ := h.readMembers_sound heq
          exact ⟨'\x7b' :: (contents ++ ['\x7d']), by simp, members, .inl ⟨contents, rfl, hinside⟩,
            hcollects⟩
        · cases heq
  · rintro _ b ⟨members, ⟨contents, rfl, hinside⟩ | ⟨values, hlen, rfl, contents, rfl, hinside⟩,
      hcollects⟩ rest -
    · have notList : ('\x7b' : Char) ≠ '[' := by decide
      have split : Bracket.object.open :: (contents ++ [Bracket.object.close]) ++ rest =
          '\x7b' :: (contents ++ '\x7d' :: rest) := by simp [Bracket.open, Bracket.close]
      rw [split]
      obtain ⟨hr, heq⟩ := h.readMembers_complete hinside hcollects (length_le_cons '\x7b' _)
      refine ⟨hr, ?_⟩
      simp only [if_neg notList, if_true]
      exact heq
    · have split : Bracket.list.open :: (contents ++ [Bracket.list.close]) ++ rest =
          '[' :: (contents ++ ']' :: rest) := by simp [Bracket.open, Bracket.close]
      rw [split]
      rw [h.keys] at hcollects
      obtain ⟨hr, heq⟩ := h.readElements_complete List.drop_zero rfl hinside (length ▸ hlen)
        hcollects (length_le_cons '[' _)
      refine ⟨hr, ?_⟩
      simp only [if_true, length]
      exact heq
  · rintro _ b ⟨members, group, -⟩
    exact group.head

/-- **The groups that are read**, behind blanks, and what is read: to each field what the group
gives it. -/
theorem recognizes_read (h : Made shape fields) (fresh : ∀ f ∈ fields, f.get a = none) :
    Recognizes (shape.read a) (fun _ => True)
      (Padded fun text b => ∃ given, Gives shape.keys text given ∧
        ∀ f ∈ fields, f.Takes (given f.key) a b) := by
  have forms := funext fun text => funext fun b => propext (h.gathered_iff fresh text b)
  rw [← forms]
  exact h.recognizes_group fresh

end Made

end MonitorFleet.Json
