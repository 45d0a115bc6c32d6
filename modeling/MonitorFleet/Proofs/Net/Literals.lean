import Mathlib.Data.List.Induction
import MonitorFleet.Net.Address
import MonitorFleet.Proofs.Json.Numerals

/-!
# The grammar of network addresses

Which texts are addresses, and which address each of them is, said without a reader. An address of
version 4 has one spelling (`dotted`). One of version 6 has many (`Spells6`): groups may begin with
zeros, small and capital letters mean the same, one `::` may stand for groups of zeros anywhere, and
the last two groups may be spelled like an address of version 4.

## What is proved

* `numeral?_eq_some_iff`, `octet?_eq_some_iff`, `group?_eq_some_iff`: which numerals are read.
* `octets?_eq_some_iff`: the addresses of version 4.
* `parse6_eq_some_iff`: **the addresses of version 6**.
* `Spells6.not_mem`: what cannot stand in an address.
-/

namespace MonitorFleet.Net

/-! ### Numerals -/

/-- A digit of a base, and its value; the letters are small or capital. -/
def IsDigit (base : Nat) (c : Char) (d : Nat) : Prop :=
  d < base ∧ (c = Nat.digitChar d ∨ c = (Nat.digitChar d).toUpper)

/-- A numeral in a base, and its value; it may begin with zeros. -/
inductive Spells (base : Nat) : List Char → Nat → Prop where
  | digit {c : Char} {d : Nat} (h : IsDigit base c d) : Spells base [c] d
  | concat {cs : List Char} {n d : Nat} {c : Char} (h : Spells base cs n) (hd : IsDigit base c d) :
      Spells base (cs ++ [c]) (n * base + d)

variable {base n : Nat} {c : Char} {cs : List Char}

theorem digitValue?_eq_some_iff (hbase : base ≤ 16) {d : Nat} :
    digitValue? base c = some d ↔ IsDigit base c d := by
  have within : digitValue? base c = some d ↔ digitValue? 16 c = some d ∧ d < base := by
    unfold digitValue?
    simp only [Option.filter_eq_some_iff, decide_eq_true_eq]
    exact ⟨fun ⟨h, lt⟩ => ⟨⟨h, Nat.lt_of_lt_of_le lt hbase⟩, lt⟩, fun ⟨h, lt⟩ => ⟨h.1, lt⟩⟩
  rw [within]
  constructor
  · rintro ⟨h, lt⟩
    have ascii : c.toNat < 128 := by
      simp only [digitValue?, Option.filter_eq_some_iff, Char.le_def, UInt32.le_iff_toNat_le] at h
      have nine : ('9' : Char).val.toNat = 57 := rfl
      have small : ('f' : Char).val.toNat = 102 := rfl
      have capital : ('F' : Char).val.toNat = 70 := rfl
      have code : c.toNat = c.val.toNat := rfl
      obtain ⟨h, -⟩ := h
      split at h
      · omega
      · split at h
        · omega
        · split at h
          · omega
          · cases h
    have table : ∀ n < 128, ∀ d ∈ digitValue? 16 (Char.ofNat n),
        Char.ofNat n = Nat.digitChar d ∨ Char.ofNat n = (Nat.digitChar d).toUpper := by
      decide +kernel
    have hc := table c.toNat ascii d
    rw [Char.ofNat_toNat] at hc
    exact ⟨lt, hc h⟩
  · rintro ⟨lt, rfl | rfl⟩
    · have table : ∀ d < 16, digitValue? 16 (Nat.digitChar d) = some d := by decide
      exact ⟨table d (by omega), lt⟩
    · have table : ∀ d < 16, digitValue? 16 (Nat.digitChar d).toUpper = some d := by decide
      exact ⟨table d (by omega), lt⟩

theorem numeralFrom?_concat (base n : Nat) (cs : List Char) (c : Char) :
    numeralFrom? base n (cs ++ [c]) =
      (numeralFrom? base n cs).bind fun m => (digitValue? base c).map (m * base + ·) := by
  induction cs generalizing n with
  | nil =>
    simp only [List.nil_append, numeralFrom?, Option.bind_some]
    cases digitValue? base c <;> rfl
  | cons first cs ih =>
    rw [List.cons_append, numeralFrom?, numeralFrom?]
    cases digitValue? base first with
    | none => rfl
    | some d => exact ih _

theorem numeral?_concat (base : Nat) {cs : List Char} (hne : cs ≠ []) (c : Char) :
    numeral? base (cs ++ [c]) =
      (numeral? base cs).bind fun m => (digitValue? base c).map (m * base + ·) := by
  obtain ⟨first, rest, rfl⟩ := List.exists_cons_of_ne_nil hne
  exact numeralFrom?_concat base 0 (first :: rest) c

theorem Spells.ne_nil (h : Spells base cs n) : cs ≠ [] := by
  cases h with
  | digit _ => exact List.cons_ne_nil _ _
  | concat _ _ => exact List.concat_ne_nil _ _

/-- The numerals that are read. -/
theorem numeral?_eq_some_iff (hbase : base ≤ 16) : numeral? base cs = some n ↔ Spells base cs n := by
  have single : ∀ c, numeral? base [c] = digitValue? base c := by
    intro c
    rw [numeral?, numeralFrom?]
    cases digitValue? base c <;> simp [numeralFrom?]
  constructor
  · intro h
    induction cs using List.reverseRecOn generalizing n with
    | nil => cases h
    | append_singleton cs c ih =>
      rcases List.eq_nil_or_concat cs with rfl | ⟨front, last, rfl⟩
      · rw [List.nil_append, single] at h
        exact .digit ((digitValue?_eq_some_iff hbase).1 h)
      · rw [numeral?_concat base (by simp)] at h
        obtain ⟨m, hm, more⟩ := Option.bind_eq_some_iff.1 h
        obtain ⟨d, hd, rfl⟩ := Option.map_eq_some_iff.1 more
        exact .concat (ih hm) ((digitValue?_eq_some_iff hbase).1 hd)
  · intro h
    induction h with
    | digit h => exact (single _).trans ((digitValue?_eq_some_iff hbase).2 h)
    | concat h hd ih =>
      rw [numeral?_concat base h.ne_nil, ih, Option.bind_some, (digitValue?_eq_some_iff hbase).2 hd]
      rfl

/-- A numeral with so many digits is below that power of the base. -/
theorem Spells.lt (h : Spells base cs n) : n < Nat.pow base cs.length := by
  induction h with
  | @digit c d h => simpa [Nat.pow] using h.1
  | @concat cs n d c _ hd ih =>
    have step : (n + 1) * base ≤ Nat.pow base cs.length * base := Nat.mul_le_mul_right base ih
    rw [List.length_append, List.length_singleton]
    have next : Nat.pow base (cs.length + 1) = Nat.pow base cs.length * base := rfl
    have lt := hd.1
    rw [next]
    rw [Nat.add_mul, Nat.one_mul] at step
    omega

theorem isDigit_digitChar {d : Nat} (h : d < base) : IsDigit base (Nat.digitChar d) d := ⟨h, .inl rfl⟩

/-- The digits of a number spell it. -/
theorem spells_toDigits (two : 1 < base) (n : Nat) : Spells base (Nat.toDigits base n) n := by
  induction n using Nat.strongRecOn with
  | ind n ih =>
    rw [Nat.toDigits_eq_if two]
    split
    · next lt => exact .digit (isDigit_digitChar lt)
    · next ge =>
      have less : n / base < n := Nat.div_lt_self (by omega) two
      have value : n / base * base + n % base = n := Nat.div_add_mod' n base
      have spelled := Spells.concat (ih _ less) (isDigit_digitChar (Nat.mod_lt n (by omega)))
      rwa [value] at spelled

/-- A decimal numeral without zeros in front is the digits of its value. -/
theorem Spells.eq_toDigits (h : Spells 10 cs n) (zero : cs.head? = some '0' → cs.length = 1) :
    cs = Nat.toDigits 10 n := by
  have digit : ∀ {c : Char} {d : Nat}, IsDigit 10 c d → c = Nat.digitChar d := by
    rintro c d ⟨lt, rfl | rfl⟩
    · rfl
    · have table : ∀ d < 10, (Nat.digitChar d).toUpper = Nat.digitChar d := by decide
      exact table d lt
  induction h with
  | digit h => rw [digit h, Nat.toDigits_of_lt_base h.1]
  | @concat cs n d c h hd ih =>
    obtain ⟨first, rest, hcs⟩ := List.exists_cons_of_ne_nil h.ne_nil
    have nonzero : first ≠ '0' := by
      rintro rfl
      have alone := zero (by simp [hcs])
      simp [hcs] at alone
    have front := ih fun head => absurd (by simpa [hcs] using head) nonzero
    have pos : 0 < n := by
      rcases Nat.eq_zero_or_pos n with rfl | pos
      · rw [hcs] at front
        exact absurd (List.cons.inj front).1 nonzero
      · exact pos
    rw [Nat.mul_comm, ← Nat.toDigits_append_toDigits (by decide) pos hd.1, ← front,
      Nat.toDigits_of_lt_base hd.1, digit hd]

/-! ### Version 4 -/

/-- An octet is spelled by its digits alone. -/
theorem octet?_eq_some_iff {o : UInt8} : octet? cs = some o ↔ cs = Nat.toDigits 10 o.toNat := by
  unfold octet?
  constructor
  · intro h
    split at h
    · cases h
    · next proper =>
      obtain ⟨v, hv, rfl⟩ := Option.map_eq_some_iff.1 h
      obtain ⟨spelled, small⟩ := Option.filter_eq_some_iff.1 hv
      have value : v.toUInt8.toNat = v := Nat.mod_eq_of_lt (by simpa using small)
      rw [value]
      rw [numeral?_eq_some_iff (by decide)] at spelled
      refine spelled.eq_toDigits fun head => ?_
      have pos := List.length_pos_iff.2 spelled.ne_nil
      have short : ¬ 1 < cs.length := fun long => proper (.inr ⟨head, long⟩)
      omega
  · rintro rfl
    have lt := o.toNat_lt
    have length : (Nat.toDigits 10 o.toNat).length ≤ 3 :=
      (Nat.length_toDigits_le_iff (by decide) (by decide)).2 (by omega)
    have alone : ¬ ((Nat.toDigits 10 o.toNat).head? = some '0' ∧
        1 < (Nat.toDigits 10 o.toNat).length) := by
      rintro ⟨head, long⟩
      have digits := (Json.isWhole_toDigits o.toNat).2 head
      rw [digits] at long
      exact absurd long (by decide)
    have small : Option.filter (fun x => decide (x < 256)) (some o.toNat) = some o.toNat := by
      simpa using lt
    rw [if_neg (not_or.2 ⟨Nat.not_lt.2 length, alone⟩),
      (numeral?_eq_some_iff (by decide)).2 (spells_toDigits (by decide) _), small]
    simp

/-- The text of an address of version 4. -/
def dotted (a b c d : UInt8) : List Char :=
  Nat.toDigits 10 a.toNat ++ '.' :: (Nat.toDigits 10 b.toNat ++ '.' ::
    (Nat.toDigits 10 c.toNat ++ '.' :: Nat.toDigits 10 d.toNat))

theorem not_mem_toDigits {c : Char} (h : c.isDigit = false) (n : Nat) : c ∉ Nat.toDigits 10 n := by
  intro hmem
  rw [Nat.isDigit_of_mem_toDigits (by decide) (by decide) hmem] at h
  cases h

/-- The addresses of version 4 have one spelling each. -/
theorem octets?_eq_some_iff {a b c d : UInt8} : octets? cs = some (a, b, c, d) ↔ cs = dotted a b c d := by
  unfold octets?
  constructor
  · intro h
    split at h
    · next a' b' c' d' parts =>
      cases h
      obtain ⟨p, ps, hsplit, hp, parts⟩ := List.map_eq_cons_iff.1 parts
      obtain ⟨q, qs, rfl, hq, parts⟩ := List.map_eq_cons_iff.1 parts
      obtain ⟨r, rs, rfl, hr, parts⟩ := List.map_eq_cons_iff.1 parts
      obtain ⟨s, ss, rfl, hs, parts⟩ := List.map_eq_cons_iff.1 parts
      obtain rfl := List.map_eq_nil_iff.1 parts
      rw [octet?_eq_some_iff] at hp hq hr hs
      rw [← Text.join_splitOn '.' cs, hsplit, hp, hq, hr, hs]
      rfl
    · cases h
  · rintro rfl
    have dotless := not_mem_toDigits (c := '.') rfl
    have parts : Text.splitOn '.' (dotted a b c d) = [Nat.toDigits 10 a.toNat,
        Nat.toDigits 10 b.toNat, Nat.toDigits 10 c.toNat, Nat.toDigits 10 d.toNat] := by
      simp only [dotted, Text.splitOn_append, Text.splitOn_of_not_mem (dotless _)]
      rfl
    have octet : ∀ o : UInt8, octet? (Nat.toDigits 10 o.toNat) = some o :=
      fun o => octet?_eq_some_iff.2 rfl
    simp only [parts, List.map_cons, List.map_nil, octet]

/-! ### Groups -/

/-- A group: up to four hexadecimal digits. -/
def IsGroup (cs : List Char) (g : UInt16) : Prop := cs.length ≤ 4 ∧ Spells 16 cs g.toNat

theorem group?_eq_some_iff {g : UInt16} : group? cs = some g ↔ IsGroup cs g := by
  unfold group? IsGroup
  constructor
  · intro h
    split at h
    · cases h
    · next short =>
      obtain ⟨v, hv, rfl⟩ := Option.map_eq_some_iff.1 h
      have spelled := (numeral?_eq_some_iff (by decide)).1 hv
      have bound : Nat.pow 16 cs.length ≤ Nat.pow 16 4 := Nat.pow_le_pow_right (by decide) (by omega)
      have value : v.toUInt16.toNat = v := Nat.mod_eq_of_lt (Nat.lt_of_lt_of_le spelled.lt bound)
      exact ⟨by omega, by rwa [value]⟩
  · rintro ⟨short, spelled⟩
    rw [if_neg (by omega), (numeral?_eq_some_iff (by decide)).2 spelled]
    simp

/-- The group that two octets stand for, the higher one first. -/
def groupOf (high low : UInt8) : UInt16 := .ofNat (high.toNat * 256 + low.toNat)

theorem pairGroup_eq (high low : UInt8) : pairGroup high low = groupOf high low := by
  have bound := high.toNat_lt
  have bound' := low.toNat_lt
  apply UInt16.toNat_inj.1
  have shifted : high.toNat * 256 % 65536 = high.toNat <<< 8 := by
    rw [Nat.mod_eq_of_lt (by omega), Nat.shiftLeft_eq]
  have sum : high.toNat <<< 8 ||| low.toNat = high.toNat * 256 + low.toNat := by
    rw [← Nat.shiftLeft_add_eq_or_of_lt (by omega), Nat.shiftLeft_eq]
  have small : (high.toNat * 256 + low.toNat) % 65536 = high.toNat * 256 + low.toNat :=
    Nat.mod_eq_of_lt (by omega)
  have left : (high.toUInt16 <<< 8).toNat = high.toNat <<< 8 := by
    rw [UInt16.toNat_shiftLeft]
    simpa [Nat.shiftLeft_eq] using shifted
  rw [pairGroup, groupOf, UInt16.toNat_or, left]
  simpa [small] using sum

/-- Groups with colons between them, one at least; if `tail` is set, an address of version 4 may
stand for the last two. -/
inductive Groups (tail : Bool) : List Char → List UInt16 → Prop where
  | last {cs : List Char} {g : UInt16} (h : IsGroup cs g) : Groups tail cs [g]
  | embedded {a b c d : UInt8} (h : tail = true) :
      Groups tail (dotted a b c d) [groupOf a b, groupOf c d]
  | cons {cs rest : List Char} {g : UInt16} {gs : List UInt16} (h : IsGroup cs g)
      (more : Groups tail rest gs) : Groups tail (cs ++ ':' :: rest) (g :: gs)

/-- Groups with colons between them, or none. -/
inductive Side (tail : Bool) : List Char → List UInt16 → Prop where
  | none : Side tail [] []
  | some {cs : List Char} {gs : List UInt16} (h : Groups tail cs gs) : Side tail cs gs

/-- The texts of an address of version 6, and its eight groups. -/
inductive Spells6 : List Char → List UInt16 → Prop where
  /-- All groups are there. -/
  | full {cs : List Char} {gs : List UInt16} (h : Groups true cs gs) (eight : gs.length = 8) :
      Spells6 cs gs
  /-- `::` stands for one group of zeros or more. -/
  | compressed {before after : List Char} {head last : List UInt16} (first : Side false before head)
      (second : Side true after last) (fewer : head.length + last.length ≤ 7) :
      Spells6 (before ++ ':' :: ':' :: after)
        (head ++ List.replicate (8 - (head.length + last.length)) 0 ++ last)

theorem Spells6.length {gs : List UInt16} (h : Spells6 cs gs) : gs.length = 8 := by
  cases h with
  | full _ eight => exact eight
  | compressed _ _ fewer =>
    simp only [List.length_append, List.length_replicate]
    omega

/-! ### What cannot stand in an address -/

/-- Whether a character can stand in an address. -/
def isLiteralChar (c : Char) : Bool := "0123456789abcdefABCDEF:.".toList.contains c

theorem IsDigit.isLiteralChar {d : Nat} (h : IsDigit 16 c d) : isLiteralChar c = true := by
  obtain ⟨lt, rfl | rfl⟩ := h
  · have table : ∀ d < 16, Net.isLiteralChar (Nat.digitChar d) = true := by decide
    exact table d lt
  · have table : ∀ d < 16, Net.isLiteralChar (Nat.digitChar d).toUpper = true := by decide
    exact table d lt

theorem IsDigit.ne_mark {d : Nat} (h : IsDigit 16 c d) : c ≠ ':' ∧ c ≠ '.' := by
  obtain ⟨lt, rfl | rfl⟩ := h
  · have table : ∀ d < 16, Nat.digitChar d ≠ ':' ∧ Nat.digitChar d ≠ '.' := by decide
    exact table d lt
  · have table : ∀ d < 16, (Nat.digitChar d).toUpper ≠ ':' ∧ (Nat.digitChar d).toUpper ≠ '.' := by
      decide
    exact table d lt

/-- What stands in a numeral is a digit. -/
theorem Spells.isDigit_of_mem (h : Spells base cs n) {c : Char} (hmem : c ∈ cs) :
    ∃ d, IsDigit base c d := by
  induction h with
  | digit h =>
    rw [List.mem_singleton.1 hmem]
    exact ⟨_, h⟩
  | concat _ hd ih =>
    rcases List.mem_append.1 hmem with hmem | hmem
    · exact ih hmem
    · rw [List.mem_singleton.1 hmem]
      exact ⟨_, hd⟩

theorem IsGroup.colonless {g : UInt16} (h : IsGroup cs g) : ':' ∉ cs := by
  intro hmem
  obtain ⟨d, hd⟩ := h.2.isDigit_of_mem hmem
  exact hd.ne_mark.1 rfl

/-- What stands in an address of version 4. -/
theorem mem_dotted {a b c d : UInt8} {x : Char} (h : x ∈ dotted a b c d) :
    x.isDigit = true ∨ x = '.' := by
  have digit : ∀ {o : UInt8}, x ∈ Nat.toDigits 10 o.toNat → x.isDigit = true :=
    fun hmem => Nat.isDigit_of_mem_toDigits (by decide) (by decide) hmem
  simp only [dotted, List.mem_append, List.mem_cons] at h
  rcases h with h | h | h | h | h | h | h
  · exact .inl (digit h)
  · exact .inr h
  · exact .inl (digit h)
  · exact .inr h
  · exact .inl (digit h)
  · exact .inr h
  · exact .inl (digit h)

theorem not_mem_dotted {x : Char} (digitless : x.isDigit = false) (dotless : x ≠ '.') (a b c d : UInt8) :
    x ∉ dotted a b c d := by
  intro h
  rcases mem_dotted h with digit | dot
  · rw [digitless] at digit
    cases digit
  · exact dotless dot

theorem group?_dotted (a b c d : UInt8) : group? (dotted a b c d) = none := by
  cases h : group? (dotted a b c d) with
  | none => rfl
  | some g =>
    obtain ⟨value, hvalue⟩ := (group?_eq_some_iff.1 h).2.isDigit_of_mem
      (c := '.') (by simp [dotted])
    exact absurd rfl hvalue.ne_mark.2

/-! ### Reading groups -/

theorem groups?_cons (tail : Bool) (part next : List Char) (rest : List (List Char)) :
    groups? tail (part :: next :: rest) =
      match group? part, groups? tail (next :: rest) with
      | some g, some gs => some (g :: gs)
      | _, _ => none :=
  rfl

theorem groups_of_groups? {tail : Bool} {parts : List (List Char)} {gs : List UInt16}
    (hne : parts ≠ []) (h : groups? tail parts = some gs) :
    Groups tail (Text.joinWith ':' parts) gs := by
  induction parts generalizing gs with
  | nil => exact absurd rfl hne
  | cons part parts ih =>
    cases parts with
    | nil =>
      rw [groups?] at h
      split at h
      · next g hg =>
        cases h
        exact .last (group?_eq_some_iff.1 hg)
      · split at h
        · next allowed =>
          obtain ⟨⟨a, b, c, d⟩, ho, rfl⟩ := Option.map_eq_some_iff.1 h
          rw [octets?_eq_some_iff] at ho
          simp only [Text.joinWith, ho, pairGroup_eq]
          exact .embedded allowed
        · cases h
    | cons next rest =>
      rw [groups?_cons] at h
      split at h
      · next g gs' hg hgs =>
        cases h
        exact .cons (group?_eq_some_iff.1 hg) (ih (List.cons_ne_nil _ _) hgs)
      · cases h

theorem Groups.reads {tail : Bool} {gs : List UInt16} (h : Groups tail cs gs) :
    groups? tail (Text.splitOn ':' cs) = some gs := by
  induction h with
  | last h =>
    rw [Text.splitOn_of_not_mem h.colonless, groups?, group?_eq_some_iff.2 h]
  | embedded allowed =>
    rw [Text.splitOn_of_not_mem (not_mem_dotted rfl (by decide) _ _ _ _), groups?, group?_dotted,
      octets?_eq_some_iff.2 rfl, ← pairGroup_eq, ← pairGroup_eq]
    exact if_pos allowed
  | @cons cs rest g gs h more ih =>
    rw [Text.splitOn_append, Text.splitOn_of_not_mem h.colonless]
    obtain ⟨next, others, split⟩ := List.exists_cons_of_ne_nil (Text.splitOn_ne_nil ':' rest)
    rw [split] at ih ⊢
    rw [List.singleton_append, groups?_cons, group?_eq_some_iff.2 h, ih]

theorem Groups.ne_nil {tail : Bool} {gs : List UInt16} (h : Groups tail cs gs) : cs ≠ [] := by
  cases h with
  | last h => exact h.2.ne_nil
  | embedded _ => simp [dotted]
  | cons _ _ => simp

/-- The groups on a side of an address are read. -/
theorem groups?_eq_some_iff {tail : Bool} {gs : List UInt16} :
    groups? tail (colonParts cs) = some gs ↔ Side tail cs gs := by
  unfold colonParts
  constructor
  · intro h
    split at h
    · next empty =>
      cases h
      exact empty ▸ .none
    · have groups := groups_of_groups? (Text.splitOn_ne_nil ':' cs) h
      rw [Text.join_splitOn] at groups
      exact .some groups
  · intro h
    cases h with
    | none => rfl
    | some h =>
      rw [if_neg h.ne_nil]
      exact h.reads

/-! ### The gap -/

/-- A cut gives the text back. -/
theorem eq_of_cutGap {before after : List Char} (h : cutGap cs = some (before, after)) :
    cs = before ++ ':' :: ':' :: after := by
  fun_induction cutGap cs generalizing before with
  | case1 cs =>
    cases h
    rfl
  | case2 c cs _ ih =>
    obtain ⟨⟨front, behind⟩, hcut, heq⟩ := Option.map_eq_some_iff.1 h
    cases heq
    rw [ih hcut]
    rfl
  | case3 => cases h

theorem cutGap_cons_of_ne (h : c ≠ ':') (cs : List Char) :
    cutGap (c :: cs) = (cutGap cs).map fun p => (c :: p.1, p.2) := by
  rw [cutGap]
  rintro rest rfl
  exact absurd rfl h

/-- Whether no gap begins in a text, whatever follows it. -/
def Solid (cs : List Char) : Prop :=
  ∀ rest, cutGap (cs ++ rest) = (cutGap rest).map fun p => (cs ++ p.1, p.2)

theorem solid_of_not_mem (h : ':' ∉ cs) : Solid cs := by
  intro rest
  induction cs with
  | nil => simp
  | cons c cs ih =>
    rw [List.mem_cons, not_or] at h
    rw [List.cons_append, cutGap_cons_of_ne (Ne.symm h.1), ih h.2, Option.map_map]
    rfl

/-- A colon after which no other one follows begins no gap. -/
theorem solid_colon (h : Solid (c :: cs)) (hc : c ≠ ':') : Solid (':' :: c :: cs) := by
  intro rest
  have alone : cutGap (':' :: (c :: cs ++ rest)) =
      (cutGap (c :: cs ++ rest)).map fun p => (':' :: p.1, p.2) := by
    rw [cutGap]
    intro cs' _ heq
    exact hc (List.cons.inj heq).1
  rw [List.cons_append, alone, h rest, Option.map_map]
  rfl

theorem Solid.append {cs' : List Char} (h : Solid cs) (h' : Solid cs') : Solid (cs ++ cs') := by
  intro rest
  rw [List.append_assoc, h, h', Option.map_map]
  simp [Function.comp_def]

/-- Groups begin with no colon. -/
theorem Groups.head {tail : Bool} {gs : List UInt16} (h : Groups tail cs gs) :
    ∃ c rest, cs = c :: rest ∧ c ≠ ':' := by
  have first : ∀ {cs : List Char} {g : UInt16}, IsGroup cs g → ∃ c rest, cs = c :: rest ∧ c ≠ ':' := by
    intro cs g h
    obtain ⟨c, rest, rfl⟩ := List.exists_cons_of_ne_nil h.2.ne_nil
    exact ⟨c, rest, rfl, fun colon => h.colonless (by simp [colon])⟩
  cases h with
  | last h => exact first h
  | @embedded a b c d _ =>
    obtain ⟨x, rest, heq⟩ := List.exists_cons_of_ne_nil (l := dotted a b c d) (by simp [dotted])
    refine ⟨x, rest, heq, ?_⟩
    rintro rfl
    exact not_mem_dotted (x := ':') rfl (by decide) a b c d (by simp [heq])
  | cons h _ =>
    obtain ⟨c, rest, rfl, hc⟩ := first h
    exact ⟨c, _, rfl, hc⟩

/-- No gap begins in groups. -/
theorem Groups.solid {tail : Bool} {gs : List UInt16} (h : Groups tail cs gs) : Solid cs := by
  induction h with
  | last h => exact solid_of_not_mem h.colonless
  | embedded _ => exact solid_of_not_mem (not_mem_dotted rfl (by decide) _ _ _ _)
  | cons h more ih =>
    obtain ⟨c, rest, rfl, hc⟩ := more.head
    exact (solid_of_not_mem h.colonless).append (solid_colon ih hc)

theorem Side.solid {tail : Bool} {gs : List UInt16} (h : Side tail cs gs) : Solid cs := by
  cases h with
  | none => exact solid_of_not_mem List.not_mem_nil
  | some h => exact h.solid

/-! ### Version 6 -/

/-- **The addresses of version 6**, in all of their spellings. -/
theorem parse6_eq_some_iff {gs : List UInt16} : parse6 cs = some gs ↔ Spells6 cs gs := by
  unfold parse6
  constructor
  · intro h
    split at h
    · obtain ⟨groups, eight⟩ := Option.filter_eq_some_iff.1 h
      have eight : gs.length = 8 := by simpa using eight
      cases groups?_eq_some_iff.1 groups with
      | none => cases eight
      | some groups => exact .full groups eight
    · next before after cut =>
      split at h
      · next head last hhead hlast =>
        split at h
        · next fewer =>
          cases h
          rw [eq_of_cutGap cut]
          exact .compressed (groups?_eq_some_iff.1 hhead) (groups?_eq_some_iff.1 hlast) fewer
        · cases h
      · cases h
  · intro h
    cases h with
    | full groups eight =>
      have gapless := groups.solid []
      rw [List.append_nil] at gapless
      simp only [gapless, cutGap, Option.map_none, groups?_eq_some_iff.2 (.some groups)]
      simpa using eight
    | @compressed before after head last first second fewer =>
      have cut := first.solid (':' :: ':' :: after)
      simp only [cut, cutGap, Option.map_some, List.append_nil, groups?_eq_some_iff.2 first,
        groups?_eq_some_iff.2 second, if_pos fewer]

/-! ### Literals -/

/-- An address, of version 4 or 6. -/
inductive Address where
  | v4 (a b c d : UInt8)
  | v6 (groups : List UInt16)
  deriving DecidableEq

/-- A text that is an address, and the address. -/
inductive IsLiteral : List Char → Address → Prop where
  | v4 {a b c d : UInt8} : IsLiteral (dotted a b c d) (.v4 a b c d)
  | v6 {cs : List Char} {groups : List UInt16} (h : Spells6 cs groups) : IsLiteral cs (.v6 groups)

theorem isLiteralChar_of_mem_dotted {a b c d : UInt8} {x : Char} (h : x ∈ dotted a b c d) :
    isLiteralChar x = true := by
  rcases mem_dotted h with digit | rfl
  · obtain ⟨hx, lt⟩ := Json.digitChar_digit digit
    exact IsDigit.isLiteralChar (d := Json.digit x) ⟨by omega, .inl hx.symm⟩
  · rfl

theorem IsGroup.isLiteralChar {g : UInt16} (h : IsGroup cs g) {x : Char} (hx : x ∈ cs) :
    isLiteralChar x = true := by
  obtain ⟨d, hd⟩ := h.2.isDigit_of_mem hx
  exact hd.isLiteralChar

theorem Side.isLiteralChar {tail : Bool} {gs : List UInt16} (h : Side tail cs gs) {x : Char}
    (hx : x ∈ cs) : isLiteralChar x = true := by
  cases h with
  | none => cases hx
  | some h =>
    induction h with
    | last h => exact h.isLiteralChar hx
    | embedded _ => exact isLiteralChar_of_mem_dotted hx
    | cons h _ ih =>
      rcases List.mem_append.1 hx with hx | hx
      · exact h.isLiteralChar hx
      · rcases List.mem_cons.1 hx with rfl | hx
        · rfl
        · exact ih hx

/-- What cannot stand in an address of version 6. -/
theorem Spells6.not_mem {gs : List UInt16} (h : Spells6 cs gs) {x : Char}
    (foreign : isLiteralChar x = false) : x ∉ cs := by
  have all : ∀ y ∈ cs, isLiteralChar y = true := by
    intro y hy
    cases h with
    | full groups _ => exact (Side.some groups).isLiteralChar hy
    | compressed first second _ =>
      rcases List.mem_append.1 hy with hy | hy
      · exact first.isLiteralChar hy
      · rcases List.mem_cons.1 hy with rfl | hy
        · rfl
        · rcases List.mem_cons.1 hy with rfl | hy
          · rfl
          · exact second.isLiteralChar hy
  intro hx
  rw [all x hx] at foreign
  cases foreign

end MonitorFleet.Net
