import MonitorFleet.Proofs.Yaml.Decimals

/-!
# What words stand for

A word without quotes stands for null, a truth value, a whole number of 128 bits, a double, or itself
if it is none of these (`resolve`). `readsAsOther`, by which a text is put into quotes, tells this from
the text alone: it makes no values, and takes whole numbers in base ten for decimal numbers.

## What is proved

* `readsAsDouble_eq`, `readsAsBased_iff`: what is taken for a number is one.
* `resolve_eq_text_iff`: **a word stands for itself** just if it looks like nothing else or is digits
  behind a zero.
* `resolve_toDigits`: the digits of a number stand for it.
-/

namespace MonitorFleet.Yaml

open Json (IsDigits natural readSign spanDigits)

/-! ### Values -/

/-- What a word stands for. -/
inductive Meaning where
  | null
  | truth (b : Bool)
  | whole (n : Int)
  /-- A number that is not written as a whole one, an infinity, or no number. -/
  | double
  | text (s : String)
  deriving DecidableEq

/-- The whole number that digits spell in a base that they name, or in base ten without a zero in
front. -/
def magnitude? : List Char → Option Nat
  | '0' :: 'x' :: ds => Net.numeral? 16 ds
  | '0' :: 'o' :: ds => Net.numeral? 8 ds
  | '0' :: 'b' :: ds => Net.numeral? 2 ds
  | '0' :: _ :: _ => none
  | ds => Net.numeral? 10 ds

/-- The whole number of 128 bits that a word spells. -/
def whole? (cs : List Char) : Option Int :=
  (magnitude? (readSign cs).2).bind fun n =>
    if (readSign cs).1 then if n ≤ Nat.pow 2 127 then some (-n) else none
    else if n < Nat.pow 2 128 then some n else none

/-- Whether a word spells a double. -/
def spellsDouble (cs : List Char) : Bool :=
  let unsigned := String.ofList (readSign cs).2
  [".inf", ".Inf", ".INF"].contains unsigned || [".nan", ".NaN", ".NAN"].contains (String.ofList cs) ||
    (spelled? (readSign cs).2).any Decimal.rounds

/-- What a word stands for. Digits behind a zero are a text. -/
def resolve (s : String) : Meaning :=
  if readsAsNull s then .null
  else if readsAsTruth s then .truth (s ∈ ["true", "True", "TRUE"])
  else match whole? s.toList with
    | some n => .whole n
    | none => if !isPadded s && spellsDouble s.toList then .double else .text s

/-! ### What is put into quotes -/

/-- A sign in front of another one is part of no number. -/
theorem spelled?_of_sign {c : Char} (h : c = '+' ∨ c = '-') (cs : List Char) :
    spelled? (c :: cs) = none := by
  have digit : c.isDigit = false := by rcases h with rfl | rfl <;> rfl
  have point : c ≠ '.' := by rcases h with rfl | rfl <;> decide
  have fraction : spanFraction (c :: cs) = ([], c :: cs) := by
    unfold spanFraction
    split
    · next heq => exact absurd (List.cons.inj heq).1 point
    · rfl
  simp [spelled?, spanDigits, digit, fraction]

theorem contains_of_head {words : List String} (h : ∀ w ∈ words, w.toList.head? = some '.') {c : Char}
    (hne : c ≠ '.') (cs : List Char) : words.contains (String.ofList (c :: cs)) = false := by
  rw [Bool.eq_false_iff]
  intro hmem
  have head := h _ (List.contains_iff_mem.1 hmem)
  rw [String.toList_ofList] at head
  exact hne (Option.some.inj head)

/-- A text has one of the two signs, or none. -/
theorem sign_cases (cs : List Char) : (∃ rest, cs = '+' :: rest) ∨ (∃ rest, cs = '-' :: rest) ∨
    (cs.head? ≠ some '+' ∧ cs.head? ≠ some '-') := by
  cases cs with
  | nil => exact .inr (.inr ⟨nofun, nofun⟩)
  | cons c cs =>
    by_cases plus : c = '+'
    · exact .inl ⟨cs, by rw [plus]⟩
    · by_cases minus : c = '-'
      · exact .inr (.inl ⟨cs, by rw [minus]⟩)
      · exact .inr (.inr ⟨by simpa using plus, by simpa using minus⟩)

theorem dropSign_of_head {signs cs : List Char} (h : ∀ c ∈ signs, cs.head? ≠ some c) :
    dropSign signs cs = cs := by
  cases cs with
  | nil => rfl
  | cons c cs =>
    have absent : c ∉ signs := fun hc => h c hc rfl
    simp [dropSign, absent]

/-- What is taken for a double is what spells one. -/
theorem readsAsDouble_eq (s : String) : readsAsDouble s = spellsDouble s.toList := by
  obtain ⟨cs, rfl⟩ : ∃ cs, s = String.ofList cs := ⟨s.toList, String.ofList_toList.symm⟩
  unfold readsAsDouble spellsDouble
  dsimp only
  rw [String.toList_ofList, decimal?_eq_spelled?, ← readSign_snd]
  have size : ∀ d, spelled? (readSign cs).2 = some d → d.isFinite = d.rounds :=
    fun d h => Decimal.isFinite_eq (spelled?_eq_some_iff.1 h).digits
  have infinite : ∀ c cs, c ≠ '.' →
      [".inf", ".Inf", ".INF"].contains (String.ofList (c :: cs)) = false :=
    fun _ cs hne => contains_of_head (by decide) hne cs
  have nan : ∀ c cs, c ≠ '.' →
      [".nan", ".NaN", ".NAN"].contains (String.ofList (c :: cs)) = false :=
    fun _ cs hne => contains_of_head (by decide) hne cs
  rcases sign_cases cs with ⟨cs, rfl⟩ | ⟨cs, rfl⟩ | ⟨plus, minus⟩
  · have unsigned : (readSign ('+' :: cs)).2 = cs ∧ dropSign ['+'] ('+' :: cs) = cs ∧
        dropSign ['-'] ('+' :: cs) = '+' :: cs := ⟨rfl, rfl, rfl⟩
    simp only [unsigned, infinite '+' cs (by decide), nan '+' cs (by decide)] at size ⊢
    by_cases again : ∃ c rest, cs = c :: rest ∧ (c = '+' ∨ c = '-')
    · -- A second sign makes no number.
      obtain ⟨c, rest, rfl, sign⟩ := again
      have point : c ≠ '.' := by rcases sign with rfl | rfl <;> decide
      rw [spelled?_of_sign sign, infinite c rest point]
      simp [sign]
    · have once : cs.head? ≠ some '+' ∧ cs.head? ≠ some '-' := by
        rcases sign_cases cs with ⟨rest, rfl⟩ | ⟨rest, rfl⟩ | none
        · exact absurd ⟨_, _, rfl, .inl rfl⟩ again
        · exact absurd ⟨_, _, rfl, .inr rfl⟩ again
        · exact none
      cases h : spelled? cs with
      | none => simp [once]
      | some d => simp [once, size d h]
  · have unsigned : (readSign ('-' :: cs)).2 = cs ∧ dropSign ['+'] ('-' :: cs) = '-' :: cs ∧
        dropSign ['-'] ('-' :: cs) = cs := ⟨rfl, rfl, rfl⟩
    simp only [unsigned, infinite '-' cs (by decide), nan '-' cs (by decide)] at size ⊢
    cases h : spelled? cs with
    | none => simp
    | some d => simp [size d h]
  · have unsigned : (readSign cs).2 = cs ∧ dropSign ['+'] cs = cs ∧ dropSign ['-'] cs = cs := by
      rw [readSign_snd]
      exact ⟨dropSign_of_head (by simp [plus, minus]), dropSign_of_head (by simp [plus]),
        dropSign_of_head (by simp [minus])⟩
    simp only [unsigned] at size ⊢
    cases h : spelled? cs with
    | none => simp [plus]
    | some d => simp [plus, size d h]

theorem magnitude?_of_based {cs ds : List Char} {base : Nat}
    (h : basedNumeral? cs = some (base, ds)) : magnitude? cs = Net.numeral? base ds := by
  unfold basedNumeral? at h
  split at h <;> cases h <;> rfl

/-- A word that names no base has decimal digits, without a zero in front. -/
theorem magnitude?_of_unbased {cs : List Char} (h : basedNumeral? cs = none) {n : Nat}
    (value : magnitude? cs = some n) : IsDigits cs ∧ natural cs = n := by
  unfold magnitude? at value
  split at value
  · cases h
  · cases h
  · cases h
  · cases value
  · exact numeral?_ten_eq_some_iff.1 value

/-- The numbers of 128 bits. -/
theorem whole?_isSome_iff {cs : List Char} : (whole? cs).isSome = true ↔
    ∃ n, magnitude? (readSign cs).2 = some n ∧
      n < if cs.head? = some '-' then Nat.pow 2 127 + 1 else Nat.pow 2 128 := by
  unfold whole?
  rw [readSign_fst]
  cases magnitude? (readSign cs).2 with
  | none => simp
  | some n =>
    by_cases negative : cs.head? = some '-'
    · simp [negative, Nat.lt_succ_iff]
    · simp [negative]

theorem readsAsBased_iff (cs : List Char) : readsAsBased cs = true ↔
    (whole? cs).isSome = true ∧ basedNumeral? (readSign cs).2 ≠ none := by
  rw [whole?_isSome_iff, readSign_snd]
  unfold readsAsBased
  cases based : basedNumeral? (dropSign ['+', '-'] cs) with
  | none => simp
  | some numeral =>
    obtain ⟨base, ds⟩ := numeral
    rw [magnitude?_of_based based]
    cases value : Net.numeral? base ds with
    | none => simp [value]
    | some n => simp [value]

/-- Whole numbers without a base are in the range of doubles. -/
theorem spellsDouble_of_whole? {cs : List Char} (h : (whole? cs).isSome = true)
    (unbased : basedNumeral? (readSign cs).2 = none) : spellsDouble cs = true := by
  obtain ⟨n, value, small⟩ := whole?_isSome_iff.1 h
  obtain ⟨digits, rfl⟩ := magnitude?_of_unbased unbased value
  have spells : Spells (readSign cs).2 ⟨(readSign cs).2, [], 0⟩ :=
    ⟨by simpa using digits.2, by simpa using digits.1, [], [], by simp, rfl, .inl ⟨rfl, rfl⟩⟩
  have rounds : Decimal.rounds ⟨(readSign cs).2, [], 0⟩ = true := by
    have bound : Nat.pow 2 127 + 1 ≤ doubleBound ∧ Nat.pow 2 128 ≤ doubleBound := by decide +kernel
    have below : natural (readSign cs).2 < doubleBound := by
      split at small
      · exact Nat.lt_of_lt_of_le small bound.1
      · exact Nat.lt_of_lt_of_le small bound.2
    simpa [Decimal.rounds] using below
  rw [spellsDouble, spelled?_eq_some_iff.2 spells, Option.any_some, rounds]
  simp

/-- Digits behind a zero are a text. -/
theorem resolve_of_isPadded {s : String} (h : isPadded s = true) : resolve s = .text s := by
  have null : readsAsNull s = false := by
    have table : ∀ w ∈ ["", "null", "Null", "NULL", "~"], isPadded w = false := by decide +kernel
    rw [Bool.eq_false_iff]
    intro hmem
    exact absurd (h.symm.trans (table s (List.contains_iff_mem.1 hmem))) (by decide)
  have truth : readsAsTruth s = false := by
    have table : ∀ w ∈ ["true", "True", "TRUE", "false", "False", "FALSE"], isPadded w = false := by
      decide +kernel
    rw [Bool.eq_false_iff]
    intro hmem
    exact absurd (h.symm.trans (table s (List.contains_iff_mem.1 hmem))) (by decide)
  have whole : whole? s.toList = none := by
    unfold isPadded at h
    rw [← readSign_snd] at h
    split at h
    · next c cs heq =>
      have digit : c.isDigit = true := List.all_eq_true.1 h c (List.mem_cons_self ..)
      have unbased : c ≠ 'x' ∧ c ≠ 'o' ∧ c ≠ 'b' := by
        refine ⟨?_, ?_, ?_⟩ <;> rintro rfl <;> exact absurd digit (by decide)
      have none : magnitude? ('0' :: c :: cs) = none := by
        unfold magnitude?
        split
        · next heq => exact absurd (List.cons.inj (List.cons.inj heq).2).1 unbased.1
        · next heq => exact absurd (List.cons.inj (List.cons.inj heq).2).1 unbased.2.1
        · next heq => exact absurd (List.cons.inj (List.cons.inj heq).2).1 unbased.2.2
        · rfl
        · next other => exact absurd rfl (other c cs)
      rw [whole?, heq, none]
      rfl
    · cases h
  simp [resolve, null, truth, whole, h]

/-- **A word stands for itself** just if it looks like nothing else or is digits behind a zero. -/
theorem resolve_eq_text_iff (s : String) :
    resolve s = .text s ↔ readsAsOther s = false ∨ isPadded s = true := by
  cases padded : isPadded s with
  | true => exact iff_of_true (resolve_of_isPadded padded) (.inr rfl)
  | false =>
    have based := readsAsBased_iff s.toList
    simp only [resolve, readsAsOther, readsAsDouble_eq, padded]
    cases null : readsAsNull s with
    | true => simp
    | false =>
      cases truth : readsAsTruth s with
      | true => simp
      | false =>
        cases whole : whole? s.toList with
        | none =>
          rw [whole] at based
          cases isBased : readsAsBased s.toList with
          | true => exact absurd (based.1 isBased).1 (by decide)
          | false => cases spellsDouble s.toList <;> simp
        | some n =>
          have isWhole : (whole? s.toList).isSome = true := by rw [whole]; rfl
          cases isBased : readsAsBased s.toList with
          | true => simp
          | false =>
            have unbased : basedNumeral? (readSign s.toList).2 = none :=
              Decidable.byContradiction fun hne => by
                rw [based.2 ⟨isWhole, hne⟩] at isBased
                cases isBased
            simp [spellsDouble_of_whole? isWhole unbased]

example : ["~", "0x1f", "1e5", "007", "1_000"].map resolve =
    [.null, .whole 31, .double, .text "007", .text "1_000"] := by decide +kernel

/-! ### Numbers -/

theorem magnitude?_of_isWhole {ds : List Char} (h : Json.IsWhole ds) :
    magnitude? ds = some (natural ds) := by
  have alone : ∀ c cs, ds ≠ '0' :: c :: cs := by
    rintro c cs rfl
    cases h.2 rfl
  unfold magnitude?
  split
  · exact absurd rfl (alone _ _)
  · exact absurd rfl (alone _ _)
  · exact absurd rfl (alone _ _)
  · exact absurd rfl (alone _ _)
  · exact numeral?_ten_eq_some_iff.2 ⟨h.1, rfl⟩

theorem contains_of_isDigits {words : List String} (h : ∀ w ∈ words, ¬ IsDigits w.toList)
    {ds : List Char} (digits : IsDigits ds) : words.contains (String.ofList ds) = false := by
  rw [Bool.eq_false_iff]
  intro hmem
  exact h _ (List.contains_iff_mem.1 hmem) (by rwa [String.toList_ofList])

/-- The digits of a number stand for it, if it is of 128 bits. -/
theorem resolve_toDigits {n : Nat} (small : n < Nat.pow 2 128) :
    resolve (String.ofList (Nat.toDigits 10 n)) = .whole n := by
  have digits := Json.isWhole_toDigits n
  have null : readsAsNull (String.ofList (Nat.toDigits 10 n)) = false :=
    contains_of_isDigits (by simp [IsDigits]) digits.1
  have truth : readsAsTruth (String.ofList (Nat.toDigits 10 n)) = false :=
    contains_of_isDigits (by simp [IsDigits]) digits.1
  have whole : whole? (Nat.toDigits 10 n) = some n := by
    have unsigned : readSign (Nat.toDigits 10 n) = (false, Nat.toDigits 10 n) := by
      have := Json.readSign_complete .none digits.1 []
      simpa using this
    rw [whole?, unsigned, magnitude?_of_isWhole digits, Json.natural_toDigits]
    simpa using small
  simp [resolve, null, truth, whole]

end MonitorFleet.Yaml
