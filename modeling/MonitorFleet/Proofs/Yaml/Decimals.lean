import Mathlib.Data.List.TakeWhile
import MonitorFleet.Proofs.Json.Numerals
import MonitorFleet.Yaml.Plain

/-!
# Decimal numbers

A decimal number is taken apart at its exponent and its point, and its size is settled by the place of
its first digit, but for a few numbers near the greatest double. Here it is read digit by digit
(`spelled?`), and its value is compared with the greatest double (`Decimal.rounds`); both ways agree.

## What is proved

* `Decimal.isFinite_eq`: the place of the first digit settles the size.
* `decimal?_eq_spelled?`: both ways of taking a number apart find the same parts.
-/

namespace MonitorFleet.Yaml

open Json (IsDigits NoDigit digit natural readSign spanDigits)

/-! ### Reading digit by digit -/

/-- The digits behind a point, and the rest. -/
def spanFraction : List Char → List Char × List Char
  | '.' :: cs => spanDigits cs
  | cs => ([], cs)

/-- The exponent that a text is, or zero without one. -/
def exponent? : List Char → Option Int
  | [] => some 0
  | c :: cs =>
    if c = 'e' ∨ c = 'E' then
      (Net.numeral? 10 (readSign cs).2).map fun n : Nat => if (readSign cs).1 then -(n : Int) else n
    else none

/-- The decimal number that a word spells which has no sign. -/
def spelled? (cs : List Char) : Option Decimal :=
  let (whole, rest) := spanDigits cs
  let (fraction, rest) := spanFraction rest
  if whole ++ fraction = [] then none
  else (exponent? rest).map (⟨whole, fraction, ·⟩)

/-- Whether a decimal number rounds to a double that is finite. Both sides are whole numbers, as one of
the powers is one. -/
def Decimal.rounds (d : Decimal) : Bool :=
  let place : Int := d.exponent - d.fraction.length
  natural (d.whole ++ d.fraction) * Nat.pow 10 place.toNat < doubleBound * Nat.pow 10 (-place).toNat

/-! ### Digits -/

theorem digitValue?_ten (c : Char) :
    Net.digitValue? 10 c = if c.isDigit then some (digit c) else none := by
  unfold Net.digitValue?
  by_cases decimal : '0' ≤ c ∧ c ≤ '9'
  · have isDigit : c.isDigit = true := by
      simpa [Char.isDigit, Char.le_def] using decimal
    have small := (Json.digitChar_digit isDigit).2
    have value : c.toNat - '0'.toNat < 10 := small
    rw [if_pos decimal, if_pos isDigit]
    simp only [Option.filter_some, value, decide_true, if_true]
    rfl
  · have noDigit : ¬ c.isDigit = true := by
      simpa [Char.isDigit, Char.le_def] using decimal
    rw [if_neg decimal, if_neg noDigit]
    split
    · simp
    · split
      · simp
      · rfl

theorem numeralFrom?_ten_eq_some_iff {ds : List Char} {n m : Nat} :
    Net.numeralFrom? 10 n ds = some m ↔
      (∀ c ∈ ds, c.isDigit = true) ∧ ds.foldl (fun n c => n * 10 + digit c) n = m := by
  induction ds generalizing n with
  | nil => simp [Net.numeralFrom?]
  | cons c ds ih =>
    rw [Net.numeralFrom?, digitValue?_ten]
    cases isDigit : c.isDigit with
    | true => simp [ih, isDigit]
    | false => simp [isDigit]

theorem numeral?_ten_eq_some_iff {ds : List Char} {n : Nat} :
    Net.numeral? 10 ds = some n ↔ IsDigits ds ∧ natural ds = n := by
  cases ds with
  | nil => simp [Net.numeral?, IsDigits]
  | cons c ds =>
    rw [Net.numeral?, numeralFrom?_ten_eq_some_iff]
    simp [IsDigits, natural]

/-- Zeros in front do not count. -/
theorem natural_dropWhile (ds : List Char) : natural (ds.dropWhile (· = '0')) = natural ds := by
  induction ds with
  | nil => rfl
  | cons c ds ih =>
    rw [List.dropWhile_cons]
    split
    · next zero =>
      obtain rfl : c = '0' := by simpa using zero
      exact ih
    · rfl

/-- The place of the first digit tells how large a number is. -/
theorem natural_bounds {ds : List Char} (digits : IsDigits ds) (head : ds.head? ≠ some '0') :
    Nat.pow 10 (ds.length - 1) ≤ natural ds ∧ natural ds < Nat.pow 10 ds.length := by
  have written := Json.eq_toDigits_natural ⟨digits, fun zero => absurd zero head⟩
  have pos : 0 < ds.length := List.length_pos_iff.2 digits.1
  have length := fun {k : Nat} (hk : 0 < k) =>
    Nat.length_toDigits_le_iff (b := 10) (n := natural ds) (by decide) hk
  rw [← written] at length
  refine ⟨?_, (length pos).1 (Nat.le_refl _)⟩
  by_cases one : ds.length = 1
  · have nonzero : natural ds ≠ 0 := fun zero => head (by rw [written, zero]; rfl)
    rw [one]
    exact Nat.one_le_iff_ne_zero.2 nonzero
  · exact Nat.le_of_not_lt fun less => by
      have := (length (k := ds.length - 1) (by omega)).2 less
      omega

/-! ### The size of decimal numbers -/

theorem head?_dropWhile (ds : List Char) : (ds.dropWhile (· = '0')).head? ≠ some '0' := by
  intro head
  have := List.head?_dropWhile_not (· = '0') ds
  rw [head] at this
  simp at this

theorem doubleBound_bounds : Nat.pow 10 299 < doubleBound ∧ doubleBound < Nat.pow 10 310 := by
  decide +kernel

/-- Powers of ten are compared by their exponents. -/
theorem mul_pow_lt {n a b x y bound : Nat} (small : n < Nat.pow 10 a)
    (large : Nat.pow 10 b ≤ bound) (h : a + x ≤ b + y) :
    n * Nat.pow 10 x < bound * Nat.pow 10 y := by
  have power : ∀ k, 0 < Nat.pow 10 k := fun k => Nat.pow_pos (by decide)
  calc n * Nat.pow 10 x < Nat.pow 10 a * Nat.pow 10 x := Nat.mul_lt_mul_of_pos_right small (power x)
    _ = Nat.pow 10 (a + x) := (Nat.pow_add 10 a x).symm
    _ ≤ Nat.pow 10 (b + y) := Nat.pow_le_pow_right (by decide) h
    _ = Nat.pow 10 b * Nat.pow 10 y := Nat.pow_add 10 b y
    _ ≤ bound * Nat.pow 10 y := Nat.mul_le_mul_right _ large

/-- The place of the first digit settles the size of a decimal number, but for a few which are
compared with the greatest double. -/
theorem Decimal.isFinite_eq {d : Decimal} (digits : ∀ c ∈ d.whole ++ d.fraction, c.isDigit = true) :
    d.isFinite = d.rounds := by
  have size := doubleBound_bounds
  unfold isFinite rounds
  rw [← natural_dropWhile]
  have head := head?_dropWhile (d.whole ++ d.fraction)
  have kept : ∀ c ∈ (d.whole ++ d.fraction).dropWhile (· = '0'), c.isDigit = true :=
    fun c hc => digits c ((List.dropWhile_sublist _).subset hc)
  generalize (d.whole ++ d.fraction).dropWhile (· = '0') = ds at head kept
  generalize (d.exponent - d.fraction.length : Int) = place
  cases ds with
  | nil =>
    have pos : 0 < doubleBound * Nat.pow 10 (-place).toNat :=
      Nat.mul_pos (Nat.zero_lt_of_lt size.1) (Nat.pow_pos (by decide))
    simpa [natural] using pos
  | cons c ds =>
    have isDigits : IsDigits (c :: ds) := ⟨List.cons_ne_nil _ _, kept⟩
    have value := numeral?_ten_eq_some_iff.2 ⟨isDigits, rfl⟩
    obtain ⟨least, most⟩ := natural_bounds isDigits head
    simp only [value, Option.getD_some]
    have pos : 0 < (c :: ds).length := Nat.succ_pos _
    generalize natural (c :: ds) = n at least most
    generalize (c :: ds).length = k at least most pos
    split
    · next small =>
      have below := mul_pow_lt (x := place.toNat) (y := (-place).toNat) most (Nat.le_of_lt size.1)
        (by omega)
      exact (decide_eq_true below).symm
    · split
      · next large =>
        have above := mul_pow_lt (x := (-place).toNat) (y := place.toNat) size.2 least (by omega)
        exact (decide_eq_false (Nat.not_lt_of_lt above)).symm
      · split
        · next whole =>
          have none : (-place).toNat = 0 := by omega
          simp [none]
        · next fraction =>
          have none : place.toNat = 0 := by omega
          simp [none]

/-! ### Parts of decimal numbers -/

theorem readSign_snd (cs : List Char) : (readSign cs).2 = dropSign ['+', '-'] cs := by
  unfold readSign
  split
  · rfl
  · rfl
  · next plus minus =>
    cases cs with
    | nil => rfl
    | cons c cs =>
      have hplus : c ≠ '+' := fun h => plus cs (by rw [h])
      have hminus : c ≠ '-' := fun h => minus cs (by rw [h])
      simp [dropSign, hplus, hminus]

theorem readSign_fst (cs : List Char) : (readSign cs).1 = decide (cs.head? = some '-') := by
  unfold readSign
  split
  · rfl
  · rfl
  · next plus minus =>
    cases cs with
    | nil => rfl
    | cons c cs =>
      have hminus : c ≠ '-' := fun h => minus cs (by rw [h])
      simp [hminus]

/-- How a decimal number is spelled: digits, a point, digits and an exponent, of which the point and
all behind it may be missing, and the digits on one of its sides. -/
structure Spells (cs : List Char) (d : Decimal) : Prop where
  digits : ∀ c ∈ d.whole ++ d.fraction, c.isDigit = true
  some : d.whole ++ d.fraction ≠ []
  parts : ∃ point tail, cs = d.whole ++ (point ++ tail) ∧ exponent? tail = Option.some d.exponent ∧
    (point = [] ∧ d.fraction = [] ∨ point = '.' :: d.fraction)

/-- An exponent begins with its marker. -/
theorem head_of_exponent? {cs : List Char} {e : Int} (h : exponent? cs = some e) {c : Char}
    (hc : cs.head? = some c) : c = 'e' ∨ c = 'E' := by
  cases cs with
  | nil => cases hc
  | cons c' cs =>
    cases hc
    simp only [exponent?] at h
    split at h
    · assumption
    · cases h

theorem noDigit_of_exponent? {cs : List Char} {e : Int} (h : exponent? cs = some e) : NoDigit cs := by
  intro c hc
  rcases head_of_exponent? h hc with rfl | rfl <;> rfl

theorem spanFraction_sound (cs : List Char) : (∀ c ∈ (spanFraction cs).1, c.isDigit = true) ∧
    ∃ point, cs = point ++ (spanFraction cs).2 ∧
      (point = [] ∧ (spanFraction cs).1 = [] ∨ point = '.' :: (spanFraction cs).1) := by
  unfold spanFraction
  split
  · next cs =>
    obtain ⟨heq, digits⟩ := Json.spanDigits_sound cs
    exact ⟨digits, '.' :: (spanDigits cs).1, congrArg ('.' :: ·) heq, .inr rfl⟩
  · exact ⟨nofun, [], rfl, .inl ⟨rfl, rfl⟩⟩

/-- Reading digit by digit finds the parts. -/
theorem spelled?_eq_some_iff {cs : List Char} {d : Decimal} : spelled? cs = some d ↔ Spells cs d := by
  constructor
  · intro h
    obtain ⟨hcs, whole⟩ := Json.spanDigits_sound cs
    obtain ⟨fraction, point, hrest, parts⟩ := spanFraction_sound (spanDigits cs).2
    simp only [spelled?] at h
    split at h
    · cases h
    · next hne =>
      obtain ⟨exponent, tail, rfl⟩ := Option.map_eq_some_iff.1 h
      refine ⟨fun c hc => ?_, hne, point, (spanFraction (spanDigits cs).2).2, ?_, tail, parts⟩
      · rcases List.mem_append.1 hc with hc | hc
        · exact whole c hc
        · exact fraction c hc
      · rw [← hrest]
        exact hcs
  · rintro ⟨digits, some, point, tail, rfl, exponent, parts⟩
    have ends := noDigit_of_exponent? exponent
    have fraction : NoDigit (point ++ tail) ∧ spanFraction (point ++ tail) = (d.fraction, tail) := by
      rcases parts with ⟨rfl, empty⟩ | rfl
      · refine ⟨ends, ?_⟩
        rw [List.nil_append, empty]
        unfold spanFraction
        split
        · next cs => rcases head_of_exponent? exponent rfl with h | h <;> exact absurd h (by decide)
        · rfl
      · refine ⟨?_, Json.spanDigits_append (fun c hc => digits c (List.mem_append_right _ hc)) ends⟩
        rintro c ⟨⟩
        rfl
    have whole := Json.spanDigits_append (fun c hc => digits c (List.mem_append_left _ hc)) fraction.1
    simp only [spelled?, whole, fraction.2, if_neg some, exponent]
    rfl

/-- What stands before the marker of an exponent. -/
def beforeMarker (c : Char) : Bool := c ≠ 'e' && c ≠ 'E'

theorem beforeMarker_eq_false_iff {c : Char} : beforeMarker c = false ↔ c = 'e' ∨ c = 'E' := by
  simp [beforeMarker, Decidable.imp_iff_not_or]

theorem splitExponent_eq_some_iff {cs head : List Char} {e : Int} :
    splitExponent cs = some (head, e) ↔
      ∃ tail, cs = head ++ tail ∧ (∀ c ∈ head, beforeMarker c = true) ∧ exponent? tail = some e := by
  have split : ∀ c tail, beforeMarker c = false → exponent? (c :: tail) =
      (Net.numeral? 10 (dropSign ['+', '-'] tail)).map
        fun n : Nat => if tail.head? = some '-' then -(n : Int) else n := by
    intro c tail marker
    rw [exponent?, if_pos (beforeMarker_eq_false_iff.1 marker), readSign_snd, readSign_fst]
    simp
  have unfolded : splitExponent cs = match cs.dropWhile beforeMarker with
      | [] => some (cs.takeWhile beforeMarker, 0)
      | _ :: tail => (Net.numeral? 10 (dropSign ['+', '-'] tail)).map fun n : Nat =>
        (cs.takeWhile beforeMarker, if tail.head? = some '-' then -(n : Int) else n) := by
    have same : (fun c : Char => c ≠ 'e' && c ≠ 'E') = beforeMarker := rfl
    unfold splitExponent
    rw [same]
    cases cs.dropWhile beforeMarker with
    | nil => rfl
    | cons c tail => cases h : Net.numeral? 10 (dropSign ['+', '-'] tail) <;> simp [h]
  rw [unfolded]
  constructor
  · intro h
    have before : ∀ c ∈ cs.takeWhile beforeMarker, beforeMarker c = true :=
      fun c hc => List.mem_takeWhile_imp hc
    have whole := (List.takeWhile_append_dropWhile (p := beforeMarker) (l := cs)).symm
    cases behind : cs.dropWhile beforeMarker with
    | nil =>
      rw [behind] at h whole
      cases h
      exact ⟨[], whole, before, rfl⟩
    | cons c tail =>
      rw [behind] at h whole
      have marker : beforeMarker c = false := by
        have := List.head?_dropWhile_not beforeMarker cs
        rw [behind] at this
        simpa using this
      obtain ⟨n, value, heq⟩ := Option.map_eq_some_iff.1 h
      cases heq
      exact ⟨c :: tail, whole, before, by rw [split c tail marker, value]; rfl⟩
  · rintro ⟨tail, rfl, before, exponent⟩
    cases tail with
    | nil =>
      cases exponent
      rw [List.append_nil, List.dropWhile_eq_nil_iff.2 before, List.takeWhile_eq_self_iff.2 before]
    | cons c tail =>
      have marker := beforeMarker_eq_false_iff.2 (head_of_exponent? exponent rfl)
      rw [split c tail marker] at exponent
      obtain ⟨n, value, rfl⟩ := Option.map_eq_some_iff.1 exponent
      rw [List.dropWhile_append_of_pos before, List.takeWhile_append_of_pos before]
      simp [marker, value]

/-- Splitting at the exponent and at the point finds the parts. -/
theorem decimal?_eq_some_iff {cs : List Char} {d : Decimal} : decimal? cs = some d ↔ Spells cs d := by
  constructor
  · intro h
    unfold decimal? at h
    cases hsplit : splitExponent cs with
    | none => rw [hsplit] at h; cases h
    | some parts =>
      obtain ⟨head, e⟩ := parts
      obtain ⟨tail, rfl, -, exponent⟩ := splitExponent_eq_some_iff.1 hsplit
      rw [hsplit] at h
      simp only at h
      split at h
      · next digits =>
        cases h
        simp only [Bool.and_eq_true, List.all_eq_true, decide_eq_true_eq] at digits
        refine ⟨digits.1, digits.2, ?_⟩
        cases hcut : Text.cutAt '.' head with
        | none => exact ⟨[], tail, rfl, exponent, .inl ⟨rfl, rfl⟩⟩
        | some parts =>
          have heq := (Text.cutAt_eq_some_iff.1 hcut).1
          exact ⟨'.' :: parts.2, tail, by simp [heq], exponent, .inr rfl⟩
      · cases h
  · rintro ⟨digits, some, point, tail, rfl, exponent, parts⟩
    have marker : ∀ c, c.isDigit = true → beforeMarker c = true ∧ c ≠ '.' := by
      intro c digit
      have other : c ≠ 'e' ∧ c ≠ 'E' ∧ c ≠ '.' := by
        refine ⟨?_, ?_, ?_⟩ <;> rintro rfl <;> exact absurd digit (by decide)
      simp [beforeMarker, other]
    have before : ∀ c ∈ d.whole ++ point, beforeMarker c = true := by
      intro c hc
      rcases List.mem_append.1 hc with hc | hc
      · exact (marker c (digits c (List.mem_append_left _ hc))).1
      · rcases parts with ⟨rfl, -⟩ | rfl
        · cases hc
        · rcases List.mem_cons.1 hc with rfl | hc
          · rfl
          · exact (marker c (digits c (List.mem_append_right _ hc))).1
    have hsplit : splitExponent (d.whole ++ (point ++ tail)) = Option.some (d.whole ++ point, d.exponent) :=
      splitExponent_eq_some_iff.2 ⟨tail, (List.append_assoc ..).symm, before, exponent⟩
    have unpointed : '.' ∉ d.whole := fun hc =>
      (marker _ (digits _ (List.mem_append_left _ hc))).2 rfl
    have hcut : (Text.cutAt '.' (d.whole ++ point)).getD (d.whole ++ point, []) =
        (d.whole, d.fraction) := by
      rcases parts with ⟨rfl, empty⟩ | rfl
      · have absent : Text.cutAt '.' (d.whole ++ []) = none := by
          rw [List.append_nil]
          cases hcut : Text.cutAt '.' d.whole with
          | none => rfl
          | some parts =>
            refine absurd ?_ unpointed
            rw [(Text.cutAt_eq_some_iff.1 hcut).1]
            simp
        rw [absent, empty]
        simp
      · rw [Text.cutAt_eq_some_iff.2 ⟨rfl, unpointed⟩]
        rfl
    have all : (d.whole ++ d.fraction).all Char.isDigit = true := List.all_eq_true.2 digits
    unfold decimal?
    rw [hsplit]
    simp only [hcut, all, Bool.true_and, ne_eq, some, not_false_eq_true, decide_true, if_true]

/-- **Both ways of taking a decimal number apart find the same parts.** -/
theorem decimal?_eq_spelled? (cs : List Char) : decimal? cs = spelled? cs :=
  Option.ext fun d => by
    rw [decimal?_eq_some_iff, spelled?_eq_some_iff]

end MonitorFleet.Yaml
