import MonitorFleet.Proofs.Json.Readers

/-!
# Numbers are recognized

A number is read part by part: the digits up to the first character that is none, a fraction where
a point follows, an exponent where its marker does. So a number of the grammar is read as a whole
where a character follows that can end a value, and what is read as a whole number is spelled by
its decimal digits, without a leading zero and without any other part.

## What is proved

* `recognizes_readNumeral`: which texts are numbers, and their parts.
* `eq_toDigits_natural`: digits without a leading zero are those of their value.
* `recognizes_readNatural`: which texts are whole numbers below a bound.
-/

namespace MonitorFleet.Json

/-! ### Digits -/

/-- Whether a text goes on with no digit. -/
def NoDigit (cs : List Char) : Prop := ∀ c, cs.head? = some c → c.isDigit = false

theorem spanDigits_append {ds rest : List Char} (digits : ∀ c ∈ ds, c.isDigit = true)
    (h : NoDigit rest) : spanDigits (ds ++ rest) = (ds, rest) := by
  induction ds with
  | nil =>
    cases rest with
    | nil => rfl
    | cons c rest => simp [spanDigits, h c rfl]
  | cons d ds ih =>
    have hd := digits d (List.mem_cons_self ..)
    have hds := ih fun c hc => digits c (List.mem_cons_of_mem d hc)
    simp only [List.cons_append, spanDigits, hd, if_true, hds]

theorem spanDigits_sound (cs : List Char) :
    cs = (spanDigits cs).1 ++ (spanDigits cs).2 ∧ ∀ c ∈ (spanDigits cs).1, c.isDigit = true := by
  induction cs with
  | nil => exact ⟨rfl, List.forall_mem_nil _⟩
  | cons c cs ih =>
    unfold spanDigits
    split
    · next hc =>
      refine ⟨congrArg (c :: ·) ih.1, ?_⟩
      rintro d (_ | ⟨_, hd⟩)
      · exact hc
      · exact ih.2 d hd
    · exact ⟨rfl, List.forall_mem_nil _⟩

theorem readDigits_sound {atEnd : Problem} {cs ds rest : List Char}
    (h : readDigits atEnd cs = .ok (ds, rest)) : cs = ds ++ rest ∧ IsDigits ds := by
  have spec := spanDigits_sound cs
  unfold readDigits at h
  split at h
  · cases h
  · next hne hs =>
    cases h
    rw [hs] at spec
    exact ⟨spec.1, hne, spec.2⟩

theorem readDigits_complete {ds : List Char} (h : IsDigits ds) (atEnd : Problem)
    {rest : List Char} (hrest : NoDigit rest) :
    readDigits atEnd (ds ++ rest) = .ok (ds, rest) := by
  unfold readDigits
  rw [spanDigits_append h.2 hrest]
  split
  · next heq => cases heq; exact absurd rfl h.1
  · next heq => cases heq; rfl

/-! ### The parts of a number -/

theorem readWhole_sound {atEnd : Problem} {cs ds rest : List Char}
    (h : readWhole atEnd cs = .ok (ds, rest)) : cs = ds ++ rest ∧ IsWhole ds := by
  unfold readWhole at h
  split at h
  · cases h
  · cases h
  · next hne hd =>
    cases h
    obtain ⟨heq, digits⟩ := readDigits_sound hd
    refine ⟨heq, digits, fun zero => ?_⟩
    match ds with
    | [c] => cases zero; rfl
    | c :: d :: ds => cases zero; exact (hne d ds rfl).elim

theorem readWhole_complete {ds : List Char} (h : IsWhole ds) (atEnd : Problem)
    {rest : List Char} (hrest : NoDigit rest) :
    readWhole atEnd (ds ++ rest) = .ok (ds, rest) := by
  unfold readWhole
  rw [readDigits_complete h.1 atEnd hrest]
  split
  · next heq => cases heq
  · next heq => cases heq; cases h.2 rfl
  · next heq => cases heq; rfl

theorem readFraction_sound {atEnd : Problem} {cs ds rest : List Char}
    (h : readFraction atEnd cs = .ok (ds, rest)) :
    ∃ text, cs = text ++ rest ∧ SpellsFraction text ds := by
  unfold readFraction at h
  split at h
  · obtain ⟨rfl, digits⟩ := readDigits_sound h
    exact ⟨'.' :: ds, rfl, .digits digits⟩
  · cases h
    exact ⟨[], rfl, .none⟩

theorem readFraction_complete {text ds : List Char} (h : SpellsFraction text ds) (atEnd : Problem)
    {rest : List Char} (hrest : NoDigit rest) (point : rest.head? ≠ some '.') :
    readFraction atEnd (text ++ rest) = .ok (ds, rest) := by
  cases h with
  | none =>
    unfold readFraction
    split
    · next heq =>
      rw [List.nil_append] at heq
      exact absurd (congrArg List.head? heq) point
    · rfl
  | digits digits => exact readDigits_complete digits atEnd hrest

theorem readSign_sound (cs : List Char) :
    ∃ sign, cs = sign ++ (readSign cs).2 ∧ SpellsSign sign (readSign cs).1 := by
  unfold readSign
  split
  · exact ⟨['+'], rfl, .plus⟩
  · exact ⟨['-'], rfl, .minus⟩
  · exact ⟨[], rfl, .none⟩

theorem readSign_complete {sign : List Char} {negative : Bool} (h : SpellsSign sign negative)
    {ds : List Char} (digits : IsDigits ds) (rest : List Char) :
    readSign (sign ++ (ds ++ rest)) = (negative, ds ++ rest) := by
  cases h with
  | none =>
    obtain ⟨hne, digits⟩ := digits
    obtain ⟨d, ds, rfl⟩ := List.exists_cons_of_ne_nil hne
    have hd := digits d (List.mem_cons_self ..)
    simp only [List.nil_append, List.cons_append]
    unfold readSign
    split
    · next heq => cases heq; exact absurd hd (by decide)
    · next heq => cases heq; exact absurd hd (by decide)
    · rfl
  | plus => rfl
  | minus => rfl

theorem readExponent_sound {atEnd : Problem} {cs rest : List Char} {e : Option (Bool × List Char)}
    (h : readExponent atEnd cs = .ok (e, rest)) :
    ∃ text, cs = text ++ rest ∧ SpellsExponent text e := by
  cases cs with
  | nil => cases h; exact ⟨[], rfl, .none⟩
  | cons c cs =>
    simp only [readExponent] at h
    split at h
    · next marker =>
      split at h
      · cases h
      · next ds rest' hd =>
        cases h
        obtain ⟨hcs, digits⟩ := readDigits_sound hd
        obtain ⟨sign, hsign, spells⟩ := readSign_sound cs
        refine ⟨c :: (sign ++ ds), ?_, .digits marker spells digits⟩
        rw [List.cons_append, List.append_assoc, ← hcs, ← hsign]
    · cases h
      exact ⟨[], rfl, .none⟩

theorem readExponent_complete {text : List Char} {e : Option (Bool × List Char)}
    (h : SpellsExponent text e) (atEnd : Problem) {rest : List Char} (hrest : Ends rest)
    (digit : NoDigit rest) : readExponent atEnd (text ++ rest) = .ok (e, rest) := by
  cases h with
  | none =>
    cases rest with
    | nil => rfl
    | cons c rest =>
      have marker : ¬ (c = 'e' ∨ c = 'E') := by
        have hc := hrest c rfl
        rintro (rfl | rfl) <;> exact absurd hc (by decide)
      simp only [List.nil_append, readExponent, if_neg marker]
  | @digits c sign ds negative marker hsign digits =>
    have sign := readSign_complete hsign digits rest
    simp only [List.cons_append, List.append_assoc, readExponent, if_pos marker, sign,
      readDigits_complete digits atEnd digit]

/-! ### What follows a part -/

/-- What ends a value is no part of a number. -/
theorem Ends.not_numeral {cs : List Char} (h : Ends cs) {c : Char} (hc : cs.head? = some c) :
    c.isDigit = false ∧ c ≠ '.' := by
  have hends := h c hc
  simp only [isBlank, Bool.or_eq_true, decide_eq_true_eq] at hends
  rcases hends with (((rfl | rfl) | rfl) | rfl) | rfl | rfl | rfl <;> decide

theorem Ends.noDigit {cs : List Char} (h : Ends cs) : NoDigit cs := fun _ hc => (h.not_numeral hc).1

theorem SpellsExponent.head {text rest : List Char} {e : Option (Bool × List Char)}
    (h : SpellsExponent text e) (hrest : Ends rest) {c : Char}
    (hc : (text ++ rest).head? = some c) : c.isDigit = false ∧ c ≠ '.' := by
  cases h with
  | none => exact hrest.not_numeral hc
  | digits marker _ _ =>
    cases hc
    rcases marker with rfl | rfl <;> decide

theorem SpellsFraction.noDigit {text ds rest : List Char} (h : SpellsFraction text ds)
    (hrest : NoDigit rest) : NoDigit (text ++ rest) := by
  cases h with
  | none => exact hrest
  | digits _ =>
    rintro _ ⟨⟩
    rfl

/-! ### Whole numbers are read part by part -/

/-- The number without its sign. -/
theorem readUnsigned_complete {n : Numeral} {fraction exponent rest : List Char}
    (whole : IsWhole n.whole) (hfraction : SpellsFraction fraction n.fraction)
    (hexponent : SpellsExponent exponent n.exponent) (atEnd : Problem) (hrest : Ends rest) :
    readUnsigned atEnd n.negative (n.whole ++ (fraction ++ (exponent ++ rest))) =
      .ok (n, rest) := by
  have digit : NoDigit (exponent ++ rest) := fun _ hc => (hexponent.head hrest hc).1
  have point : (exponent ++ rest).head? ≠ some '.' := fun hc => (hexponent.head hrest hc).2 rfl
  unfold readUnsigned
  simp only [readWhole_complete whole atEnd (hfraction.noDigit digit),
    readFraction_complete hfraction atEnd digit point,
    readExponent_complete hexponent atEnd hrest hrest.noDigit]

theorem readUnsigned_sound {atEnd : Problem} {negative : Bool} {cs rest : List Char} {n : Numeral}
    (h : readUnsigned atEnd negative cs = .ok (n, rest)) : n.negative = negative ∧
      ∃ fraction exponent, cs = n.whole ++ (fraction ++ (exponent ++ rest)) ∧ IsWhole n.whole ∧
        SpellsFraction fraction n.fraction ∧ SpellsExponent exponent n.exponent := by
  unfold readUnsigned at h
  split at h
  · cases h
  · next hw =>
    split at h
    · cases h
    · next hf =>
      split at h
      · cases h
      · next he =>
        cases h
        obtain ⟨rfl, whole⟩ := readWhole_sound hw
        obtain ⟨fraction, rfl, hfraction⟩ := readFraction_sound hf
        obtain ⟨exponent, rfl, hexponent⟩ := readExponent_sound he
        exact ⟨rfl, fraction, exponent, rfl, whole, hfraction, hexponent⟩

theorem readSigned_sound {atEnd : Problem} {cs rest : List Char} {n : Numeral}
    (h : readSigned atEnd cs = .ok (n, rest)) :
    ∃ text, cs = text ++ rest ∧ SpellsNumeral text n := by
  unfold readSigned at h
  split at h
  all_goals
    obtain ⟨hn, fraction, exponent, rfl, parts⟩ := readUnsigned_sound h
    refine ⟨_, ?_, fraction, exponent, rfl, parts⟩
    simp [hn]

theorem readSigned_complete {text : List Char} {n : Numeral} (h : SpellsNumeral text n)
    (atEnd : Problem) {rest : List Char} (hrest : Ends rest) :
    readSigned atEnd (text ++ rest) = .ok (n, rest) := by
  obtain ⟨fraction, exponent, rfl, whole, hfraction, hexponent⟩ := h
  have read := readUnsigned_complete whole hfraction hexponent atEnd hrest
  cases hn : n.negative with
  | true =>
    rw [hn] at read
    simpa [readSigned] using read
  | false =>
    rw [hn] at read
    simp only [Bool.false_eq_true, if_false, List.nil_append, List.append_assoc]
    rw [← read]
    unfold readSigned
    split
    · next heq =>
      obtain ⟨hne, digits⟩ := whole.1
      obtain ⟨d, ds, hd⟩ := List.exists_cons_of_ne_nil hne
      rw [hd] at heq digits
      cases heq
      exact absurd (digits '-' (List.mem_cons_self ..)) (by decide)
    · rfl

/-- **The numbers that are read**, and their parts. -/
theorem recognizes_readNumeral (atEnd : Problem) :
    Recognizes (readNumeral atEnd) Ends SpellsNumeral where
  sound := by
    rintro cs rest n ⟨hr, heq⟩
    unfold readNumeral at heq
    split at heq
    · cases heq
    · next hread =>
      cases heq
      exact readSigned_sound hread
  complete := by
    intro text n h rest hrest
    have read := readSigned_complete h atEnd hrest
    refine ⟨length_of_readSigned read, ?_⟩
    unfold readNumeral
    split
    · next heq => rw [read] at heq; cases heq
    · next heq => rw [read] at heq; cases heq; rfl

/-- A number is passed over. -/
theorem recognizes_skipNumber :
    Recognizes skipNumber Ends (fun text _ => ∃ n, SpellsNumeral text n) where
  sound := by
    rintro cs rest ⟨⟩ hskip
    obtain ⟨n, hread, -⟩ := hskip.of_map
    obtain ⟨text, rfl, h⟩ := (recognizes_readNumeral .badNumber).sound hread
    exact ⟨text, rfl, n, h⟩
  complete := by
    rintro text ⟨⟩ ⟨n, h⟩ rest hrest
    exact ((recognizes_readNumeral .badNumber).complete h rest hrest).map fun _ => ()

/-! ### Whole numbers -/

/-- A digit is the one that is written for its value. -/
theorem digitChar_digit {c : Char} (h : c.isDigit = true) :
    Nat.digitChar (digit c) = c ∧ digit c < 10 := by
  simp only [Char.isDigit, Bool.and_eq_true, decide_eq_true_eq, ge_iff_le,
    UInt32.le_iff_toNat_le] at h
  obtain ⟨zero, nine⟩ := h
  have code : c.val.toNat = c.toNat := rfl
  have hzero : ('0' : Char).val.toNat = 48 := rfl
  have hnine : ('9' : Char).val.toNat = 57 := rfl
  have table : ∀ n < 58, 48 ≤ n → Nat.digitChar (n - 48) = Char.ofNat n := by decide
  have hc := table c.toNat (by omega) (by omega)
  rw [Char.ofNat_toNat] at hc
  have hdigit : digit c = c.toNat - 48 := rfl
  rw [hdigit]
  exact ⟨hc, by omega⟩

/-- Digits behind those of a number are the digits of the number that they make with it. -/
theorem toDigits_foldl {ds : List Char} (digits : ∀ c ∈ ds, c.isDigit = true) {n : Nat}
    (hn : 0 < n) :
    Nat.toDigits 10 (ds.foldl (fun n c => n * 10 + digit c) n) = Nat.toDigits 10 n ++ ds := by
  induction ds generalizing n with
  | nil => simp
  | cons d ds ih =>
    obtain ⟨hd, lt⟩ := digitChar_digit (digits d (List.mem_cons_self ..))
    have first : Nat.toDigits 10 (n * 10 + digit d) = Nat.toDigits 10 n ++ [d] := by
      rw [Nat.mul_comm, ← Nat.toDigits_append_toDigits (by decide) hn lt,
        Nat.toDigits_of_lt_base lt, hd]
    rw [List.foldl_cons, ih (fun c hc => digits c (List.mem_cons_of_mem d hc)) (by omega), first]
    simp

/-- Digits without a leading zero are those of their value. -/
theorem eq_toDigits_natural {ds : List Char} (h : IsWhole ds) :
    ds = Nat.toDigits 10 (natural ds) := by
  obtain ⟨⟨hne, digits⟩, zero⟩ := h
  obtain ⟨d, ds, rfl⟩ := List.exists_cons_of_ne_nil hne
  obtain ⟨hd, lt⟩ := digitChar_digit (digits d (List.mem_cons_self ..))
  have value : natural (d :: ds) = ds.foldl (fun n c => n * 10 + digit c) (digit d) := by
    simp [natural]
  -- A zero in front would not show in the value, so that it must be the whole number.
  rcases Nat.eq_zero_or_pos (digit d) with hzero | hpos
  · rw [hzero] at hd
    have alone : d :: ds = ['0'] := zero (by rw [← hd]; rfl)
    rw [alone]
    decide
  · have others := toDigits_foldl (fun c hc => digits c (List.mem_cons_of_mem d hc)) hpos
    rw [value, others, Nat.toDigits_of_lt_base lt, hd, List.singleton_append]

/-- No number but zero begins with a zero. -/
theorem head?_toDigits {n : Nat} (h : 0 < n) : (Nat.toDigits 10 n).head? ≠ some '0' := by
  induction n using Nat.strongRecOn with
  | ind n ih =>
    rw [Nat.toDigits_eq_if (by decide)]
    split
    · next hlt =>
      have : ∀ d < 10, 0 < d → Nat.digitChar d ≠ '0' := by decide
      simpa using this n hlt h
    · next hge =>
      have hhead := ih (n / 10) (by omega) (by omega)
      obtain ⟨d, ds, hds⟩ := List.exists_cons_of_ne_nil
        (Nat.toDigits_ne_nil : Nat.toDigits 10 (n / 10) ≠ [])
      rw [hds] at hhead ⊢
      simpa using hhead

theorem isWhole_toDigits (n : Nat) : IsWhole (Nat.toDigits 10 n) := by
  refine ⟨⟨Nat.toDigits_ne_nil, fun c hc => ?_⟩, fun zero => ?_⟩
  · exact Nat.isDigit_of_mem_toDigits (by decide) (by decide) hc
  · rcases Nat.eq_zero_or_pos n with rfl | hpos
    · rfl
    · exact absurd zero (head?_toDigits hpos)

theorem begins_toDigits (n : Nat) : Begins (Nat.toDigits 10 n) := (isWhole_toDigits n).1.head

theorem natural_toDigits (n : Nat) : natural (Nat.toDigits 10 n) = n := by
  have same : (fun n c => n * 10 + digit c) = fun n c => 10 * n + (c.toNat - '0'.toNat) := by
    funext n c
    rw [Nat.mul_comm]
    rfl
  rw [natural, same, ← Nat.ofDigitChars_eq_foldl]
  exact Nat.ofDigitChars_ten_toDigits

/-- A number is whole if it has neither a sign nor a fraction nor an exponent, and fits in its
word. -/
theorem value?_eq_natural_iff {m : Numeral} {n : Nat} : m.value? = some (.natural n) ↔
    m = ⟨false, m.whole, [], none⟩ ∧ natural m.whole = n ∧ n < wordBound := by
  obtain ⟨negative, whole, fraction, exponent⟩ := m
  unfold Numeral.value?
  constructor
  · intro h
    split at h
    · next word =>
      cases negative with
      | true => cases h
      | false =>
        simp only [Numeral.isWord, Bool.false_eq_true, if_false, Bool.and_eq_true,
          decide_eq_true_eq] at word
        simp only [Bool.false_eq_true, if_false, Option.some.injEq, Number.natural.injEq] at h
        obtain ⟨⟨rfl, rfl⟩, lt⟩ := word
        exact ⟨rfl, h, h ▸ lt⟩
    · obtain ⟨x, -, hx⟩ := Option.map_eq_some_iff.1 h
      cases hx
  · rintro ⟨heq, rfl, lt⟩
    cases heq
    have word : Numeral.isWord ⟨false, whole, [], none⟩ = true := by
      simpa [Numeral.isWord] using lt
    rw [if_pos word]
    rfl

/-- What is read as a whole number are its digits. -/
theorem reads_natural_sound {cs rest : List Char} {n : Nat}
    (h : Reads readNumber cs (.natural n) rest) :
    cs = Nat.toDigits 10 n ++ rest ∧ n < wordBound := by
  obtain ⟨hr, heq⟩ := h
  unfold readNumber at heq
  split at heq
  · cases heq
  · next m after hread =>
    split at heq
    · next v hv =>
      cases heq
      obtain ⟨hm, rfl, lt⟩ := value?_eq_natural_iff.1 hv
      rw [hm] at hread
      obtain ⟨text, rfl, fraction, exponent, rfl, whole, hfraction, hexponent⟩ :=
        (recognizes_readNumeral .endInValue).sound ⟨hr, hread⟩
      cases hexponent
      cases hfraction with
      | none =>
        refine ⟨?_, lt⟩
        rw [← eq_toDigits_natural whole]
        simp
      | digits digits => exact absurd rfl digits.1
    · cases heq

/-- A whole number that fits in its word is read by its digits. -/
theorem reads_natural {n : Nat} (hn : n < wordBound) {rest : List Char} (hrest : Ends rest) :
    Reads readNumber (Nat.toDigits 10 n ++ rest) (.natural n) rest := by
  have spells : SpellsNumeral (Nat.toDigits 10 n) ⟨false, Nat.toDigits 10 n, [], none⟩ :=
    ⟨[], [], by simp, isWhole_toDigits n, .none, .none⟩
  obtain ⟨hr, heq⟩ := (recognizes_readNumeral .endInValue).complete spells rest hrest
  have value : Numeral.value? ⟨false, Nat.toDigits 10 n, [], none⟩ = some (.natural n) :=
    value?_eq_natural_iff.2 ⟨rfl, natural_toDigits n, hn⟩
  refine ⟨hr, ?_⟩
  simp only [readNumber, heq, value]

/-- The whole numbers that are read by a reader of those below a bound. -/
theorem recognizes_readNatural {below : Nat} (hle : below ≤ wordBound) (expected : String) :
    Recognizes (readNatural below expected) Ends
      (Padded fun text n => text = Nat.toDigits 10 n ∧ n < below) := by
  refine Recognizes.afterBlanks ⟨?_, ?_⟩ ?_
  · rintro cs rest n ⟨hr, heq⟩
    cases cs with
    | nil => cases heq
    | cons c cs =>
      simp only at heq
      split at heq
      · split at heq
        · cases heq
        · next m after hread =>
          split at heq
          · next lt =>
            cases heq
            exact ⟨_, (reads_natural_sound ⟨hr, hread⟩).1, rfl, lt⟩
          · cases heq
        · cases heq
        · cases heq
      · cases heq
  · rintro _ n ⟨rfl, lt⟩ rest hrest
    have read := reads_natural (Nat.lt_of_lt_of_le lt hle) hrest
    obtain ⟨d, ds, hds⟩ := List.exists_cons_of_ne_nil
      (Nat.toDigits_ne_nil : Nat.toDigits 10 n ≠ [])
    have digit : d.isDigit = true := (isWhole_toDigits n).1.2 d (hds ▸ List.mem_cons_self ..)
    rw [hds, List.cons_append] at read ⊢
    obtain ⟨hr, heq⟩ := read
    refine ⟨hr, ?_⟩
    simp only [digit, or_true, if_true, heq, lt]
  · rintro _ n ⟨rfl, -⟩
    exact begins_toDigits n

end MonitorFleet.Json
