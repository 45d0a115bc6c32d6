import MonitorFleet.Proofs.Json.Readers

/-!
# Strings are recognized

Behind its opening quote, `skipText` takes just the strings of the grammar, with their closing
quote, and `readText` just those that spell characters. The difference lies in the escapes: four
digits that are half of a surrogate pair spell nothing unless the other half follows.

## What is proved

* `hexValue?_eq_some_iff`, `shortEscape?_eq_some_iff`: what single characters of an escape mean.
* `recognizes_skipText`: which strings are passed over.
* `recognizes_readText`, `recognizes_readString`: which strings are read, and what they are read as.
-/

namespace MonitorFleet.Json

/-! ### Escapes -/

instance (c : Char) (d : Nat) : Decidable (HexDigit c d) :=
  inferInstanceAs (Decidable (_ ∧ _))

theorem hexValue?_eq_some_iff {c : Char} {d : Nat} : hexValue? c = some d ↔ HexDigit c d := by
  constructor
  · intro h
    have ascii : c.toNat < 128 := by
      unfold hexValue? at h
      simp only [Char.le_def, UInt32.le_iff_toNat_le] at h
      have nine : ('9' : Char).val.toNat = 57 := rfl
      have small : ('f' : Char).val.toNat = 102 := rfl
      have capital : ('F' : Char).val.toNat = 70 := rfl
      have code : c.toNat = c.val.toNat := rfl
      split at h
      · omega
      · split at h
        · omega
        · split at h
          · omega
          · cases h
    have table : ∀ n < 128, ∀ d ∈ hexValue? (Char.ofNat n), HexDigit (Char.ofNat n) d := by
      decide +kernel
    have hc := table c.toNat ascii d
    rw [Char.ofNat_toNat] at hc
    exact hc h
  · rintro ⟨hd, rfl | rfl⟩
    · have table : ∀ d < 16, hexValue? (Nat.digitChar d) = some d := by decide
      exact table d hd
    · have table : ∀ d < 16, hexValue? (Nat.digitChar d).toUpper = some d := by decide
      exact table d hd

theorem hexNumber?_eq_some_iff {a b c d : Char} {n : Nat} :
    hexNumber? a b c d = some n ↔ HexNumber [a, b, c, d] n := by
  unfold hexNumber?
  constructor
  · intro h
    split at h
    · next ha hb hc hd =>
      cases h
      exact .digits (hexValue?_eq_some_iff.1 ha) (hexValue?_eq_some_iff.1 hb)
        (hexValue?_eq_some_iff.1 hc) (hexValue?_eq_some_iff.1 hd)
    · cases h
  · rintro ⟨ha, hb, hc, hd⟩
    rw [hexValue?_eq_some_iff.2 ha, hexValue?_eq_some_iff.2 hb, hexValue?_eq_some_iff.2 hc,
      hexValue?_eq_some_iff.2 hd]

theorem HexNumber.lt {ds : List Char} {n : Nat} (h : HexNumber ds n) : n < 65536 := by
  obtain ⟨⟨ha, -⟩, ⟨hb, -⟩, ⟨hc, -⟩, ⟨hd, -⟩⟩ := h
  omega

theorem shortEscape?_eq_some_iff {e c : Char} : shortEscape? e = some c ↔ ShortEscape e c := by
  constructor
  · intro h
    unfold shortEscape? at h
    split at h <;> cases h <;> constructor
  · rintro ⟨⟩ <;> rfl

/-- No short escape is spelled like the marker of a number. -/
theorem shortEscape?_marker : shortEscape? 'u' = none := rfl

/-- Four digits are recognized. -/
theorem recognizes_readHex : Recognizes readHex (fun _ => True) HexNumber where
  sound := by
    rintro cs rest n ⟨hr, heq⟩
    unfold readHex at heq
    split at heq
    · next a b c d rest' =>
      split at heq
      · next hn =>
        cases heq
        exact ⟨[a, b, c, d], rfl, hexNumber?_eq_some_iff.1 hn⟩
      · cases heq
    · cases heq
  complete := by
    intro text n h rest _
    have number := h
    obtain ⟨-, -, -, -⟩ := h
    refine ⟨by simp; omega, ?_⟩
    simp only [List.cons_append, List.nil_append, readHex, hexNumber?_eq_some_iff.2 number]

/-- What stands behind a backslash is passed over. -/
theorem recognizes_skipEscape :
    Recognizes skipEscape (fun _ => True) (fun text _ => IsEscape text) where
  sound := by
    rintro cs rest ⟨⟩ ⟨hr, heq⟩
    unfold skipEscape at heq
    split at heq
    · cases heq
    · next e cs =>
      split at heq
      · next c he =>
        cases heq
        exact ⟨[e], rfl, .short (shortEscape?_eq_some_iff.1 he)⟩
      · split at heq
        · next he =>
          subst he
          obtain ⟨n, hread, -⟩ := map_eq_ok_iff.1 heq
          obtain ⟨ds, rfl, hds⟩ := recognizes_readHex.sound (Reads.of_within hread)
          exact ⟨'u' :: ds, rfl, .numbered hds⟩
        · cases heq
  complete := by
    rintro _ ⟨⟩ h rest -
    cases h with
    | @short e c h =>
      refine ⟨by simp, ?_⟩
      simp only [List.cons_append, List.nil_append, skipEscape, shortEscape?_eq_some_iff.2 h]
    | @numbered ds n h =>
      obtain ⟨hr, heq⟩ := (recognizes_readHex.complete h rest trivial).behind 'u'
      refine ⟨hr, ?_⟩
      simp only [List.cons_append, skipEscape, shortEscape?_marker, if_true]
      exact map_eq_ok_iff.2 ⟨n, heq, rfl⟩

theorem isHighSurrogate_iff (n : Nat) :
    isHighSurrogate n = true ↔ 0xD800 ≤ n ∧ n ≤ 0xDBFF := by simp [isHighSurrogate]

theorem isLowSurrogate_iff (n : Nat) :
    isLowSurrogate n = true ↔ 0xDC00 ≤ n ∧ n ≤ 0xDFFF := by simp [isLowSurrogate]

theorem toNat_ofNat {n : Nat} (h : n.isValidChar) : (Char.ofNat n).toNat = n := by
  unfold Char.ofNat
  rw [dif_pos h]
  rfl

theorem ofSurrogates_eq_iff {high low : Nat} {c : Char} (first : 0xD800 ≤ high ∧ high ≤ 0xDBFF)
    (second : 0xDC00 ≤ low ∧ low ≤ 0xDFFF) : ofSurrogates high low = c ↔
      c.toNat = 0x10000 + (high - 0xD800) * 0x400 + (low - 0xDC00) := by
  have valid : ((high - 0xD800) * 0x400 + (low - 0xDC00) + 0x10000).isValidChar :=
    .inr ⟨by omega, by omega⟩
  rw [← Char.toNat_inj, ofSurrogates, toNat_ofNat valid, eq_comm, Nat.add_comm, Nat.add_assoc]

/-- The second half of a pair is recognized, from its backslash on. -/
theorem recognizes_readLow (high : Nat) : Recognizes (readLow high) (fun _ => True)
    (fun text c => ∃ ds low, text = '\\' :: 'u' :: ds ∧ HexNumber ds low ∧
      isLowSurrogate low = true ∧ ofSurrogates high low = c) where
  sound := by
    rintro cs rest c ⟨hr, heq⟩
    unfold readLow at heq
    split at heq
    · cases heq
    · cases heq
    · next cs =>
      split at heq
      · cases heq
      · next low rest' h hread =>
        obtain ⟨ds, rfl, hds⟩ := recognizes_readHex.sound ⟨h, hread⟩
        split at heq
        · next hlow =>
          simp only [Except.ok.injEq, Prod.mk.injEq, Subtype.mk.injEq] at heq
          obtain ⟨rfl, rfl⟩ := heq
          exact ⟨'\\' :: 'u' :: ds, rfl, ds, low, rfl, hds, hlow, rfl⟩
        · cases heq
    · cases heq
    · cases heq
  complete := by
    rintro _ _ ⟨ds, low, rfl, hds, hlow, rfl⟩ rest -
    obtain ⟨hr, heq⟩ := recognizes_readHex.complete hds rest trivial
    refine ⟨by simp; omega, ?_⟩
    simp only [List.cons_append, readLow, heq, hlow, if_true]

/-- A character spelled by number is recognized, behind its marker. -/
theorem recognizes_readNumbered : Recognizes readNumbered (fun _ => True)
    (fun text c => SpellsEscape ('u' :: text) c) where
  sound := by
    rintro cs rest c ⟨hr, heq⟩
    unfold readNumbered at heq
    split at heq
    · cases heq
    · next n rest' hread =>
      obtain ⟨ds, hcs, hds⟩ := recognizes_readHex.sound ⟨rest'.2, hread⟩
      split at heq
      · cases heq
      · next notLow =>
        split at heq
        · next hhigh =>
          obtain ⟨_, hrest, ds', low, rfl, hds', hlow, hc⟩ :=
            (recognizes_readLow n).sound (Reads.of_within heq)
          have first := (isHighSurrogate_iff n).1 hhigh
          have second := (isLowSurrogate_iff low).1 hlow
          refine ⟨ds ++ '\\' :: 'u' :: ds', by simp [hcs, hrest], ?_⟩
          exact .pair hds hds' first second ((ofSurrogates_eq_iff first second).1 hc)
        · next notHigh =>
          cases heq
          rw [isLowSurrogate_iff] at notLow
          rw [isHighSurrogate_iff] at notHigh
          have valid : n.isValidChar := by
            have := hds.lt
            unfold Nat.isValidChar
            omega
          refine ⟨ds, hcs, .numbered ?_⟩
          rwa [toNat_ofNat valid]
  complete := by
    intro text c h rest _
    generalize hu : 'u' :: text = marked at h
    cases h with
    | short he => cases hu; cases he
    | numbered hds =>
      cases hu
      obtain ⟨hr, heq⟩ := recognizes_readHex.complete hds rest trivial
      have valid : c.toNat.isValidChar := c.valid
      have notLow : isLowSurrogate c.toNat = false := by
        rw [Bool.eq_false_iff, Ne, isLowSurrogate_iff]
        unfold Nat.isValidChar at valid
        omega
      have notHigh : isHighSurrogate c.toNat = false := by
        rw [Bool.eq_false_iff, Ne, isHighSurrogate_iff]
        unfold Nat.isValidChar at valid
        omega
      refine ⟨hr, ?_⟩
      simp only [readNumbered, heq, notLow, notHigh, Bool.false_eq_true, if_false,
        Char.ofNat_toNat]
    | @pair ds ds' high low _ hhigh hlow first second hc =>
      cases hu
      have half := (recognizes_readLow high).complete ⟨ds', low, rfl, hlow,
        (isLowSurrogate_iff low).2 second, (ofSurrogates_eq_iff first second).2 hc⟩ rest trivial
      obtain ⟨hr, heq⟩ := recognizes_readHex.complete hhigh ('\\' :: 'u' :: ds' ++ rest) trivial
      obtain ⟨hr', heq'⟩ := half.after hr
      have notLow : isLowSurrogate high = false := by
        rw [Bool.eq_false_iff, Ne, isLowSurrogate_iff]
        omega
      rw [List.append_assoc]
      refine ⟨hr', ?_⟩
      simp only [readNumbered, List.cons_append] at heq heq' ⊢
      simp only [heq, notLow, (isHighSurrogate_iff high).2 first, Bool.false_eq_true, if_false,
        if_true, heq']

/-- What an escape spells is recognized, behind its backslash. -/
theorem recognizes_readEscape : Recognizes readEscape (fun _ => True) SpellsEscape where
  sound := by
    rintro cs rest c ⟨hr, heq⟩
    unfold readEscape at heq
    split at heq
    · cases heq
    · next e cs =>
      split at heq
      · next c he =>
        cases heq
        exact ⟨[e], rfl, .short (shortEscape?_eq_some_iff.1 he)⟩
      · split at heq
        · next he =>
          subst he
          obtain ⟨text, rfl, h⟩ := recognizes_readNumbered.sound (Reads.of_within heq)
          exact ⟨'u' :: text, rfl, h⟩
        · cases heq
  complete := by
    intro text c h rest _
    have numbered {text : List Char} (h : SpellsEscape ('u' :: text) c) :
        Reads readEscape ('u' :: text ++ rest) c rest := by
      obtain ⟨hr, heq⟩ := (recognizes_readNumbered.complete h rest trivial).behind 'u'
      refine ⟨hr, ?_⟩
      simp only [List.cons_append, readEscape, shortEscape?_marker, if_true]
      exact heq
    have spells := h
    cases h with
    | @short e _ he =>
      refine ⟨by simp, ?_⟩
      simp only [List.cons_append, List.nil_append, readEscape, shortEscape?_eq_some_iff.2 he]
    | numbered _ => exact numbered spells
    | pair _ _ _ _ _ => exact numbered spells

/-! ### Whole strings -/

theorem isControl_eq_false_iff (c : Char) : isControl c = false ↔ 32 ≤ c.toNat := by
  simp [isControl, Char.le_def, UInt32.le_iff_toNat_le]

theorem skipTextFrom_sound {bound : Nat} {cs rest : List Char} {h : cs.length ≤ bound}
    {hr : rest.length < bound} (heq : skipTextFrom bound cs h = .ok ((), ⟨rest, hr⟩)) :
    ∃ body, cs = body ++ '"' :: rest ∧ IsString body := by
  fun_induction skipTextFrom bound cs h with
  | case1 => cases heq
  | case2 cs =>
    cases heq
    exact ⟨[], rfl, .nil⟩
  | case3 => cases heq
  | case4 cs _ after hafter hread _ _ _ ih =>
    obtain ⟨es, rfl, hes⟩ := recognizes_skipEscape.sound ⟨hafter, hread⟩
    obtain ⟨body, rfl, hbody⟩ := ih heq
    exact ⟨'\\' :: (es ++ body), by simp, .escape hes hbody⟩
  | case5 => cases heq
  | case6 c cs _ quote backslash control _ ih =>
    obtain ⟨body, rfl, hbody⟩ := ih heq
    have plain : IsPlainChar c :=
      ⟨quote, backslash, (isControl_eq_false_iff c).1 (Bool.eq_false_iff.2 control)⟩
    exact ⟨c :: body, rfl, .plain plain hbody⟩

theorem skipTextFrom_complete {bound : Nat} {body : List Char} (hbody : IsString body)
    (rest : List Char) (h : (body ++ '"' :: rest).length ≤ bound) :
    ∃ hr, skipTextFrom bound (body ++ '"' :: rest) h = .ok ((), ⟨rest, hr⟩) := by
  induction hbody with
  | nil =>
    refine ⟨h, ?_⟩
    simp only [List.nil_append]
    rw [skipTextFrom]
    simp only [if_true]
  | @plain c cs hc _ ih =>
    obtain ⟨quote, backslash, plain⟩ := hc
    obtain ⟨hr, heq⟩ := ih (Nat.le_of_lt h)
    refine ⟨hr, ?_⟩
    simp only [List.cons_append]
    rw [skipTextFrom]
    simp only [if_neg quote, if_neg backslash, (isControl_eq_false_iff c).2 plain,
      Bool.false_eq_true, if_false]
    exact heq
  | @escape es cs he _ ih =>
    simp only [List.cons_append, List.append_assoc] at h ⊢
    obtain ⟨hafter, hread⟩ :=
      recognizes_skipEscape.complete (a := ()) he (cs ++ '"' :: rest) trivial
    obtain ⟨hr, heq⟩ := ih (Nat.le_of_lt (Nat.lt_trans hafter h))
    refine ⟨hr, ?_⟩
    rw [skipTextFrom]
    simp only [hread, Char.reduceEq, if_true, if_false]
    exact heq

/-- The strings that are passed over, behind their opening quote. -/
theorem recognizes_skipText : Recognizes skipText (fun _ => True)
    (fun text _ => ∃ body, text = body ++ ['"'] ∧ IsString body) where
  sound := by
    rintro cs rest ⟨⟩ ⟨hr, heq⟩
    obtain ⟨body, rfl, hbody⟩ := skipTextFrom_sound heq
    exact ⟨body ++ ['"'], by simp, body, rfl, hbody⟩
  complete := by
    rintro _ ⟨⟩ ⟨body, rfl, hbody⟩ rest -
    rw [List.append_assoc]
    exact skipTextFrom_complete hbody rest (Nat.le_refl _)

theorem readTextFrom_sound {bound : Nat} {seen cs rest : List Char} {s : String}
    {h : cs.length ≤ bound} {hr : rest.length < bound}
    (heq : readTextFrom bound seen cs h = .ok (s, ⟨rest, hr⟩)) :
    ∃ body read, cs = body ++ '"' :: rest ∧ SpellsText body read ∧
      s.toList = seen.reverse ++ read := by
  -- What was read before stands reversed in `seen`, and grows at each step.
  fun_induction readTextFrom bound seen cs h with
  | case1 => cases heq
  | case2 seen cs =>
    cases heq
    exact ⟨[], [], rfl, .nil, by simp⟩
  | case3 => cases heq
  | case4 seen cs c after hafter hread _ _ _ ih =>
    obtain ⟨es, rfl, hes⟩ := recognizes_readEscape.sound ⟨hafter, hread⟩
    obtain ⟨body, read, rfl, hbody, hs⟩ := ih heq
    exact ⟨'\\' :: (es ++ body), c :: read, by simp, .escape hes hbody, by simp [hs]⟩
  | case5 => cases heq
  | case6 seen c cs _ quote backslash control _ ih =>
    obtain ⟨body, read, rfl, hbody, hs⟩ := ih heq
    have plain : IsPlainChar c :=
      ⟨quote, backslash, (isControl_eq_false_iff c).1 (Bool.eq_false_iff.2 control)⟩
    exact ⟨c :: body, c :: read, rfl, .plain plain hbody, by simp [hs]⟩

theorem readTextFrom_complete {bound : Nat} {body read : List Char} (hbody : SpellsText body read)
    (seen rest : List Char) (h : (body ++ '"' :: rest).length ≤ bound) :
    ∃ hr, readTextFrom bound seen (body ++ '"' :: rest) h =
      .ok (String.ofList (seen.reverse ++ read), ⟨rest, hr⟩) := by
  induction hbody generalizing seen with
  | nil =>
    refine ⟨h, ?_⟩
    simp only [List.nil_append]
    rw [readTextFrom]
    simp only [if_true, List.append_nil]
  | @plain c cs s hc _ ih =>
    obtain ⟨quote, backslash, plain⟩ := hc
    obtain ⟨hr, heq⟩ := ih (c :: seen) (Nat.le_of_lt h)
    refine ⟨hr, ?_⟩
    simp only [List.cons_append]
    rw [readTextFrom]
    simp only [if_neg quote, if_neg backslash, (isControl_eq_false_iff c).2 plain,
      Bool.false_eq_true, if_false]
    simpa using heq
  | @escape es cs s c he _ ih =>
    simp only [List.cons_append, List.append_assoc] at h ⊢
    obtain ⟨hafter, hread⟩ := recognizes_readEscape.complete he (cs ++ '"' :: rest) trivial
    obtain ⟨hr, heq⟩ := ih (c :: seen) (Nat.le_of_lt (Nat.lt_trans hafter h))
    refine ⟨hr, ?_⟩
    rw [readTextFrom]
    simp only [hread, Char.reduceEq, if_true, if_false]
    simpa using heq

/-- **The strings that are read**, behind their opening quote, and what they spell. -/
theorem recognizes_readText : Recognizes readText (fun _ => True)
    (fun text s => ∃ body, text = body ++ ['"'] ∧ SpellsText body s.toList) where
  sound := by
    rintro cs rest s ⟨hr, heq⟩
    obtain ⟨body, read, rfl, hbody, hs⟩ := readTextFrom_sound heq
    rw [List.reverse_nil, List.nil_append] at hs
    exact ⟨body ++ ['"'], by simp, body, rfl, hs ▸ hbody⟩
  complete := by
    rintro _ s ⟨body, rfl, hbody⟩ rest -
    rw [List.append_assoc]
    obtain ⟨hr, heq⟩ := readTextFrom_complete hbody [] rest (Nat.le_refl _)
    rw [List.reverse_nil, List.nil_append, String.ofList_toList] at heq
    exact ⟨hr, heq⟩

/-- Strings are recognized behind blanks. -/
theorem recognizes_readString : Recognizes readString (fun _ => True) (Padded SpellsString) := by
  refine Recognizes.afterBlanks ⟨?_, ?_⟩ SpellsString.head
  · rintro cs rest s ⟨hr, heq⟩
    cases cs with
    | nil => cases heq
    | cons c cs =>
      simp only at heq
      split at heq
      · next quote =>
        subst quote
        obtain ⟨_, rfl, body, rfl, h⟩ := recognizes_readText.sound (Reads.of_within heq)
        exact ⟨'"' :: (body ++ ['"']), rfl, body, rfl, h⟩
      · cases heq
  · rintro _ s ⟨body, rfl, h⟩ rest -
    obtain ⟨hr, heq⟩ := (recognizes_readText.complete ⟨body, rfl, h⟩ rest trivial).behind '"'
    refine ⟨hr, ?_⟩
    simp only [List.cons_append, if_true]
    exact heq

end MonitorFleet.Json
