import MonitorFleet.Proofs.Yaml.Reading

/-!
# Words and quotes

A text without line ends is written as a word if it holds no sign of the format and stands for nothing
but itself, and else in quotes, where what would end or change it is written twice, escaped or
indented.

## What is proved

* `readWord_plain`: a text that is written as it is reads back.
* `readSingle_quoteSingle`: a text between single quotes reads back, and
  `readDouble_flatMap`: so does one between double quotes.
-/

namespace MonitorFleet.Yaml

open Document (blanks)

/-! ### Words -/

/-- That a word ends before a text: a line ends, or a colon stands there that is no part of a
word. -/
def EndsBefore (rest : List Char) : Prop :=
  ∃ c cs, rest = c :: cs ∧ (isBreak c = true ∨ (c = ':' ∧ endsWord cs = true))

theorem endsBefore_newline (rest : List Char) : EndsBefore ('\n' :: rest) :=
  ⟨_, _, rfl, .inl rfl⟩

theorem endsBefore_colon {rest : List Char} (h : endsWord rest = true) : EndsBefore (':' :: rest) :=
  ⟨_, _, rfl, .inr ⟨rfl, h⟩⟩

theorem endsWord_append {cs : List Char} (h : endsWord cs = false) (rest : List Char) :
    endsWord (cs ++ rest) = false := by
  cases cs with
  | nil => cases h
  | cons c cs => exact h

/-- A text without signs is a word up to its end. -/
theorem spanWord_append {cs rest : List Char} (ends : EndsBefore rest) {blank : Bool}
    (lines : isMultiline cs = false) (signs : holdsSign blank cs = false) :
    spanWord blank (cs ++ rest) = (cs, rest) := by
  induction cs generalizing blank with
  | nil =>
    obtain ⟨c, rest, rfl, stops⟩ := ends
    rw [List.nil_append, spanWord, if_pos]
    rcases stops with stops | ⟨rfl, stops⟩ <;> simp [stops]
  | cons c cs ih =>
    simp only [isMultiline, List.any_cons, Bool.or_eq_false_iff] at lines
    simp only [holdsSign, Bool.or_eq_false_iff, Bool.and_eq_false_iff] at signs
    obtain ⟨⟨colon, hash⟩, later⟩ := signs
    have goes : (isBreak c || (c = ':' && endsWord (cs ++ rest)) || (c = '#' && blank)) = false := by
      simp only [Bool.or_eq_false_iff, Bool.and_eq_false_iff]
      exact ⟨⟨lines.1, colon.imp_right (endsWord_append · rest)⟩, hash⟩
    rw [List.cons_append, spanWord, goes, if_neg Bool.false_ne_true, ih lines.2 later]
    rfl

/-- What a text is like that may be written as it is. -/
structure IsWord (cs : List Char) : Prop where
  starts : startsWord cs = true
  unmarked : marksDocument cs = false
  signs : holdsSign false cs = false
  lines : isMultiline cs = false
  last : cs.getLast? ≠ some ' '

theorem isBlank_of_isPrintable {c : Char} (h : isPrintable c = true) (line : isBreak c = false)
    (hne : c ≠ ' ') : isBlank c = false := by
  have tab : c ≠ '\t' := by rintro rfl; exact absurd h (by decide)
  have zero : c ≠ '\x00' := by rintro rfl; exact absurd h (by decide)
  simp [isBlank, line, hne, tab, zero]

theorem signs_of_startsAsSign {c : Char} {cs : List Char} (h : startsAsSign (c :: cs) = false) :
    marksDocument (c :: cs) = false ∧ indicators.contains c = false ∧
      ((c = '?' ∨ c = ':' ∨ c = '-') → endsWord cs = false) := by
  unfold startsAsSign at h
  split at h
  · cases h
  · cases h
  · next heq => cases heq
  · next hyphens points heq =>
    obtain ⟨rfl, rfl⟩ := List.cons.inj heq
    refine ⟨?_, ?_, ?_⟩
    · unfold marksDocument
      split
      · next heq =>
        obtain ⟨first, later⟩ := List.cons.inj heq
        exact absurd later (hyphens _ first)
      · next heq =>
        obtain ⟨first, later⟩ := List.cons.inj heq
        exact absurd later (points _ first)
      · rfl
    · exact (Bool.or_eq_false_iff.1 h).1
    · intro sign
      have last := (Bool.or_eq_false_iff.1 h).2
      rw [Bool.and_eq_false_iff] at last
      refine last.resolve_left ?_
      rcases sign with rfl | rfl | rfl <;> decide

theorem isWord_of_allowsPlain {cs : List Char} (hne : cs ≠ []) (h : allowsPlain cs = true) :
    IsWord cs := by
  obtain ⟨c, cs, rfl⟩ := List.exists_cons_of_ne_nil hne
  simp only [allowsPlain, Bool.and_eq_true, Bool.not_eq_true', decide_eq_true_eq] at h
  obtain ⟨⟨⟨⟨⟨escapes, lines⟩, starts⟩, signs⟩, first⟩, last⟩ := h
  obtain ⟨unmarked, indicator, follows⟩ := signs_of_startsAsSign starts
  have printable : isPrintable c = true := by
    simp only [needsEscapes, List.any_cons, Bool.or_eq_false_iff] at escapes
    simpa using escapes.2.1
  have line : isBreak c = false := by
    simp only [isMultiline, List.any_cons, Bool.or_eq_false_iff] at lines
    exact lines.1
  have blank : isBlank c = false :=
    isBlank_of_isPrintable printable line fun h => first (by rw [h]; rfl)
  refine ⟨?_, unmarked, ?_, lines, last⟩
  · simp only [startsWord, blank, Bool.not_false, Bool.true_and]
    split
    · next sign =>
      have sign : c = '?' ∨ c = ':' ∨ c = '-' := by
        simp only [Bool.or_eq_true, decide_eq_true_eq] at sign
        tauto
      rw [follows sign]
      rfl
    · rw [indicator]
      rfl
  · have colon : (c = ':' && endsWord cs) = false := by
      rw [Bool.and_eq_false_iff, decide_eq_false_iff_not]
      exact or_iff_not_imp_left.2 fun h => follows (.inr (.inl (not_not.1 h)))
    rw [holdsSign, colon, blank]
    simpa using signs

theorem resolve?_of_plain {s : String} (h : readsAsOther s = false) :
    resolve? s.toList = some (.text s) := by
  rw [resolve?, String.ofList_toList, (resolve_eq_text_iff s).2 (.inl h)]
  rfl

theorem ne_nil_of_plain {s : String} (other : readsAsOther s = false) : s.toList ≠ [] := by
  intro empty
  rw [String.toList_eq_nil_iff] at empty
  subst empty
  exact absurd other (by decide)

/-- A text that is written as it is reads back, if a word ends before what follows. -/
theorem readWord_plain {s : String} (other : readsAsOther s = false)
    (plain : allowsPlain s.toList = true) {rest : List Char} (ends : EndsBefore rest) :
    readWord (s.toList ++ rest) = some (.text s, rest) := by
  have word := isWord_of_allowsPlain (ne_nil_of_plain other) plain
  rw [readWord, spanWord_append ends word.lines word.signs]
  simp [word.starts, word.unmarked, word.last, resolve?_of_plain other]

/-! ### Single quotes -/

theorem readSingle_break {parent : Nat} {k : Option Nat} {c : Char} (line : isBreak c = true)
    (hne : c ≠ '\n') (cs : List Char) :
    readSingle parent k (c :: cs) = withChar c (readSingle parent (some 0) cs) := by
  rw [readSingle.eq_def]
  simp [line, hne]

theorem readSingle_blank {parent k : Nat} (cs : List Char) :
    readSingle parent (some k) (' ' :: cs) = readSingle parent (some (k + 1)) cs := by
  have line : isBreak ' ' = false := rfl
  rw [readSingle.eq_def]
  simp [line]

/-- The indentation behind a line end is passed. -/
theorem readSingle_blanks {parent indent : Nat} (deeper : parent < indent) {c : Char}
    (hne : c ≠ ' ') (line : isBreak c = false) (cs : List Char) :
    readSingle parent (some 0) (blanks indent ++ c :: cs) = readSingle parent none (c :: cs) := by
  have passed : ∀ n k, readSingle parent (some k) (blanks n ++ c :: cs) =
      readSingle parent (some (k + n)) (c :: cs) := by
    intro n
    induction n with
    | zero => intro k; rfl
    | succ n ih =>
      intro k
      rw [blanks, List.replicate_succ, List.cons_append, readSingle_blank, ← blanks, ih,
        Nat.add_assoc, Nat.add_comm 1 n]
  rw [passed, Nat.zero_add, readSingle.eq_def, readSingle.eq_def parent none]
  simp [line, hne, Nat.not_le_of_lt deeper]

/-- A quote that is not written twice ends the text. -/
theorem readSingle_close {parent : Nat} {rest : List Char} (ends : rest.head? ≠ some '\'') :
    readSingle parent none ('\'' :: rest) = some ([], rest) := by
  have line : isBreak '\'' = false := rfl
  rw [readSingle.eq_def]
  cases rest with
  | nil => simp [line]
  | cons c rest =>
    have hne : c ≠ '\'' := by simpa using ends
    simp [line, hne]

/-- A character is kept as it is written, which is twice for a quote. -/
theorem readSingle_char {parent : Nat} {c : Char} (line : isBreak c = false) (cs : List Char) :
    readSingle parent none ((if c = '\'' then ['\'', '\''] else [c]) ++ cs) =
      withChar c (readSingle parent none cs) := by
  by_cases h : c = '\''
  · subst h
    rw [readSingle.eq_def]
    simp [line]
  · rw [if_neg h, List.singleton_append, readSingle.eq_def]
    simp [line, h]

/-- A text between single quotes reads back: quotes in it are written twice, and further lines are
indented. -/
theorem readSingle_quoteSingle {parent indent : Nat} (deeper : parent < indent) {cs : List Char}
    (lines : '\n' ∉ cs) (pairs : holdsPair isBreak (· = ' ') cs = false) {rest : List Char}
    (ends : rest.head? ≠ some '\'') (fresh : Bool) (first : fresh = true → cs.head? ≠ some ' ') :
    readSingle parent (if fresh then some 0 else none)
      (quoteSingle indent fresh cs ++ '\'' :: rest) = some (cs, rest) := by
  induction cs generalizing fresh with
  | nil =>
    cases fresh with
    | false => exact readSingle_close ends
    | true =>
      rw [if_pos rfl, quoteSingle, if_pos rfl]
      exact (readSingle_blanks deeper (by decide) (by decide) rest).trans (readSingle_close ends)
  | cons c cs ih =>
    obtain ⟨hne, lines⟩ : c ≠ '\n' ∧ '\n' ∉ cs := by simpa [eq_comm] using lines
    have later : holdsPair isBreak (· = ' ') cs = false ∧
        (isBreak c = true → cs.head? ≠ some ' ') := by
      cases cs with
      | nil => simp [holdsPair]
      | cons d cs => simpa [holdsPair, and_comm] using pairs
    rw [quoteSingle]
    cases line : isBreak c with
    | true =>
      have inner := ih lines later.1 true fun _ => later.2 line
      rw [if_pos rfl] at inner ⊢
      rw [List.cons_append, readSingle_break line hne, inner]
      rfl
    | false =>
      have inner := ih lines later.1 false nofun
      rw [if_neg Bool.false_ne_true] at inner ⊢
      have written := (readSingle_char line (quoteSingle indent false cs ++ '\'' :: rest)).trans
        (congrArg (withChar c) inner)
      cases fresh with
      | false => simpa using written
      | true =>
        have hne : c ≠ ' ' := fun h => first rfl (by rw [h]; rfl)
        obtain ⟨others, begins⟩ : ∃ others,
            (if c = '\'' then ['\'', '\''] else [c]) ++
              (quoteSingle indent false cs ++ '\'' :: rest) = c :: others := by
          split
          · next h => exact ⟨_, by rw [h]; rfl⟩
          · exact ⟨_, rfl⟩
        rw [begins] at written
        rw [if_pos rfl, if_pos rfl, List.append_assoc, List.append_assoc, begins]
        exact (readSingle_blanks deeper hne line others).trans written

/-! ### Double quotes -/

/-- How a character is written between double quotes. -/
inductive Escapes (c : Char) : List Char → Prop where
  /-- As it is. -/
  | self (quote : c ≠ '"') (backslash : c ≠ '\\') (line : isBreak c = false)
      (shown : isPrintable c = true) : Escapes c [c]
  /-- By a letter. -/
  | letter {e : Char} (stands : escaped? e = some c) : Escapes c ['\\', e]
  /-- By a number of two digits. -/
  | byte {x y : Char} (stands : numbered? [x, y] = some c)
      (shown : ∀ d ∈ [x, y], isPrintable d = true) : Escapes c ['\\', 'x', x, y]
  /-- By a number of four digits, if two are too few. -/
  | word {x y z w : Char} (stands : numbered? [x, y, z, w] = some c)
      (shown : ∀ d ∈ [x, y, z, w], isPrintable d = true) (large : 0xFF < c.toNat) :
      Escapes c ['\\', 'u', x, y, z, w]

theorem numbered?_byte : ∀ n < 256, (hex 2 n).length = 2 ∧
    numbered? (hex 2 n) = some (Char.ofNat n) ∧ (hex 2 n).all isPrintable = true := by
  decide +kernel

/-- The numbers of the other characters that cannot be shown. -/
def hiddenNumbers : List Nat := [0xFEFF, 0xFFFE, 0xFFFF]

theorem numbered?_hidden : ∀ n ∈ hiddenNumbers, (hex 4 n).length = 4 ∧
    numbered? (hex 4 n) = some (Char.ofNat n) ∧ (hex 4 n).all isPrintable = true ∧
      n ≤ 0xFFFF := by
  decide +kernel

theorem mem_hiddenNumbers {c : Char} (large : 0xFF < c.toNat) (h : isPrintable c = false) :
    c.toNat ∈ hiddenNumbers := by
  have order : '\xa0' ≤ c := by
    rw [Char.le_def, UInt32.le_iff_toNat_le]
    exact Nat.le_of_lt (Nat.lt_of_lt_of_le (by decide) large)
  simp only [isPrintable, order, decide_true, Bool.true_and, Bool.or_eq_false_iff] at h
  have mark : c = '\ufeff' → c.toNat = 0xFEFF := fun h => h ▸ rfl
  have last := h.2
  simp only [Bool.and_eq_false_iff, decide_eq_false_iff_not, not_not, ne_eq] at last
  rcases last with (last | last) | last
  · simp [hiddenNumbers, mark last]
  · simp [hiddenNumbers, last]
  · simp [hiddenNumbers, last]

theorem large_of_isBreak {c : Char} (large : 0xFF < c.toNat) (line : isBreak c = true) :
    c = '\u2028' ∨ c = '\u2029' := by
  simp only [isBreak, Bool.or_eq_true, decide_eq_true_eq] at line
  rcases line with (((rfl | rfl) | rfl) | h) | h
  · exact absurd large (by decide)
  · exact absurd large (by decide)
  · exact absurd large (by decide)
  · exact .inl h
  · exact .inr h

theorem escapes_escape (c : Char) : Escapes c (escape c) := by
  unfold escape
  split
  · next h =>
    subst h
    exact .letter rfl
  · next quote =>
    split
    · next h =>
      subst h
      exact .letter rfl
    · next backslash =>
      split
      · next shown =>
        rw [Bool.and_eq_true, Bool.not_eq_true'] at shown
        exact .self quote backslash shown.2 shown.1
      · next hidden =>
        split
        all_goals try exact .letter rfl
        next lines paragraphs =>
          split
          · next small =>
            obtain ⟨length, value, shown⟩ := numbered?_byte c.toNat (by omega)
            obtain ⟨x, y, digits⟩ := List.length_eq_two.1 length
            rw [Char.ofNat_toNat] at value
            rw [digits] at value shown ⊢
            exact .byte value (List.all_eq_true.1 shown)
          · next large =>
            have unseen : isPrintable c = false := by
              refine Bool.eq_false_iff.2 fun shown => ?_
              rw [Bool.and_eq_true, Bool.not_eq_true', not_and, Bool.not_eq_false] at hidden
              rcases large_of_isBreak (by omega) (hidden shown) with h | h
              · exact lines h
              · exact paragraphs h
            obtain ⟨length, value, shown, small⟩ :=
              numbered?_hidden _ (mem_hiddenNumbers (by omega) unseen)
            obtain ⟨x, y, z, w, digits⟩ := List.length_eq_four.1 length
            rw [Char.ofNat_toNat] at value
            rw [if_pos small]
            rw [digits] at value shown ⊢
            exact .word value (List.all_eq_true.1 shown) (by omega)

/-- A character between double quotes reads back. -/
theorem Escapes.readDouble {c : Char} {written : List Char} (h : Escapes c written)
    (rest : List Char) :
    readDouble (written ++ rest) = withChar c (readDouble rest) := by
  cases h with
  | self quote backslash line _ =>
    rw [List.singleton_append, readDouble.eq_def]
    simp [quote, backslash, line]
  | @letter e stands =>
    have byte : e ≠ 'x' := by rintro rfl; cases stands
    have word : e ≠ 'u' := by rintro rfl; cases stands
    rw [List.cons_append, readDouble.eq_def]
    simp [byte, word, stands]
  | byte stands _ =>
    rw [List.cons_append, readDouble.eq_def]
    simp [stands]
  | word stands _ _ =>
    rw [List.cons_append, readDouble.eq_def]
    simp [stands]

/-- A text between double quotes reads back. -/
theorem readDouble_flatMap (cs rest : List Char) :
    readDouble (cs.flatMap escape ++ '"' :: rest) = some (cs, rest) := by
  induction cs with
  | nil =>
    rw [List.flatMap_nil, List.nil_append, readDouble.eq_def]
    rfl
  | cons c cs ih =>
    rw [List.flatMap_cons, List.append_assoc, (escapes_escape c).readDouble, ih, withChar_some]

/-- What is written between double quotes can be shown. -/
theorem Escapes.shown {c : Char} {written : List Char} (h : Escapes c written) :
    ∀ d ∈ written, isPrintable d = true := by
  cases h with
  | self _ _ _ shown => exact fun d hd => List.mem_singleton.1 hd ▸ shown
  | @letter e stands =>
    have shown : isPrintable e = true := by
      unfold escaped? at stands
      split at stands <;> first | rfl | cases stands
    intro d hd
    rcases List.mem_pair.1 hd with rfl | rfl
    · rfl
    · exact shown
  | byte _ shown =>
    have signs : isPrintable '\\' = true ∧ isPrintable 'x' = true := ⟨rfl, rfl⟩
    simpa [signs] using shown
  | word _ shown _ =>
    have signs : isPrintable '\\' = true ∧ isPrintable 'u' = true := ⟨rfl, rfl⟩
    simpa [signs] using shown

/-- What is written for a character is at most four times as long as the character. -/
theorem Escapes.length_le {c : Char} {written : List Char} (h : Escapes c written) :
    written.length ≤ 4 * c.utf8Size := by
  have one : 0 < c.utf8Size := c.utf8Size_pos
  cases h with
  | word _ _ large =>
    have two : c.utf8Size ≠ 1 := by
      rw [Ne, Char.utf8Size_eq_one_iff, UInt32.le_iff_toNat_le]
      exact Nat.not_le_of_lt (Nat.lt_trans (by decide) large)
    simp only [List.length_cons, List.length_nil]
    omega
  | _ =>
    simp only [List.length_cons, List.length_nil]
    omega

end MonitorFleet.Yaml
