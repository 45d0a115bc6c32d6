import MonitorFleet.Proofs.Yaml.Blocks
import MonitorFleet.Proofs.Yaml.Inline

/-!
# Texts read back

Whichever of the four styles a text is written in, the text reads back from its line, as a value and, if
it is short, as a key.

## What is proved

* `suits_style`: what the style of a text says about the text.
* `readValue_writeLine`: **every text reads back from its line.**
* `readKey_writeText`: a short text reads back as a key on the line of its value.
* `shown_writeText`: what is written for a text can be shown.
-/

namespace MonitorFleet.Yaml

open Document (blanks)

/-! ### All styles -/

/-- What the style of a text says about the text. -/
inductive Suits (s : String) : Style → Prop where
  | plain (other : readsAsOther s = false) (allowed : allowsPlain s.toList = true) : Suits s .plain
  | single (lines : '\n' ∉ s.toList) (allowed : allowsQuotes s.toList = true) : Suits s .single
  | double : Suits s .double
  | literal (lines : '\n' ∈ s.toList) (allowed : allowsBlock s.toList = true) : Suits s .literal

theorem suits_style (s : String) : Suits s (style s) := by
  unfold style
  dsimp only
  split
  · next lines =>
    split
    · next allowed => exact .literal (by simpa using lines) allowed
    · exact .double
  · next lines =>
    split
    · next allowed =>
      rw [Bool.and_eq_true, Bool.not_eq_true'] at allowed
      exact .plain allowed.1 allowed.2
    · split
      · next allowed => exact .single (by simpa using lines) allowed
      · exact .double

/-- A text that is written as it is stands for itself. -/
theorem resolve_of_plain {s : String} (plain : style s = .plain) : resolve s = .text s := by
  have suits := suits_style s
  rw [plain] at suits
  obtain ⟨other, -⟩ := suits
  exact (resolve_eq_text_iff s).2 (.inl other)

/-- How a text begins that is a word or in quotes: not with a blank or a sign of the format, and not
with a mark of structure. -/
inductive BeginsFlow : List Char → Prop where
  | word {c : Char} {cs : List Char} (starts : startsWord (c :: cs) = true) : BeginsFlow (c :: cs)
  | single (cs : List Char) : BeginsFlow ('\'' :: cs)
  | double (cs : List Char) : BeginsFlow ('"' :: cs)

theorem startsWord_append {cs : List Char} (h : startsWord cs = true) (rest : List Char) :
    startsWord (cs ++ rest) = true := by
  cases cs with
  | nil => cases h
  | cons c cs =>
    simp only [List.cons_append, startsWord, Bool.and_eq_true] at h ⊢
    obtain ⟨blank, first⟩ := h
    refine ⟨blank, ?_⟩
    split
    · next sign =>
      rw [if_pos sign, Bool.not_eq_true'] at first
      rw [Bool.not_eq_true']
      exact endsWord_append first rest
    · next sign =>
      rw [if_neg sign] at first
      exact first

theorem BeginsFlow.of_startsWord {cs : List Char} (h : startsWord cs = true) : BeginsFlow cs := by
  cases cs with
  | nil => cases h
  | cons c cs => exact .word h

theorem BeginsFlow.append {cs : List Char} (h : BeginsFlow cs) (rest : List Char) :
    BeginsFlow (cs ++ rest) := by
  cases h with
  | word starts => exact .word (startsWord_append starts rest)
  | single cs => exact .single _
  | double cs => exact .double _

theorem beginsFlow_writeText (indent : Nat) {s : String} (flow : style s ≠ .literal) :
    BeginsFlow (writeText indent s) := by
  have suits := suits_style s
  unfold writeText
  cases h : style s with
  | plain =>
    rw [h] at suits
    obtain ⟨other, allowed⟩ := suits
    exact .of_startsWord (isWord_of_allowsPlain (ne_nil_of_plain other) allowed).starts
  | single => exact .single _
  | double => exact .double _
  | literal => exact absurd h flow

theorem readFlow_of_startsWord {parent : Nat} {cs : List Char} (h : startsWord cs = true) :
    readFlow parent cs = readWord cs := by
  unfold readFlow
  split
  · exact absurd h (by simp [startsWord, indicators])
  · exact absurd h (by simp [startsWord, indicators])
  · rfl

theorem EndsBefore.head {rest : List Char} (ends : EndsBefore rest) : rest.head? ≠ some '\'' := by
  obtain ⟨c, rest, rfl, line | ⟨rfl, -⟩⟩ := ends
  · rw [List.head?_cons, Ne, Option.some_inj]
    rintro rfl
    exact absurd line (by decide)
  · simp

/-- A text that is a word or in quotes reads back, if a word ends before what follows. -/
theorem readFlow_writeText {parent indent : Nat} (deeper : parent < indent) {s : String}
    (flow : style s ≠ .literal) {rest : List Char} (ends : EndsBefore rest) :
    readFlow parent (writeText indent s ++ rest) = some (.text s, rest) := by
  have suits := suits_style s
  unfold writeText
  cases h : style s with
  | plain =>
    rw [h] at suits
    obtain ⟨other, allowed⟩ := suits
    have starts := (isWord_of_allowsPlain (ne_nil_of_plain other) allowed).starts
    rw [readFlow_of_startsWord (startsWord_append starts rest), readWord_plain other allowed ends]
  | single =>
    rw [h] at suits
    obtain - | ⟨lines, allowed⟩ := suits
    simp only [allowsQuotes, needsEscapes, Bool.and_eq_true, Bool.not_eq_true',
      Bool.or_eq_false_iff] at allowed
    have inner := readSingle_quoteSingle deeper lines allowed.2 ends.head false fun h => by cases h
    rw [if_neg Bool.false_ne_true] at inner
    have written : '\'' :: quoteSingle indent false s.toList ++ ['\''] ++ rest =
        '\'' :: (quoteSingle indent false s.toList ++ '\'' :: rest) := by simp
    rw [written, readFlow, inner]
    simp [allowed.1.1]
  | double =>
    have written : '"' :: s.toList.flatMap escape ++ ['"'] ++ rest =
        '"' :: (s.toList.flatMap escape ++ '"' :: rest) := by simp
    rw [written, readFlow, readDouble_flatMap]
    simp
  | literal => exact absurd h flow

/-! ### Lines -/

/-- A value that begins neither a block nor a collection is a word or in quotes. -/
theorem readValue_of_beginsFlow {parent : Nat} {cs : List Char} (h : BeginsFlow cs) :
    readValue parent cs = (readFlow parent cs).bind fun r => endLine r.1 r.2 := by
  unfold readValue
  cases h with
  | @word c cs starts =>
    split
    · next heq =>
      obtain ⟨rfl, -⟩ := List.cons.inj heq
      exact absurd starts (by simp [startsWord, indicators])
    · next heq =>
      obtain ⟨rfl, -⟩ := List.cons.inj heq
      exact absurd starts (by simp [startsWord, indicators])
    · next heq =>
      obtain ⟨rfl, -⟩ := List.cons.inj heq
      exact absurd starts (by simp [startsWord, indicators])
    · rfl
  | single cs => rfl
  | double cs => rfl

/-- Quotes and words end no line. -/
theorem writeLine_of_flow {indent : Nat} {s : String} (flow : style s ≠ .literal) :
    writeLine indent s = writeText indent s ++ ['\n'] := by
  have last : (writeText indent s).getLast?.any isBreak = false := by
    have suits := suits_style s
    unfold writeText
    cases h : style s with
    | plain =>
      rw [h] at suits
      obtain ⟨other, allowed⟩ := suits
      have lines := (isWord_of_allowsPlain (ne_nil_of_plain other) allowed).lines
      rw [isMultiline, List.any_eq_false] at lines
      cases hlast : s.toList.getLast? with
      | none => rfl
      | some c => simpa [hlast] using lines c (List.mem_of_getLast? hlast)
    | single =>
      simp only [List.getLast?_concat]
      rfl
    | double =>
      simp only [List.getLast?_concat]
      rfl
    | literal => exact absurd h flow
  rw [writeLine, last, if_neg Bool.false_ne_true]

theorem indentLines_last (indent : Nat) (fresh : Bool) (cs : List Char) (c : Char) :
    ∃ before, indentLines indent fresh (cs ++ [c]) = before ++ [c] := by
  induction cs generalizing fresh with
  | nil =>
    rw [List.nil_append, indentLines]
    split
    · exact ⟨[], rfl⟩
    · exact ⟨_, rfl⟩
  | cons d cs ih =>
    rw [List.cons_append, indentLines]
    split
    · obtain ⟨before, h⟩ := ih true
      exact ⟨d :: before, by rw [h]; rfl⟩
    · obtain ⟨before, h⟩ := ih false
      exact ⟨_ ++ d :: before, by rw [h, List.append_assoc]; rfl⟩

/-- A literal block ends like its text. -/
theorem writeLine_of_literal {indent : Nat} {s : String} (literal : style s = .literal) :
    writeLine indent s = literalBlock indent s.toList ++ lineEnd s.toList := by
  have suits := suits_style s
  rw [literal] at suits
  obtain - | - | - | ⟨lines, allowed⟩ := suits
  have last : (literalBlock indent s.toList).getLast? = s.toList.getLast? := by
    rcases List.eq_nil_or_concat s.toList with empty | ⟨cs, c, heq⟩
    · rw [empty] at lines
      cases lines
    · obtain ⟨before, hbefore⟩ := indentLines_last indent true cs c
      rw [heq, List.concat_eq_append, List.getLast?_concat, literalBlock, hbefore,
        ← List.cons_append, ← List.append_assoc, List.getLast?_concat]
  rw [writeLine, writeText, literal]
  simp only [last, lineEnd]
  split <;> simp

/-- Every text reads back from its line, if what follows is less deep. -/
theorem readValue_writeLine {parent : Nat} {rest : List Char} (h : Returns parent rest) (s : String) :
    readValue parent (writeLine (parent + 2) s ++ rest) = some (.text s, rest) := by
  by_cases literal : style s = .literal
  · have suits := suits_style s
    rw [literal] at suits
    obtain - | - | - | ⟨lines, allowed⟩ := suits
    obtain ⟨block, written, inner⟩ := readLiteral_literalBlock (List.ne_nil_of_mem lines) h
    rw [writeLine_of_literal literal, written, List.cons_append, List.cons_append, readValue, inner]
    simp
  · have begins := (beginsFlow_writeText (parent + 2) literal).append ('\n' :: rest)
    have deeper : parent < parent + 2 := by omega
    have inner := readFlow_writeText deeper literal (endsBefore_newline rest)
    rw [writeLine_of_flow literal, List.append_assoc, List.singleton_append,
      readValue_of_beginsFlow begins, inner]
    rfl

theorem flow_of_line {s : String} (line : isMultiline s.toList = false) : style s ≠ .literal := by
  intro literal
  have suits := suits_style s
  rw [literal] at suits
  obtain - | - | - | ⟨lines, -⟩ := suits
  rw [isMultiline, List.any_eq_false] at line
  exact line _ lines rfl

theorem length_flatMap_le {f : Char → List Char} (bound : ∀ c, (f c).length ≤ 4 * c.utf8Size)
    (cs : List Char) : (cs.flatMap f).length ≤ 4 * (String.ofList cs).utf8ByteSize := by
  induction cs with
  | nil => simp
  | cons c cs ih =>
    rw [List.flatMap_cons, List.length_append, String.ofList_cons, String.utf8ByteSize_append,
      String.utf8ByteSize_singleton, Nat.mul_add]
    exact Nat.add_le_add (bound c) ih

/-- Between single quotes, a text without line ends is written character by character. -/
theorem quoteSingle_of_line {cs : List Char} (line : isMultiline cs = false) (indent : Nat) :
    quoteSingle indent false cs = cs.flatMap fun c => if c = '\'' then ['\'', '\''] else [c] := by
  induction cs with
  | nil => rfl
  | cons c cs ih =>
    simp only [isMultiline, List.any_cons, Bool.or_eq_false_iff] at line
    rw [quoteSingle, line.1, if_neg Bool.false_ne_true, if_neg Bool.false_ne_true, ih line.2]
    rfl

/-- A short key is short enough in all its styles. -/
theorem length_writeText_le {key : String} (short : isShortKey key = true) (indent : Nat) :
    (writeText indent key).length ≤ maxKeyLength := by
  rw [isShortKey, Bool.and_eq_true, Bool.not_eq_true', decide_eq_true_eq] at short
  obtain ⟨line, size⟩ := short
  have bound : ∀ {f : Char → List Char}, (∀ c, (f c).length ≤ 4 * c.utf8Size) →
      (key.toList.flatMap f).length ≤ 4 * 128 := by
    intro f hf
    have := length_flatMap_le hf key.toList
    rw [String.ofList_toList] at this
    exact Nat.le_trans this (Nat.mul_le_mul_left 4 size)
  unfold writeText maxKeyLength
  cases h : style key with
  | plain =>
    have := bound (f := fun c => [c]) fun c => by
      have := c.utf8Size_pos
      simp only [List.length_singleton]
      omega
    rw [List.flatMap_singleton'] at this
    simp only
    omega
  | single =>
    rw [quoteSingle_of_line line]
    have := bound (f := fun c => if c = '\'' then ['\'', '\''] else [c]) fun c => by
      have := c.utf8Size_pos
      split <;> simp <;> omega
    simp only [List.length_cons, List.length_append, List.length_nil]
    omega
  | double =>
    have := bound (f := escape) fun c => (escapes_escape c).length_le
    simp only [List.length_cons, List.length_append, List.length_nil]
    omega
  | literal => exact absurd h (flow_of_line line)

/-- A short text reads back as a key on the line of its value. -/
theorem readKey_writeText {indent : Nat} (pos : 0 < indent) {key : String}
    (short : isShortKey key = true) {rest : List Char} (ends : endsWord rest = true) :
    readKey (writeText indent key ++ ':' :: rest) = some (key, rest) := by
  have length := length_writeText_le short indent
  rw [isShortKey, Bool.and_eq_true, Bool.not_eq_true'] at short
  rw [readKey, readFlow_writeText pos (flow_of_line short.1) (endsBefore_colon ends)]
  simp [ends, short.1]
  omega

/-- What begins with a sign of a block or a collection is no key. -/
theorem readKey_of_sign {c : Char} (h : c ∈ ['|', '[', '\x7b']) (cs : List Char) :
    readKey (c :: cs) = none := by
  have sign : isBreak c = false ∧ c ≠ ':' ∧ c ≠ '#' ∧ ∀ cs, startsWord (c :: cs) = false := by
    simp only [List.mem_cons, List.not_mem_nil, or_false] at h
    rcases h with rfl | rfl | rfl <;> exact ⟨rfl, by decide, by decide, fun _ => rfl⟩
  have word : readWord (c :: cs) = none := by
    simp [readWord, spanWord, sign]
  have flow : readFlow 0 (c :: cs) = readWord (c :: cs) := by
    unfold readFlow
    split
    · next heq =>
      obtain ⟨rfl, -⟩ := List.cons.inj heq
      exact absurd h (by decide)
    · next heq =>
      obtain ⟨rfl, -⟩ := List.cons.inj heq
      exact absurd h (by decide)
    · rfl
  rw [readKey, flow, word]

/-- A text on its line is no key. -/
theorem readKey_writeLine {indent : Nat} (pos : 0 < indent) (s : String) (rest : List Char) :
    readKey (writeLine indent s ++ rest) = none := by
  by_cases literal : style s = .literal
  · rw [writeLine_of_literal literal]
    exact readKey_of_sign (by decide) _
  · rw [writeLine_of_flow literal, List.append_assoc, List.singleton_append, readKey,
      readFlow_writeText pos literal (endsBefore_newline rest)]
    rfl

/-! ### What can be shown -/

theorem shown_blanks (n : Nat) : (blanks n).all isPrintable = true :=
  List.all_eq_true.2 fun c hc => by
    rw [List.eq_of_mem_replicate hc]
    rfl

theorem shown_indentation (indent : Nat) (fresh : Bool) :
    (if fresh then List.replicate indent ' ' else []).all isPrintable = true := by
  cases fresh with
  | true => exact shown_blanks indent
  | false => rfl

theorem shown_quoteSingle {cs : List Char} (h : cs.all isPrintable = true) (indent : Nat)
    (fresh : Bool) : (quoteSingle indent fresh cs).all isPrintable = true := by
  induction cs generalizing fresh with
  | nil => exact shown_indentation indent fresh
  | cons c cs ih =>
    obtain ⟨first, later⟩ := Bool.and_eq_true_iff.1 (List.all_cons.symm.trans h)
    rw [quoteSingle]
    split
    · rw [List.all_cons, first, ih later]
      rfl
    · have written : (if c = '\'' then ['\'', '\''] else [c]).all isPrintable = true := by
        split
        · rfl
        · simpa using first
      rw [List.all_append, List.all_append, shown_indentation, written, ih later]
      rfl

theorem shown_indentLines {cs : List Char} (h : cs.all isPrintable = true) (indent : Nat)
    (fresh : Bool) : (indentLines indent fresh cs).all isPrintable = true := by
  induction cs generalizing fresh with
  | nil => rfl
  | cons c cs ih =>
    obtain ⟨first, later⟩ := Bool.and_eq_true_iff.1 (List.all_cons.symm.trans h)
    rw [indentLines]
    split
    · rw [List.all_cons, first, ih later]
      rfl
    · rw [List.all_append, List.all_cons, shown_indentation, first, ih later]
      rfl

theorem shown_chomping (cs : List Char) : (chomping cs).all isPrintable = true := by
  rcases List.eq_nil_or_concat cs with rfl | ⟨cs, c, rfl⟩
  · rfl
  · rw [List.concat_eq_append, chomping_concat]
    split
    · rfl
    · split <;> rfl

theorem shown_of_needsEscapes {cs : List Char} (h : needsEscapes cs = false) :
    cs.all isPrintable = true := by
  simp only [needsEscapes, Bool.or_eq_false_iff, List.any_eq_false] at h
  exact List.all_eq_true.2 fun c hc => by simpa using h.2 c hc

/-- **What is written for a text can be shown.** -/
theorem shown_writeText (indent : Nat) (s : String) :
    (writeText indent s).all isPrintable = true := by
  have suits := suits_style s
  unfold writeText
  cases h : style s with
  | plain =>
    rw [h] at suits
    obtain ⟨-, allowed⟩ := suits
    simp only [allowsPlain, Bool.and_eq_true, Bool.not_eq_true'] at allowed
    exact shown_of_needsEscapes allowed.1.1.1.1.1
  | single =>
    rw [h] at suits
    obtain - | ⟨-, allowed⟩ := suits
    simp only [allowsQuotes, Bool.and_eq_true, Bool.not_eq_true'] at allowed
    have inner := shown_quoteSingle (shown_of_needsEscapes allowed.1) indent false
    rw [List.all_append, List.all_cons, inner]
    rfl
  | double =>
    have inner : (s.toList.flatMap escape).all isPrintable = true := by
      refine List.all_eq_true.2 fun d hd => ?_
      obtain ⟨c, -, hd⟩ := List.mem_flatMap.1 hd
      exact (escapes_escape c).shown d hd
    rw [List.all_append, List.all_cons, inner]
    rfl
  | literal =>
    rw [h] at suits
    obtain - | - | - | ⟨-, allowed⟩ := suits
    simp only [allowsBlock, Bool.and_eq_true, Bool.not_eq_true'] at allowed
    have lines := shown_indentLines (shown_of_needsEscapes allowed.1) indent true
    simp only [literalBlock]
    rw [List.all_append, List.all_append, List.all_cons, List.all_cons, shown_chomping, lines]
    split <;> rfl

theorem shown_writeLine (indent : Nat) (s : String) :
    (writeLine indent s).all isPrintable = true := by
  simp only [writeLine]
  split
  · exact shown_writeText indent s
  · rw [List.all_append, shown_writeText]
    rfl

end MonitorFleet.Yaml
