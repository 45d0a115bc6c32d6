import MonitorFleet.Proofs.Yaml.Reading

/-!
# Literal blocks

The lines of a literal block are told from those behind it by their indentation. A hint gives the
indentation where the first line does not show it, and a mark tells which of the line ends at the end
belong to the text.

## What is proved

* `readLines_indentLines`: indented lines read back up to a line that is less deep.
* `readChomping_chomping`: the line ends at the end read back by their mark.
* `readLiteral_literalBlock`: a literal block reads back.
-/

namespace MonitorFleet.Yaml

open Document (blanks)

/-! ### Lines -/

/-- That a block ends before a text: the text is over, or its first line is less deep than a
column allows. -/
def Returns (col : Nat) (rest : List Char) : Prop :=
  rest = [] ∨ ∃ k c cs, k ≤ col ∧ c ≠ ' ' ∧ isBreak c = false ∧ rest = blanks k ++ c :: cs

theorem Returns.mono {col col' : Nat} {rest : List Char} (h : Returns col rest) (hle : col ≤ col') :
    Returns col' rest := by
  rcases h with rfl | ⟨k, c, cs, hk, hne, line, rfl⟩
  · exact .inl rfl
  · exact .inr ⟨k, c, cs, Nat.le_trans hk hle, hne, line, rfl⟩

/-- Blanks at the beginning of a line are counted. -/
theorem readLines_blanks {indent : Nat} {cs : List Char} {k n : Nat} (hle : k + n ≤ indent) :
    readLines indent (some k) (blanks n ++ cs) = readLines indent (some (k + n)) cs := by
  induction n generalizing k with
  | zero => rfl
  | succ n ih =>
    have line : isBreak ' ' = false := rfl
    rw [blanks, List.replicate_succ, List.cons_append, readLines, ← blanks]
    have hne : k ≠ indent := by omega
    simp only [line, hne, Bool.false_eq_true, if_false, if_true]
    rw [ih (by omega), Nat.add_assoc, Nat.add_comm 1 n]

theorem readLines_returns {col indent : Nat} (deeper : col < indent) {rest : List Char}
    (h : Returns col rest) : readLines indent (some 0) rest = ([], rest) := by
  rcases h with rfl | ⟨k, c, cs, hk, hne, line, rfl⟩
  · rfl
  · have short : k ≠ indent := by omega
    rw [readLines_blanks (by omega), Nat.zero_add, readLines]
    simp [line, hne, short]

/-- Whether a line begins behind a text. -/
def beginsLine (fresh : Bool) : List Char → Bool
  | [] => fresh
  | c :: cs => beginsLine (isBreak c) cs

/-- Indented lines read back up to the beginning of a line that is less deep. -/
theorem readLines_indentLines {col indent : Nat} (deeper : col < indent) {rest : List Char}
    (h : Returns col rest) {cs : List Char} {fresh : Bool} (ends : beginsLine fresh cs = true) :
    readLines indent (if fresh then some 0 else none) (indentLines indent fresh cs ++ rest) =
      (cs, rest) := by
  induction cs generalizing fresh with
  | nil =>
    obtain rfl : fresh = true := ends
    exact readLines_returns deeper h
  | cons c cs ih =>
    have inner := ih ends
    rw [indentLines]
    cases line : isBreak c with
    | true =>
      rw [line] at inner
      have kept : readLines indent (if fresh then some 0 else none)
          (c :: (indentLines indent true cs ++ rest)) =
          (readLines indent (some 0) (indentLines indent true cs ++ rest)).map (c :: ·) id := by
        cases fresh <;> simp [readLines, line]
      exact kept.trans (congrArg (Prod.map (c :: ·) id) inner)
    | false =>
      rw [line] at inner
      have kept : ∀ rest, readLines indent none (c :: rest) =
          (readLines indent none rest).map (c :: ·) id := by
        simp [readLines, line]
      have passed : ∀ rest, readLines indent (some 0) (blanks indent ++ c :: rest) =
          (readLines indent none rest).map (c :: ·) id := by
        intro rest
        rw [readLines_blanks (Nat.le_of_eq (Nat.zero_add _)), Nat.zero_add, readLines]
        simp [line]
      cases fresh with
      | true =>
        rw [if_pos rfl, if_pos rfl, if_neg Bool.false_ne_true, List.append_assoc]
        exact (passed _).trans (congrArg (Prod.map (c :: ·) id) inner)
      | false => exact (kept _).trans (congrArg (Prod.map (c :: ·) id) inner)

/-! ### Line ends -/

theorem beginsLine_concat (fresh : Bool) (cs : List Char) (c : Char) :
    beginsLine fresh (cs ++ [c]) = isBreak c := by
  induction cs generalizing fresh with
  | nil => rfl
  | cons d cs ih => exact ih _

/-- A line end at the end of lines stands behind them. -/
theorem indentLines_concat {c : Char} (line : isBreak c = true) (indent : Nat) (fresh : Bool)
    (cs : List Char) : indentLines indent fresh (cs ++ [c]) = indentLines indent fresh cs ++ [c] := by
  induction cs generalizing fresh with
  | nil => simp [indentLines, line]
  | cons d cs ih =>
    rw [List.cons_append, indentLines, indentLines, ih, ih]
    split <;> simp

/-- What a literal block has behind it, up to the end of its line. -/
def lineEnd (cs : List Char) : List Char := if cs.getLast?.any isBreak then [] else ['\n']

theorem lineEnd_concat (cs : List Char) (c : Char) :
    lineEnd (cs ++ [c]) = if isBreak c then [] else ['\n'] := by
  simp [lineEnd]

theorem indentLines_lineEnd (indent : Nat) (cs : List Char) :
    indentLines indent true cs ++ lineEnd cs = indentLines indent true (cs ++ lineEnd cs) := by
  unfold lineEnd
  split
  · simp
  · exact (indentLines_concat rfl ..).symm

theorem beginsLine_lineEnd (cs : List Char) : beginsLine true (cs ++ lineEnd cs) = true := by
  rcases List.eq_nil_or_concat cs with rfl | ⟨cs, c, rfl⟩
  · rfl
  · rw [List.concat_eq_append, lineEnd_concat]
    split
    · next line => rw [List.append_nil, beginsLine_concat, line]
    · exact beginsLine_concat ..

theorem chomping_concat (cs : List Char) (c : Char) : chomping (cs ++ [c]) =
    if isBreak c = false then ['-'] else if cs.getLast?.all isBreak then ['+'] else [] := by
  rcases List.eq_nil_or_concat cs with rfl | ⟨cs, d, rfl⟩
  · cases line : isBreak c <;> simp [chomping, line]
  · cases line : isBreak c <;> cases before : isBreak d <;> simp [chomping, line, before]

/-- The line ends at the end of a block read back by their mark. -/
theorem readChomping_chomping (cs : List Char) : ∃ mark,
    (∀ rest, readChomping (chomping cs ++ '\n' :: rest) = (mark, '\n' :: rest)) ∧
      Chomping.apply mark (cs ++ lineEnd cs) = cs := by
  rcases List.eq_nil_or_concat cs with rfl | ⟨cs, c, rfl⟩
  · exact ⟨.strip, fun _ => rfl, by decide⟩
  · rw [List.concat_eq_append, chomping_concat, lineEnd_concat]
    cases line : isBreak c with
    | false =>
      refine ⟨.strip, fun _ => rfl, ?_⟩
      have newline : isBreak '\n' = true := rfl
      simp only [Chomping.apply, Bool.false_eq_true, if_false]
      rw [List.rdropWhile_concat_pos _ _ _ newline, List.rdropWhile_concat_neg]
      simp [line]
    | true =>
      simp only [Bool.true_eq_false, if_false, if_true, List.append_nil]
      split
      · exact ⟨.keep, fun _ => rfl, rfl⟩
      · next before =>
        -- A line stands before the only line end.
        obtain ⟨cs, d, rfl⟩ : ∃ ds d, cs = ds ++ [d] := by
          rcases List.eq_nil_or_concat cs with rfl | ⟨ds, d, rfl⟩
          · exact absurd rfl before
          · exact ⟨ds, d, List.concat_eq_append⟩
        have inner : isBreak d = false := by simpa using before
        refine ⟨.clip, fun _ => rfl, ?_⟩
        have stripped : (cs ++ [d] ++ [c]).rdropWhile isBreak = cs ++ [d] := by
          rw [List.rdropWhile_concat_pos _ _ _ line, List.rdropWhile_concat_neg]
          simp [inner]
        simp only [Chomping.apply, stripped, List.drop_left]
        simp

/-! ### Blocks -/

theorem readHint_chomping (cs rest : List Char) :
    readHint (chomping cs ++ '\n' :: rest) = (none, chomping cs ++ '\n' :: rest) := by
  unfold chomping
  split
  · rfl
  · split
    · rfl
    · split
      · rfl
      · split <;> rfl

/-- Blanks in front of a text are counted. -/
theorem leadingBlanks_blanks (n : Nat) {c : Char} (hne : c ≠ ' ') (cs : List Char) :
    leadingBlanks (blanks n ++ c :: cs) = n ∧ (blanks n ++ c :: cs).drop n = c :: cs := by
  have length : (blanks n).length = n := List.length_replicate
  refine ⟨?_, List.drop_left' length⟩
  rw [leadingBlanks, List.takeWhile_append_of_pos]
  · simp [length, hne]
  · intro d hd
    rw [List.eq_of_mem_replicate hd]
    rfl

/-- **A literal block reads back**, whatever its lines are, up to the beginning of a line that is not
deeper than the block's parent. -/
theorem readLiteral_literalBlock {parent : Nat} {cs rest : List Char} (hne : cs ≠ [])
    (h : Returns parent rest) :
    ∃ block, literalBlock (parent + 2) cs = '|' :: block ∧
      readLiteral parent (block ++ lineEnd cs ++ rest) = some (cs, rest) := by
  obtain ⟨mark, hmark, chomped⟩ := readChomping_chomping cs
  have lines : readLines (parent + 2) (some 0)
      (indentLines (parent + 2) true (cs ++ lineEnd cs) ++ rest) = (cs ++ lineEnd cs, rest) :=
    readLines_indentLines (by omega) h (beginsLine_lineEnd cs)
  refine ⟨(if cs.head? = some ' ' || cs.head?.any isBreak then ['2'] else []) ++ chomping cs ++
    '\n' :: indentLines (parent + 2) true cs, rfl, ?_⟩
  generalize hint : (if cs.head? = some ' ' || cs.head?.any isBreak then ['2'] else []) = digits
  have written : digits ++ chomping cs ++ '\n' :: indentLines (parent + 2) true cs ++ lineEnd cs ++
      rest = digits ++ (chomping cs ++
        '\n' :: (indentLines (parent + 2) true (cs ++ lineEnd cs) ++ rest)) := by
    simp [← indentLines_lineEnd]
  rw [written]
  split at hint
  · subst hint
    simp [readLiteral, readHint, hmark, blockIndent?, lines, chomped]
  · next first =>
    subst hint
    have indented : blockIndent? parent none
        (indentLines (parent + 2) true (cs ++ lineEnd cs) ++ rest) = some (parent + 2) := by
      obtain ⟨c, cs, rfl⟩ := List.exists_cons_of_ne_nil hne
      simp only [List.head?_cons, Option.some_inj, Option.any_some, Bool.or_eq_true,
        decide_eq_true_eq, not_or, Bool.not_eq_true] at first
      obtain ⟨counted, dropped⟩ := leadingBlanks_blanks (parent + 2) first.1
        (indentLines (parent + 2) false (cs ++ lineEnd (c :: cs)) ++ rest)
      have begins : indentLines (parent + 2) true (c :: cs ++ lineEnd (c :: cs)) ++ rest =
          blanks (parent + 2) ++
            c :: (indentLines (parent + 2) false (cs ++ lineEnd (c :: cs)) ++ rest) := by
        rw [List.cons_append, indentLines, first.2, if_neg Bool.false_ne_true, if_pos rfl,
          List.append_assoc]
        rfl
      rw [begins, blockIndent?]
      simp [counted, dropped, first.2]
    simp [readLiteral, readHint_chomping, hmark, indented, lines, chomped]

end MonitorFleet.Yaml
